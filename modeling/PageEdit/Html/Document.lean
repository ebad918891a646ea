import PageEdit.Html.ElementSets

/-!
# Documents

A document is a tree with an `html` element at its root and comments and document types around it.
Elements are numbered in the order in which reading made them; the content of a template hangs under
a node of its own. Trees that reading has cut off from the document are kept beside it, as selectors
still look into them.

* `Node.elementsAll_eq_flatMap`: the elements of some trees are those of each in turn.
-/

namespace PageEdit.Html

/-- What is said of an element apart from its content. -/
structure Element where
  /-- The number of the element. -/
  id : Nat
  name : Name
  /-- The attributes in their order. -/
  attrs : List Attr
  deriving Repr, DecidableEq, Inhabited

/-- A node of a document. -/
inductive Node where
  | doctype (name : String)
  | comment (text : String)
  | text (text : String)
  /-- The content of a template. -/
  | fragment (children : List Node)
  | element (element : Element) (children : List Node)
  deriving Inhabited

/-- A document. -/
structure Document where
  /-- What stands before the root element. -/
  before : List Node
  /-- The number of the root element. -/
  rootId : Nat
  /-- The attributes of the root element. -/
  rootAttrs : List Attr
  /-- The content of the root element. -/
  children : List Node
  /-- What stands after the root element. -/
  after : List Node
  /-- Trees that have been cut off. -/
  loose : List Node

namespace Element

/-- The label of an element's name. -/
abbrev label (e : Element) : String := e.name.label

/-- The value of the attribute of no vocabulary with this name. -/
def attr? (e : Element) (label : String) : Option String :=
  (e.attrs.find? (·.name == AttrName.plain label)).map (·.value)

/-- The attributes with their names in full. -/
def attributes (e : Element) : List (String × String) :=
  e.attrs.map fun a => (a.name.text, a.value)

/-- The value of the attribute with this name in full. -/
def attribute? (e : Element) (name : String) : Option String :=
  (e.attributes.find? (·.1 == name)).map (·.2)

/-- The identifier of an element: the first attribute with the label `id`, in any vocabulary. -/
def id? (e : Element) : Option String :=
  (e.attrs.find? (·.name.label == "id")).map (·.value)

end Element

namespace Node

/-- The content of a node. -/
def children : Node → List Node
  | .fragment children => children
  | .element _ children => children
  | _ => []

/-- The element that a node is. -/
def element? : Node → Option Element
  | .element e _ => some e
  | _ => none

/-- Whether a node is an element. -/
def isElement (n : Node) : Bool := n.element?.isSome

mutual

/-- The elements of a tree in document order, those of templates included. -/
def elements : Node → List Element
  | .element e children => e :: elementsAll children
  | .fragment children => elementsAll children
  | _ => []

/-- The elements of some trees in document order. -/
def elementsAll : List Node → List Element
  | [] => []
  | n :: rest => elements n ++ elementsAll rest

end

theorem elementsAll_eq_flatMap (nodes : List Node) :
    elementsAll nodes = nodes.flatMap elements := by
  induction nodes with
  | nil => simp [elementsAll]
  | cons n rest ih => simp [elementsAll, ih]

end Node

namespace Document

/-- The root element. -/
def rootElement (doc : Document) : Element := ⟨doc.rootId, .html "html", doc.rootAttrs⟩

/-- The tree of the root element. -/
def root (doc : Document) : Node := .element doc.rootElement doc.children

/-- The nodes of the document, without what has been cut off. -/
def nodes (doc : Document) : List Node := doc.before ++ doc.root :: doc.after

/-- A document with nothing in it but its root. -/
def empty : Document := ⟨[], 0, [], [], [], []⟩

end Document

end PageEdit.Html
