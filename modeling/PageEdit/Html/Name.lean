/-!
# Names of elements and attributes

A name has a label and the vocabulary that it belongs to. Attributes with a vocabulary of their own have
a colon in their names, with what stands for the vocabulary before it.

* `AttrName.before` is the order in which an element keeps its attributes; `insertAttr` keeps it.
-/

namespace PageEdit.Html

/-- The vocabularies of elements. -/
inductive Space where
  | html
  | svg
  | math
  deriving Repr, DecidableEq, Inhabited

/-- The name of an element. -/
structure Name where
  space : Space
  label : String
  deriving Repr, DecidableEq, Inhabited

/-- The name of an element of HTML. -/
def Name.html (label : String) : Name := ⟨.html, label⟩

/-- Whether a name is that of the HTML element `label`. -/
def Name.isHtml (name : Name) (label : String) : Bool := name.space == .html && name.label == label

/-- The vocabularies of attributes, in the order in which an element keeps them. -/
inductive AttrSpace where
  /-- Attributes of no vocabulary. -/
  | plain
  /-- The declaration `xmlns`. -/
  | declaration
  | xlink
  | xml
  /-- The declarations `xmlns:…`. -/
  | xmlns
  deriving Repr, DecidableEq, Inhabited

/-- The place of a vocabulary in their order. -/
def AttrSpace.rank : AttrSpace → Nat
  | .plain => 0
  | .declaration => 1
  | .xlink => 2
  | .xml => 3
  | .xmlns => 4

/-- The name of an attribute. -/
structure AttrName where
  space : AttrSpace
  label : String
  deriving Repr, DecidableEq, Inhabited

/-- The name of an attribute of no vocabulary. -/
def AttrName.plain (label : String) : AttrName := ⟨.plain, label⟩

/-- What stands before the colon in the names of a vocabulary. -/
def AttrSpace.lead? : AttrSpace → Option String
  | .plain => none
  | .declaration => some ""
  | .xlink => some "xlink"
  | .xml => some "xml"
  | .xmlns => some "xmlns"

/-- A name in full. That of the declaration `xmlns` has a colon with nothing before it. -/
def AttrName.text (name : AttrName) : String :=
  match name.space.lead? with
  | none => name.label
  | some lead => lead ++ ":" ++ name.label

/-- A name in markup, where the declaration `xmlns` has no colon. -/
def AttrName.markup (name : AttrName) : String :=
  if name.space == .declaration then name.label else name.text

/-- The order of attribute names: by vocabulary, then by label. -/
def AttrName.before (a b : AttrName) : Bool :=
  if a.space == b.space then decide (a.label < b.label) else decide (a.space.rank < b.space.rank)

/-- An attribute. -/
structure Attr where
  name : AttrName
  value : String
  deriving Repr, DecidableEq, Inhabited

/-- The attributes with one more in its place, unless its name is there. -/
def insertAttr (attr : Attr) : List Attr → List Attr
  | [] => [attr]
  | a :: rest =>
    if attr.name == a.name then a :: rest
    else if attr.name.before a.name then attr :: a :: rest
    else a :: insertAttr attr rest

/-- The attributes of both lists in their order; of equal names those of the first list stand. -/
def mergeAttrs (attrs more : List Attr) : List Attr := more.foldl (fun acc a => insertAttr a acc) attrs

/-- Attributes in their order, the first of equal names standing. -/
def sortAttrs (attrs : List Attr) : List Attr := mergeAttrs [] attrs

end PageEdit.Html
