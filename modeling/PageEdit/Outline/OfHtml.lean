import PageEdit.Outline.Basic
import PageEdit.Outline.Names
import PageEdit.Html.Build.Reader
import PageEdit.Html.Markup

/-!
# The outline of a page

The tree below the body is walked in document order. Scripts, styles and what stands in for scripts are
passed over with all that is in them, and so is the content of templates. Every element becomes an entry;
a run of text becomes one if it has at least two characters that are not blank.

* `Outline.ofHtml`: the outline of a text.
-/

namespace PageEdit.Outline

open Html

/-- A run with fewer characters that are not blank is left out. -/
def runMinimum : Nat := 2

/-- How many classes a selector names. -/
def classLimit : Nat := 3

/-- The selector of an element: by section, by identifier, by classes or by its tag. -/
def selectorOf (e : Element) : String :=
  match e.section? with
  | some id => sectionSelector id
  | none =>
    match e.id?.filter (!·.isEmpty) with
    | some id => "#" ++ Css.ident id
    | none => e.label ++ String.join ((e.classes.take classLimit).map fun c => "." ++ Css.ident c)

/-- The pairs with `value` under `key` in the order of keys, in place of what was there. -/
def putPair (key value : String) : List (String × String) → List (String × String)
  | [] => [(key, value)]
  | (k, v) :: rest =>
    if key == k then (key, value) :: rest
    else if key < k then (key, value) :: (k, v) :: rest
    else (k, v) :: putPair key value rest

/-- The attributes of an element but for its classes, in the order of their names. -/
def attributesOf (e : Element) : List (String × String) :=
  (e.attributes.filter (·.1 != "class")).foldl (fun acc (k, v) => putPair k v acc) []

/-- What an element passes on to what is in it. -/
structure Owner where
  id : String
  sectionId : Option String
  selector : String
  path : String

/-- An outline under construction. -/
structure Draft where
  /-- How many entries and runs there are. -/
  count : Nat
  entries : List Entry
  runs : List Run
  /-- The identifiers that have been given. -/
  given : List String

namespace Draft

/-- A draft with nothing in it. -/
def empty : Draft := ⟨0, [], [], []⟩

/-- Adds the entry of an element, whose children are not known yet. -/
def addElement (hash : String → String) (owner : Option Owner) (outer : Option String)
    (e : Element) (children : List Node) (d : Draft) : Draft × Owner :=
  let inherited := match owner with
    | some o => o.sectionId
    | none => outer
  let sectionId := e.section?.or inherited
  let count := d.count + 1
  let seed := e.label ++ "_" ++ toString count ++ "_" ++ sectionId.getD "root"
  let id := fresh hash "node" seed d.given
  let path := match owner with
    | some o => o.path ++ "/" ++ e.label
    | none => e.label
  let node := Node.element e children
  let entry : Entry :=
    { id
      sectionId
      tag := e.label
      classes := e.classes
      selector := selectorOf e
      path
      markup := node.outerMarkup
      text := Text.cut textLimit node.textContent
      children := []
      parent := owner.map (·.id)
      attributes := attributesOf e }
  ({ d with count, entries := d.entries ++ [entry], given := d.given ++ [id] },
    ⟨id, sectionId, entry.selector, path⟩)

/-- Adds a run of text, unless it is too short. -/
def addRun (hash : String → String) (owner : Owner) (s : String) (d : Draft) : Draft :=
  let s := Text.trim s
  if s.toList.countP (!Text.isBlank ·) < runMinimum then d
  else
    let count := d.count + 1
    let id := fresh hash "text" ("text_" ++ toString count ++ "_" ++ owner.id) d.given
    let run : Run :=
      { id
        selector := owner.selector
        path := owner.path
        text := s
        sectionId := owner.sectionId
        parent := owner.id }
    { d with count, runs := d.runs ++ [run], given := d.given ++ [id] }

mutual

/-- Adds a node and all that is in it. -/
def visit (hash : String → String) (owner : Option Owner) (outer : Option String) (d : Draft) :
    Node → Draft
  | .element e children =>
    if isSkipped e.label then d
    else
      let (d, o) := d.addElement hash owner outer e children
      visitAll hash o d children
  | .text s =>
    match owner with
    | some o => d.addRun hash o s
    | none => d
  | _ => d

/-- Adds the nodes in an element. -/
def visitAll (hash : String → String) (owner : Owner) (d : Draft) : List Node → Draft
  | [] => d
  | n :: rest => visitAll hash owner (visit hash (some owner) none d n) rest

end

/-- An entry with the identifiers of its children. -/
def withChildren (entries : List Entry) (e : Entry) : Entry :=
  { e with children := (entries.filter (·.parent == some e.id)).map (·.id) }

/-- The outline of a draft. -/
def finish (d : Draft) (size : Nat) : Outline :=
  ofEntries (d.entries.map (withChildren d.entries)) d.runs size

end Draft

/-- The section that a place is in by what is around it. -/
def outerSection (p : Place) : Option String :=
  p.ancestors.findSome? fun a => a.element?.bind Element.section?

/-- The outline of a document. -/
def ofDocument (hash : String → String) (doc : Document) (size : Nat) : Outline :=
  let body := doc.bodyPlace
  (Draft.empty.visit hash none (outerSection body) body.node).finish size

/-- The outline of a text. -/
def ofHtml (html : String) : Outline :=
  ofDocument shortHash (.ofHtml html) html.utf8ByteSize

/-- The outline of some bytes, if they are UTF-8. -/
def ofBytes (bytes : List UInt8) : Except Text.Utf8.Fault Outline :=
  (Text.Utf8.decode bytes).map ofHtml

end PageEdit.Outline
