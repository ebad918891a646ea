import PageEdit.Html.Content
import PageEdit.Css.Ident
import PageEdit.Number.Total

/-!
# Outlines

An outline lists what of a page can be addressed: its elements, the runs of text in them, and its
sections, which are marked by an attribute and hold every element that has no nearer mark around it.

* `Outline.ofEntries`: the sections of an outline and their index come from its entries alone.
-/

namespace PageEdit

/-- The attribute that marks a section. -/
def sectionAttr : String := "data-section-id"

/-- Characters of the text of an element or section that are kept. -/
def textLimit : Nat := 500

/-- Characters of the text of a section that a preview has. -/
def previewLimit : Nat := 200

/-- The identifier of the section that an element marks. An empty one marks none. -/
def Html.Element.section? (e : Html.Element) : Option String :=
  (e.attr? sectionAttr).filter (!·.isEmpty)

/-- A text between single quotes in a selector. -/
def Css.quoteChars : List Char → List Char
  | [] => []
  | c :: cs => (if c == '\\' || c == '\'' then ['\\', c] else [c]) ++ quoteChars cs

/-- The selector of the elements that mark a section. -/
def sectionSelector (id : String) : String :=
  "[" ++ sectionAttr ++ "='" ++ String.ofList (Css.quoteChars id.toList) ++ "']"

namespace Outline

/-- An element of a page. -/
structure Entry where
  id : String
  /-- The section it belongs to. -/
  sectionId : Option String
  tag : String
  classes : List String
  /-- A selector that picks it. -/
  selector : String
  /-- The tags from the root of the outline down to it. -/
  path : String
  markup : String
  /-- The beginning of its text. -/
  text : String
  /-- The identifiers of its children in the outline. -/
  children : List String
  /-- The identifier of its parent in the outline. -/
  parent : Option String
  /-- Its attributes but for the classes, in the order of their names. -/
  attributes : List (String × String)
  deriving Repr, DecidableEq, Inhabited

/-- A run of text. -/
structure Run where
  id : String
  selector : String
  path : String
  text : String
  sectionId : Option String
  parent : String
  deriving Repr, DecidableEq, Inhabited

/-- What a section comes to. -/
structure Section where
  id : String
  /-- The texts of its elements. -/
  description : String
  entries : List String
  /-- The bytes of the markup of its elements, nested ones counted each time. -/
  size : Nat
  /-- The beginning of the description. -/
  preview : String
  deriving Repr, DecidableEq, Inhabited

end Outline

/-- An outline. -/
structure Outline where
  entries : List Outline.Entry
  runs : List Outline.Run
  /-- The entries of each section, sections in the order of their first entries. -/
  sectionIndex : List (String × List String)
  sections : List Outline.Section
  /-- The bytes of the page. -/
  size : Nat
  deriving Repr, DecidableEq, Inhabited

namespace Outline

/-- The identifiers of the sections of some entries, in the order of their first entries. -/
def sectionIds (entries : List Entry) : List String :=
  Order.distinct (entries.filterMap (·.sectionId))

/-- The entries of a section. -/
def membersOf (id : String) (entries : List Entry) : List Entry :=
  entries.filter (·.sectionId == some id)

/-- What the entries of a section come to. -/
def Section.ofMembers (id : String) (members : List Entry) : Section :=
  let description := String.intercalate " " ((members.map (·.text)).filter (!·.isEmpty))
  { id
    description
    entries := members.map (·.id)
    size := Number.total (members.map (·.markup.utf8ByteSize))
    preview := Text.cut previewLimit description }

/-- The outline of some entries and runs. -/
def ofEntries (entries : List Entry) (runs : List Run) (size : Nat) : Outline :=
  let ids := sectionIds entries
  { entries
    runs
    sectionIndex := ids.map fun id => (id, (membersOf id entries).map (·.id))
    sections := ids.map fun id => Section.ofMembers id (membersOf id entries)
    size }

/-! ## Looking up -/

/-- The value of the first pair with this key. -/
def assoc {α : Type} (key : String) (pairs : List (String × α)) : Option α :=
  (pairs.find? (·.1 == key)).map (·.2)

/-- The entry with an identifier. -/
def entry? (o : Outline) (id : String) : Option Entry := o.entries.find? (·.id == id)

/-- The outermost entry of a section: its first one. -/
def sectionRoot? (o : Outline) (id : String) : Option Entry := do
  let ids ← assoc id o.sectionIndex
  o.entry? (← ids.head?)

/-- The markup of a section. -/
def sectionMarkup? (o : Outline) (id : String) : Option String :=
  ((o.sectionRoot? id).map (·.markup)).filter (!·.isEmpty)

/-- The section of an entry, unless it is `id`. -/
def enclosing (id : String) (entry : Entry) : Option String := entry.sectionId.filter (· != id)

/-- The section that a section is nested in. -/
def parentSection? (o : Outline) (id : String) : Option String := do
  let root ← o.sectionRoot? id
  enclosing id (← o.entry? (← root.parent))

end Outline

end PageEdit
