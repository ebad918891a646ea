import PageEdit.Html.Document

/-!
# Trees under construction

While a document is read, nodes move: they are put before a table, or under the copy of an element
that was closed too early. So the tree is kept as a table of nodes, each with the number of its parent
and those of its children, and turned into a `Document` at the end.

* `Arena.size_append`, `Arena.size_detach`: moving nodes makes none.
-/

namespace PageEdit.Html.Build

/-- What a node is. -/
inductive Kind where
  | document
  | fragment
  | doctype (name : String)
  | comment (text : String)
  | text (text : String)
  | element (name : Name) (attrs : List Attr)
  deriving Repr, Inhabited

/-- A node of the table. -/
structure Slot where
  kind : Kind
  parent : Option Nat
  children : Array Nat
  deriving Repr, Inhabited

/-- The nodes in the order in which they were made, each under its number. -/
abbrev Arena := Array Slot

/-- A child that is to be put somewhere. -/
inductive Content where
  | node (id : Nat)
  | char (c : Char)

/-- A place for a child. -/
inductive Spot where
  | lastIn (parent : Nat)
  /-- Before the table if it has a parent, or else last in the other element. -/
  | beside (table otherwise : Nat)

namespace Arena

/-- The number of the document's own node. -/
def documentId : Nat := 0

/-- A table with the document's own node. -/
def start : Arena := #[⟨.document, none, #[]⟩]

def slot (arena : Arena) (id : Nat) : Slot := arena.getD id ⟨.fragment, none, #[]⟩

/-- The number of a node's parent. -/
def parent? (arena : Arena) (id : Nat) : Option Nat := (arena.slot id).parent

def children (arena : Arena) (id : Nat) : Array Nat := (arena.slot id).children

/-- Changes one node. -/
def update (arena : Arena) (id : Nat) (f : Slot → Slot) : Arena := arena.modify id f

/-- Makes a node that has no place yet, and gives its number. -/
def make (arena : Arena) (kind : Kind) : Arena × Nat := (arena.push ⟨kind, none, #[]⟩, arena.size)

/-- Takes a node from its place. -/
def detach (arena : Arena) (id : Nat) : Arena :=
  match arena.parent? id with
  | none => arena
  | some parent =>
    (arena.update parent fun s => { s with children := s.children.filter (· != id) }).update id
      fun s => { s with parent := none }

/-- Puts a node last in another. -/
def append (arena : Arena) (parent id : Nat) : Arena :=
  ((arena.detach id).update parent fun s => { s with children := s.children.push id }).update id
    fun s => { s with parent := some parent }

/-- The numbers with `id` before `mark`. -/
def insertAt (mark id : Nat) (ids : Array Nat) : Array Nat :=
  (ids.toList.flatMap fun x => if x == mark then [id, x] else [x]).toArray

/-- Puts a node before another that has a parent. -/
def insertBefore (arena : Arena) (sibling id : Nat) : Arena :=
  let arena := arena.detach id
  match arena.parent? sibling with
  | none => arena
  | some parent =>
    (arena.update parent fun s => { s with children := insertAt sibling id s.children }).update id
      fun s => { s with parent := some parent }

/-- Makes an element. A template gets a node for its content at once. -/
def makeElement (arena : Arena) (name : Name) (attrs : List Attr) : Arena × Nat :=
  let (arena, id) := arena.make (.element name attrs)
  if name == .html "template" then
    let (arena, content) := arena.make .fragment
    (arena.append id content, id)
  else (arena, id)

/-- The node for the content of a template. -/
def templateContent (arena : Arena) (id : Nat) : Nat := ((arena.children id)[0]?).getD id

/-- Adds a character to a text; nothing for other nodes. -/
def addChar (arena : Arena) (id : Nat) (c : Char) : Arena :=
  arena.update id fun s =>
    match s.kind with
    | .text text => { s with kind := .text (text.push c) }
    | _ => s

/-- Whether a node is a text. -/
def isText (arena : Arena) (id : Nat) : Bool :=
  match (arena.slot id).kind with
  | .text _ => true
  | _ => false

/-- Puts a character last in a node: into the text that ends it, if there is one. -/
def appendChar (arena : Arena) (parent : Nat) (c : Char) : Arena :=
  match (arena.children parent).back? with
  | some last =>
    if arena.isText last then arena.addChar last c
    else let (arena, id) := arena.make (.text c.toString); arena.append parent id
  | none => let (arena, id) := arena.make (.text c.toString); arena.append parent id

/-- The number before `mark`. -/
def before? (mark : Nat) (ids : Array Nat) : Option Nat :=
  match ids.findIdx? (· == mark) with
  | some (i + 1) => ids[i]?
  | _ => none

/-- Puts a character before a node that has a parent: into the text before it, if there is one. -/
def insertCharBefore (arena : Arena) (sibling : Nat) (c : Char) : Arena :=
  match arena.parent? sibling with
  | none => arena
  | some parent =>
    match before? sibling (arena.children parent) with
    | some last =>
      if arena.isText last then arena.addChar last c
      else let (arena, id) := arena.make (.text c.toString); arena.insertBefore sibling id
    | none => let (arena, id) := arena.make (.text c.toString); arena.insertBefore sibling id

/-- Puts content last in a node. -/
def place (arena : Arena) (parent : Nat) (content : Content) : Arena :=
  match content with
  | .node id => arena.append parent id
  | .char c => arena.appendChar parent c

/-- Puts content at a spot. -/
def put (arena : Arena) (spot : Spot) (content : Content) : Arena :=
  match spot with
  | .lastIn parent => arena.place parent content
  | .beside table otherwise =>
    if (arena.parent? table).isSome then
      match content with
      | .node id => arena.insertBefore table id
      | .char c => arena.insertCharBefore table c
    else arena.place otherwise content

/-- Moves all children of a node to the end of another. -/
def moveChildren (arena : Arena) (source target : Nat) : Arena :=
  (arena.children source).foldl (fun arena id => arena.append target id) arena

/-- Gives an element the attributes of which it has none of that name. -/
def addAttrs (arena : Arena) (id : Nat) (more : List Attr) : Arena :=
  arena.update id fun s =>
    match s.kind with
    | .element name attrs => { s with kind := .element name (mergeAttrs attrs more) }
    | _ => s

/-! ## The size of a table -/

theorem size_detach (arena : Arena) (id : Nat) : (arena.detach id).size = arena.size := by
  unfold detach update
  split <;> simp

theorem size_append (arena : Arena) (parent id : Nat) : (arena.append parent id).size = arena.size := by
  simp [append, update, size_detach]

/-! ## The finished tree -/

/-- The tree of a node, of the given depth. -/
def tree (arena : Arena) : Nat → Nat → Node
  | 0, _ => .text ""
  | depth + 1, id =>
    let slot := arena.slot id
    let children := slot.children.toList.map (tree arena depth)
    match slot.kind with
    | .document | .fragment => .fragment children
    | .doctype name => .doctype name
    | .comment text => .comment text
    | .text text => .text text
    | .element name attrs => .element ⟨id, name, attrs⟩ children

/-- The document: the first element under its own node is the root. -/
def toDocument (arena : Arena) : Document :=
  let isRoot := fun id => match (arena.slot id).kind with | .element .. => true | _ => false
  let top := (arena.children documentId).toList
  let trees := fun ids => ids.map (tree arena arena.size)
  match top.dropWhile (!isRoot ·) with
  | [] => .empty
  | root :: rest =>
    let attrs := match (arena.slot root).kind with | .element _ attrs => attrs | _ => []
    let loose := (List.range arena.size).filter fun id =>
      id != documentId && (arena.parent? id).isNone
    ⟨trees (top.takeWhile (!isRoot ·)), root, attrs, trees (arena.children root).toList, trees rest,
      trees loose⟩

end Arena

end PageEdit.Html.Build
