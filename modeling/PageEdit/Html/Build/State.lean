import PageEdit.Html.Build.Arena
import PageEdit.Html.Foreign
import PageEdit.Html.DoctypeMode
import PageEdit.Html.Scanner

/-!
# The state of a document under construction

Beside the table of nodes there are the open elements, innermost first, and the formatting elements that
are to be opened again where they were closed too early, latest first. This module has what all rules
share: searching and closing open elements, and putting content in its place.
-/

namespace PageEdit.Html.Build

/-- Which rules read the next token. -/
inductive Mode where
  | initial
  | beforeHtml
  | beforeHead
  | inHead
  | afterHead
  | inBody
  | text
  | inTable
  | inTableText
  | inCaption
  | inColumnGroup
  | inTableBody
  | inRow
  | inCell
  | inSelect
  | inSelectInTable
  | inTemplate
  | afterBody
  | inFrameset
  | afterFrameset
  | afterAfterBody
  | afterAfterFrameset
  deriving Repr, DecidableEq, Inhabited

/-- An open element. -/
structure Opened where
  id : Nat
  name : Name
  deriving Repr, DecidableEq, Inhabited

/-- An entry of the formatting elements. A mark bounds the search for them. -/
inductive Entry where
  | mark
  | element (id : Nat) (tag : Tag)
  deriving Repr, DecidableEq, Inhabited

/-- The state. -/
structure Builder where
  arena : Arena
  /-- The open elements, innermost first. -/
  stack : List Opened
  /-- The formatting elements, latest first. -/
  formatting : List Entry
  mode : Mode
  /-- The mode to go back to after raw text or the text of a table. -/
  home : Mode
  /-- The modes of the open templates, innermost first. -/
  templates : List Mode
  head : Option Nat
  form : Option Nat
  /-- Whether a frameset can still take the place of the body. -/
  framesetOk : Bool
  /-- Whether a line feed is dropped if it comes next. -/
  skipLine : Bool
  /-- Whether a byte order mark is dropped if it comes next. -/
  skipMark : Bool
  /-- Whether content of a table goes before the table. -/
  fostering : Bool
  /-- Whether a table leaves a paragraph open. -/
  keepsTables : Bool
  /-- The text of a table that has no place yet. -/
  tableText : List Char
  deriving Repr, Inhabited

/-- What is to be done after a rule. -/
inductive Next where
  | done
  /-- The token is read again in the new mode. -/
  | again
  /-- The text that follows is raw, or plain to its end. -/
  | scan (state : State)
  deriving Repr, DecidableEq

/-- The outcome of a rule. -/
abbrev Outcome := Builder × Next

namespace Builder

/-- The state before the first token. -/
def start : Builder :=
  ⟨Arena.start, [], [], .initial, .initial, [], none, none, true, false, true, false, false, []⟩

def done (b : Builder) : Outcome := (b, .done)

/-- Reads the token again in another mode. -/
def again (b : Builder) (mode : Mode) : Outcome := ({ b with mode }, .again)

/-! ## Open elements -/

/-- The innermost open element. -/
def current (b : Builder) : Opened := b.stack.headD ⟨Arena.documentId, .html ""⟩

def currentIn (b : Builder) (set : ElementSet) : Bool := set b.current.name

def currentIs (b : Builder) (label : String) : Bool := b.current.name.isHtml label

/-- Whether an open element is the HTML element with this label. -/
def hasOpen (b : Builder) (label : String) : Bool := b.stack.any (·.name.isHtml label)

/-- The outermost open element. -/
def outermost (b : Builder) : Nat := (b.stack.getLastD ⟨Arena.documentId, .html ""⟩).id

/-- Whether an element with `p` is open and no element of the scope is inside it. -/
def inScope (scope : ElementSet) (p : Opened → Bool) : List Opened → Bool
  | [] => false
  | o :: rest => p o || (!scope o.name && inScope scope p rest)

/-- Whether the HTML element with this label is open in a scope. -/
def hasIn (b : Builder) (scope : ElementSet) (label : String) : Bool :=
  inScope scope (·.name.isHtml label) b.stack

def pop (b : Builder) : Builder := { b with stack := b.stack.tail }

/-- The open elements after those of a set that are innermost. -/
def dropIn (set : ElementSet) : List Opened → List Opened
  | [] => []
  | o :: rest => if set o.name then dropIn set rest else o :: rest

/-- Closes open elements until one of the set is innermost. -/
def popUntilCurrent (b : Builder) (set : ElementSet) : Builder :=
  { b with stack := dropIn (!set ·) b.stack }

/-- Closes open elements up to and with the first of the set. -/
def popUntil (b : Builder) (set : ElementSet) : Builder := (b.popUntilCurrent set).pop

/-- Closes open elements up to and with the first HTML element with this label. -/
def popUntilNamed (b : Builder) (label : String) : Builder := b.popUntil (·.isHtml label)

/-- Closes elements whose end tags may be left out. -/
def closeImplied (b : Builder) (set : ElementSet) : Builder := { b with stack := dropIn set b.stack }

/-- Closes elements whose end tags may be left out, except those with this label. -/
def closeImpliedExcept (b : Builder) (label : String) : Builder :=
  b.closeImplied fun name => ElementSet.impliedEnd name && !name.isHtml label

/-- Closes the innermost paragraph. -/
def closeParagraph (b : Builder) : Builder := (b.closeImpliedExcept "p").popUntilNamed "p"

/-- Closes the innermost paragraph if it is open in its scope. -/
def endParagraph (b : Builder) : Builder :=
  if b.hasIn ElementSet.buttonScope "p" then b.closeParagraph else b

/-- Removes an element from the open ones. -/
def removeOpen (b : Builder) (id : Nat) : Builder :=
  { b with stack := b.stack.eraseP (·.id == id) }

/-! ## Places -/

/-- Where content goes whose parent would be `target`. -/
def spot (b : Builder) (target : Opened) : Spot :=
  let fosterSpot : List Opened → Spot := fun stack =>
    match stack.dropWhile (fun o => !o.name.isHtml "template" && !o.name.isHtml "table") with
    | [] => .lastIn b.outermost
    | o :: rest =>
      if o.name.isHtml "template" then .lastIn (b.arena.templateContent o.id)
      else .beside o.id (rest.headD o).id
  if b.fostering && ElementSet.tableParts target.name then fosterSpot b.stack
  else if target.name.isHtml "template" then .lastIn (b.arena.templateContent target.id)
  else .lastIn target.id

/-- Puts content where it goes now. -/
def insert (b : Builder) (content : Content) : Builder :=
  { b with arena := b.arena.put (b.spot b.current) content }

def insertChar (b : Builder) (c : Char) : Builder := b.insert (.char c)

/-- Makes a comment and puts it where it goes now. -/
def insertComment (b : Builder) (text : String) : Builder :=
  let (arena, id) := b.arena.make (.comment text)
  { b with arena }.insert (.node id)

/-- Makes a comment and puts it last in a node. -/
def appendComment (b : Builder) (parent : Nat) (text : String) : Builder :=
  let (arena, id) := b.arena.make (.comment text)
  { b with arena := arena.append parent id }

/-- Makes an element, puts it where it goes now and leaves it open. Also gives its number. -/
def openNamed (b : Builder) (name : Name) (attrs : List Attr) : Builder × Nat :=
  let (arena, id) := b.arena.makeElement name attrs
  let b := { b with arena }.insert (.node id)
  ({ b with stack := ⟨id, name⟩ :: b.stack }, id)

/-- Opens the element of a start tag. -/
def openTag (b : Builder) (tag : Tag) : Builder :=
  (b.openNamed (.html tag.name) (Foreign.attrs .html tag)).1

/-- Opens an element without a tag of its own. -/
def openPhantom (b : Builder) (label : String) : Builder := (b.openNamed (.html label) []).1

/-- Puts the element of a start tag in its place and closes it. -/
def addTag (b : Builder) (tag : Tag) : Builder := (b.openTag tag).pop

/-- Makes the root element. -/
def openRoot (b : Builder) (attrs : List Attr) : Builder :=
  let (arena, id) := b.arena.makeElement (.html "html") attrs
  { b with arena := arena.append Arena.documentId id, stack := [⟨id, .html "html"⟩] }

/-! ## Raw text -/

/-- Opens an element whose text is raw. -/
def openRaw (b : Builder) (tag : Tag) (kind : RawKind) : Outcome :=
  ({ b.openTag tag with home := b.mode, mode := .text }, .scan (.raw kind))

/-! ## Modes -/

/-- The mode inside a selection, given the elements around it. -/
def selectMode : List Opened → Mode
  | [] => .inSelect
  | o :: rest =>
    if o.name.isHtml "template" then .inSelect
    else if o.name.isHtml "table" then .inSelectInTable
    else selectMode rest

/-- The mode that the open elements call for. -/
def modeFor (b : Builder) : List Opened → Mode
  | [] => .inBody
  | o :: rest =>
    if o.name.space != .html then modeFor b rest
    else match o.name.label with
      | "select" => selectMode rest
      | "td" | "th" => if rest.isEmpty then .inBody else .inCell
      | "tr" => .inRow
      | "tbody" | "thead" | "tfoot" => .inTableBody
      | "caption" => .inCaption
      | "colgroup" => .inColumnGroup
      | "table" => .inTable
      | "template" => b.templates.headD .inBody
      | "head" => if rest.isEmpty then .inBody else .inHead
      | "body" => .inBody
      | "frameset" => .inFrameset
      | "html" => if b.head.isSome then .afterHead else .beforeHead
      | _ => modeFor b rest

/-- The mode that the open elements call for. -/
def resetMode (b : Builder) : Mode := b.modeFor b.stack

end Builder

end PageEdit.Html.Build
