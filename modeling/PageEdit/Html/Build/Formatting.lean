import PageEdit.Html.Build.State

/-!
# Formatting elements

Formatting elements such as `b` may be closed in another order than they were opened in, and by the
end of a block. They are opened again where text follows; and where one is ended inside a block, the
block is cut so that the part before the end tag keeps the format.
-/

namespace PageEdit.Html.Build

namespace Builder

/-- Marks the start of a part in which no earlier formatting element counts. -/
def pushMark (b : Builder) : Builder := { b with formatting := .mark :: b.formatting }

/-- Forgets the formatting elements up to and with the last mark. -/
def clearToMark (b : Builder) : Builder :=
  { b with formatting := (b.formatting.dropWhile (· != .mark)).tail }

/-- The formatting elements after the last mark, latest first. -/
def activeEntries (b : Builder) : List Entry := b.formatting.takeWhile (· != .mark)

/-- Whether an entry is the element with this number. -/
def isEntry (id : Nat) : Entry → Bool
  | .mark => false
  | .element i _ => i == id

def hasEntry (b : Builder) (id : Nat) : Bool := b.formatting.any (isEntry id)

/-- Forgets a formatting element. -/
def removeEntry (b : Builder) (id : Nat) : Builder :=
  { b with formatting := b.formatting.eraseP (isEntry id) }

/-- Whether an entry bounds what is to be opened again. -/
def isMarkOrOpen (b : Builder) : Entry → Bool
  | .mark => true
  | .element id _ => b.stack.any (·.id == id)

/-- Opens the elements of the entries again, and gives the new entries, latest first. -/
def reopenAll (b : Builder) : List Entry → Builder × List Entry
  | [] => (b, [])
  | .mark :: rest =>
    let (b, entries) := reopenAll b rest
    (b, entries ++ [.mark])
  | .element _ tag :: rest =>
    let (b, id) := b.openNamed (.html tag.name) (Foreign.attrs .html tag)
    let (b, entries) := reopenAll b rest
    (b, entries ++ [.element id tag])

/-- Opens the formatting elements again that are not open. -/
def reopen (b : Builder) : Builder :=
  let closed := b.formatting.takeWhile (!b.isMarkOrOpen ·)
  if closed.isEmpty then b
  else
    let (b', entries) := b.reopenAll closed.reverse
    { b' with formatting := entries ++ b.formatting.drop closed.length }

/-- Whether two tags open the same format. -/
def sameFormat (a b : Tag) : Bool :=
  a.name == b.name && Foreign.attrs .html a == Foreign.attrs .html b

/-- Opens a formatting element. Of more than three of one format the earliest is forgotten. -/
def openFormatting (b : Builder) (tag : Tag) : Builder :=
  let same := b.activeEntries.filter fun
    | .mark => false
    | .element _ t => sameFormat tag t
  let b := match same.drop 2 with
    | [] => b
    | rest => match rest.getLast? with
      | some (.element id _) => b.removeEntry id
      | _ => b
  let (b, id) := b.openNamed (.html tag.name) (Foreign.attrs .html tag)
  { b with formatting := .element id tag :: b.formatting }

/-! ## End tags of formatting elements -/

/-- Closes the innermost element with this label, unless an element with rules of its own is inside
it. -/
def endPlain (b : Builder) (label : String) : Builder :=
  match b.stack.dropWhile (fun o => !o.name.isHtml label && !ElementSet.special o.name) with
  | [] => b
  | o :: rest => if o.name.isHtml label then { b with stack := rest } else b

/-- Where the new entry of the ended element goes: in place of its old one, or just after that of
another element. -/
inductive Bookmark where
  | inPlace
  | after (id : Nat)

/-- The state while the elements between the ended element and the block are cut. -/
structure Cut where
  builder : Builder
  /-- The element that has just been moved. -/
  last : Nat
  bookmark : Bookmark

/-- Goes through the open elements between the block and the ended element, innermost first. Those
with an entry are copied and take the last one as their child; others are closed, and so are all from
the fourth on. -/
def cutBetween (block : Nat) : Nat → List Opened → Cut → Cut
  | _, [], cut => cut
  | count, o :: rest, cut =>
    let b := cut.builder
    match b.formatting.find? (isEntry o.id) with
    | some (.element _ tag) =>
      if count ≥ 3 then
        cutBetween block (count + 1) rest
          { cut with builder := (b.removeEntry o.id).removeOpen o.id }
      else
        let (arena, id) := b.arena.makeElement (.html tag.name) (Foreign.attrs .html tag)
        let b := { b with
          arena := arena.append id cut.last
          stack := b.stack.map fun x => if x.id == o.id then ⟨id, .html tag.name⟩ else x
          formatting := b.formatting.map fun e => if isEntry o.id e then .element id tag else e }
        let bookmark := if cut.last == block then .after id else cut.bookmark
        cutBetween block (count + 1) rest ⟨b, id, bookmark⟩
    | _ => cutBetween block (count + 1) rest { cut with builder := b.removeOpen o.id }

/-- The entries with `entry` just before, in the order latest first, that of `id`. -/
def entryAfter (id : Nat) (entry : Entry) (entries : List Entry) : List Entry :=
  entries.flatMap fun e => if isEntry id e then [entry, e] else [e]

/-- Cuts the block so that the ended element closes before it and a copy opens inside it. -/
def cutBlock (b : Builder) (ended : Opened) (tag : Tag) (block : Opened) (between : List Opened)
    (outer : Opened) : Builder :=
  let cut := cutBetween block.id 0 between ⟨b, block.id, .inPlace⟩
  let b := { cut.builder with arena := cut.builder.arena.detach cut.last }
  let b := { b with arena := b.arena.put (b.spot outer) (.node cut.last) }
  let (arena, id) := b.arena.makeElement (.html tag.name) (Foreign.attrs .html tag)
  let arena := (arena.moveChildren block.id id).append block.id id
  let entry := Entry.element id tag
  let formatting := match cut.bookmark with
    | .inPlace => b.formatting.map fun e => if isEntry ended.id e then entry else e
    | .after other => (entryAfter other entry b.formatting).eraseP (isEntry ended.id)
  let stack := (b.stack.eraseP (·.id == ended.id)).flatMap fun o =>
    if o.id == block.id then [⟨id, .html tag.name⟩, o] else [o]
  { b with arena, formatting, stack }

/-- One round of ending the formatting element with this label; says whether another may follow. -/
def endFormattingOnce (b : Builder) (label : String) : Builder × Bool :=
  let entry := b.activeEntries.find? fun
    | .mark => false
    | .element _ tag => tag.name == label
  match entry with
  | some (.element id tag) =>
    let inside := b.stack.takeWhile (·.id != id)
    match b.stack.drop inside.length with
    | [] => (b.removeEntry id, false)
    | ended :: outer =>
      if !inScope ElementSet.scope (·.id == id) b.stack then (b, false)
      else
        -- the block is the outermost element with rules of its own inside the ended one
        match inside.reverse.dropWhile (!ElementSet.special ·.name) with
        | [] => ({ b with stack := outer }.removeEntry id, false)
        | block :: _ =>
          let between := (inside.reverse.takeWhile (!ElementSet.special ·.name)).reverse
          (b.cutBlock ended tag block between (outer.headD ended), true)
  | _ => (b.endPlain label, false)

/-- At most `n` rounds. -/
def endFormattingRounds (label : String) : Nat → Builder → Builder
  | 0, b => b
  | n + 1, b =>
    match b.endFormattingOnce label with
    | (b, true) => endFormattingRounds label n b
    | (b, false) => b

/-- The end tag of a formatting element. -/
def endFormatting (b : Builder) (label : String) : Builder :=
  if b.currentIs label && !b.hasEntry b.current.id then b.pop else endFormattingRounds label 8 b

/-- Ends a link that is still open where another begins. -/
def endOpenLink (b : Builder) : Builder :=
  let entry := b.activeEntries.find? fun
    | .mark => false
    | .element _ tag => tag.name == "a"
  match entry with
  | some (.element id _) => ((b.endFormatting "a").removeEntry id).removeOpen id
  | _ => b

end Builder

end PageEdit.Html.Build
