import PageEdit.Outline.OfHtml

/-!
# Lookups

What a context needs to know of a page: the markup of its sections, how they are nested, and the page as it
is now. A snapshot answers from an outline that may be older than the page.

* `Snapshot.mem_siblings`: the siblings of a section are the other sections with the same parent.
-/

namespace PageEdit

/-- Answers to questions about the sections of a page. -/
structure Lookup where
  /-- The markup of a section, if there is any. -/
  markup? : String → Option String
  /-- The page as it is now. -/
  page : String
  /-- The section around a section. -/
  parent? : String → Option String
  /-- The sections beside a section. -/
  siblings : String → List String

/-- A lookup that knows nothing of nesting. -/
def Lookup.flat (markup? : String → Option String) (page : String) : Lookup :=
  ⟨markup?, page, fun _ => none, fun _ => []⟩

/-- The entries and sections of an outline, and the page as it is now. -/
structure Snapshot where
  entries : List Outline.Entry
  /-- The entries of each section. -/
  sectionIndex : List (String × List String)
  page : String

namespace Snapshot

/-- A snapshot of an outline. -/
def ofOutline (o : Outline) (page : String) : Snapshot := ⟨o.entries, o.sectionIndex, page⟩

/-- The last entry with an identifier. -/
def entry? (s : Snapshot) (id : String) : Option Outline.Entry :=
  s.entries.reverse.find? (·.id == id)

/-- The first entry of a section. -/
def sectionRoot? (s : Snapshot) (id : String) : Option Outline.Entry := do
  s.entry? (← (← Outline.assoc id s.sectionIndex).head?)

/-- The markup of a section. -/
def markup? (s : Snapshot) (id : String) : Option String :=
  ((s.sectionRoot? id).map (·.markup)).filter (!·.isEmpty)

/-- The section that a section is nested in. -/
def parent? (s : Snapshot) (id : String) : Option String := do
  let root ← s.sectionRoot? id
  Outline.enclosing id (← s.entry? (← root.parent))

/-- The sections with the same parent, without the section itself. One that has no parent has none. -/
def siblings (s : Snapshot) (id : String) : List String :=
  match s.parent? id with
  | none => []
  | some parent =>
    (s.sectionIndex.map (·.1)).filter fun other =>
      other != id && s.parent? other == some parent

theorem mem_siblings {s : Snapshot} {a b : String} :
    b ∈ s.siblings a ↔
      b ∈ s.sectionIndex.map (·.1) ∧ b ≠ a ∧ (s.parent? a).isSome ∧ s.parent? b = s.parent? a := by
  unfold siblings
  cases h : s.parent? a with
  | none => simp
  | some parent => simp

/-- The answers of a snapshot. -/
def toLookup (s : Snapshot) : Lookup := ⟨s.markup?, s.page, s.parent?, s.siblings⟩

end Snapshot

end PageEdit
