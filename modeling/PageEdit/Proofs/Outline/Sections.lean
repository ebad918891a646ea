import Mathlib.Algebra.GroupWithZero.Nat
import Mathlib.Data.List.Forall2
import Mathlib.Data.List.Induction
import PageEdit.Proofs.Outline.Identifiers
import PageEdit.Proofs.Outline.Tree

/-!
# The sections of an outline

An element belongs to the section of the nearest mark at or around it, anywhere in the document. In the walk
this comes down from parent to child, and what is around the body is looked up before the walk begins. The
index then gathers the entries of each section, and what a section comes to is told by the entries that the
index names.

* `Built.sectionId_eq`: what the walk passes on is the nearest mark.
* `isIndexOf_ofEntries`: the index is a partition of the entries that have a section.
* `sections_are_told_by_nearest_marks`: both for the outline of a page, with what its sections come to.
-/

namespace PageEdit

namespace Html.Place

/-- The section that the element at a place marks. -/
def mark? (p : Place) : Option String := p.element?.bind Element.section?

/-- The section of the nearest mark at a place or around it. -/
def nearestMark? (p : Place) : Option String := (p :: p.ancestors).findSome? mark?

theorem nearestMark?_eq (p : Place) : p.nearestMark? = p.mark?.or (p.ancestors.findSome? mark?) := by
  rw [nearestMark?, List.findSome?_cons]
  cases p.mark? <;> rfl

theorem nearestMark?_inside {p q : Place} (h : p.parent? = some q) :
    p.nearestMark? = p.mark?.or q.nearestMark? := by
  rw [nearestMark?_eq, Outline.ancestors_of_parent? h]
  rfl

end Html.Place

namespace Outline

open Html

/-! ## The section of an entry -/

theorem Built.sectionId_eq {hash : String → String} {outer : Option String} {walked : List Place}
    {owners : List (Place × Owner)} {d : Draft} (built : Built hash outer walked owners d)
    {top : Place} (htop : walked.head? = some top) (houter : outer = outerSection top) :
    ∀ r ∈ owners, r.2.sectionId = r.1.nearestMark? := by
  have hkeep : ∀ {places : List Place} {p : Place}, (places ++ [p]).head? = some top →
      places ≠ [] → places.head? = some top := by
    intro places p h hne
    rwa [List.head?_append_of_ne_nil _ hne] at h
  have hne : ∀ {walked owners d}, Built hash outer walked owners d → walked ≠ [] := by
    rintro _ _ _ (_ | _ | _) <;> simp
  induction built with
  | @root p e children node shown =>
    obtain ⟨entry, h⟩ := adds_addElement hash none outer node Draft.empty
    obtain rfl : p = top := by simpa using htop
    intro r hr
    rw [List.mem_singleton.mp hr, h.owner_eq, Place.nearestMark?_eq]
    exact h.section_eq.trans (by rw [houter]; rfl)
  | @element walked owners d p q o e children built mem parent node shown ih =>
    obtain ⟨entry, h⟩ := adds_addElement hash (some o) none node d
    have ih := ih (hkeep htop (hne built))
    intro r hr
    rcases List.mem_append.mp hr with hr | hr
    · exact ih r hr
    · rw [List.mem_singleton.mp hr, h.owner_eq, Place.nearestMark?_inside parent, ← ih _ mem]
      exact h.section_eq
  | run built mem parent node ih => exact ih (hkeep htop (hne built))

/-- The walk begins with the body. -/
theorem head?_filter_isWalked (doc : Document) :
    (doc.bodyPlace.subtree.filter doc.bodyPlace.isWalked).head? = some doc.bodyPlace := by
  obtain ⟨e, children, hn, hskip⟩ := exists_bodyPlace_node doc
  rw [Place.filter_subtree, hn, Place.walked, hskip]
  rfl

/-- Each entry of a document shows an element that the walk comes to, and has the section of the nearest
mark. -/
theorem forall₂_ofDocument (hash : String → String) (doc : Document) (size : Nat) :
    List.Forall₂ (fun entry p => entry.Shows p ∧ entry.sectionId = p.nearestMark?)
      (ofDocument hash doc size).entries (shownElements doc.bodyPlace) := by
  obtain ⟨owners, hbuilt⟩ := built_ofDocument hash doc
  obtain ⟨rows, hgrown, hentries, hplaces, howners, -⟩ := hbuilt.exists_grown
  have hsection := hbuilt.sectionId_eq (head?_filter_isWalked doc) rfl
  have hfinish : (ofDocument hash doc size).entries = linked (rows.map (·.2)) := by
    rw [hentries]
    rfl
  rw [hfinish, ← filter_isWalked_isElement, ← hplaces, linked, List.map_map, List.forall₂_map_left_iff,
    List.forall₂_map_right_iff]
  refine List.forall₂_same.mpr fun r hr => ⟨(hgrown.shows r hr).withChildren _, ?_⟩
  exact hsection (r.1, r.2.owner) (howners ▸ List.mem_map_of_mem hr)

theorem mem_subtree_of_mem_shownElements {top p : Place} (h : p ∈ shownElements top) : p ∈ top.subtree :=
  (List.mem_filter.mp (List.mem_filter.mp h).1).1

/-! ## The index -/

/-- Whether rows of section and identifiers are the entries with a section, gathered by it. -/
structure IsIndexOf (index : List (String × List String)) (entries : List Entry) : Prop where
  keys_nodup : (index.map (·.1)).Nodup
  mem_keys : ∀ id, id ∈ index.map (·.1) ↔ ∃ e ∈ entries, e.sectionId = some id
  mem_row : ∀ id ids, (id, ids) ∈ index → ∀ e ∈ entries, e.id ∈ ids ↔ e.sectionId = some id
  /-- No identifier stands in two rows or twice in one. -/
  nodup : (index.flatMap (·.2)).Nodup
  ordered : ∀ row ∈ index, row.2.Sublist (entries.map (·.id))
  /-- The rows are in the order of their first entries. -/
  firsts : ∃ heads : List String, index.map (·.2.head?) = heads.map some ∧ heads.Sublist (entries.map (·.id))

theorem mem_membersOf {id : String} {entries : List Entry} {e : Entry} :
    e ∈ membersOf id entries ↔ e ∈ entries ∧ e.sectionId = some id := by
  simp [membersOf]

theorem mem_sectionIds {id : String} {entries : List Entry} :
    id ∈ sectionIds entries ↔ ∃ e ∈ entries, e.sectionId = some id := by
  simp [sectionIds, Order.mem_distinct]

theorem membersOf_append (id : String) (entries : List Entry) (e : Entry) :
    membersOf id (entries ++ [e]) =
      membersOf id entries ++ if e.sectionId = some id then [e] else [] := by
  rw [membersOf, List.filter_append, List.filter_singleton]
  simp [membersOf]

theorem sectionIds_append (entries : List Entry) (e : Entry) :
    sectionIds (entries ++ [e]) = (e.sectionId.elim id fun s ids => Order.see ids s) (sectionIds entries) := by
  cases h : e.sectionId <;> simp [sectionIds, Order.distinct, h]

/-- The first entries of the sections stand among the entries in the order of the sections. The induction is
on the last entry, which begins a section or goes on with one. -/
theorem exists_firsts (entries : List Entry) :
    ∃ heads : List Entry, (sectionIds entries).map (fun id => (membersOf id entries).head?) =
      heads.map some ∧ heads.Sublist entries := by
  induction entries using List.reverseRecOn with
  | nil => exact ⟨[], rfl, .slnil⟩
  | append_singleton entries e ih =>
    obtain ⟨heads, hheads, hsub⟩ := ih
    have hkeep : (sectionIds entries).map (fun id => (membersOf id (entries ++ [e])).head?) =
        heads.map some := by
      rw [← hheads]
      refine List.map_congr_left fun id hid => ?_
      obtain ⟨f, hf, hfid⟩ := mem_sectionIds.mp hid
      rw [membersOf_append, List.head?_append_of_ne_nil]
      exact List.ne_nil_of_mem (mem_membersOf.mpr ⟨hf, hfid⟩)
    rw [sectionIds_append]
    cases hs : e.sectionId with
    | none => exact ⟨heads, hkeep, hsub.trans (List.sublist_append_left _ _)⟩
    | some s =>
      simp only [Option.elim_some, Order.see]
      split
      · exact ⟨heads, hkeep, hsub.trans (List.sublist_append_left _ _)⟩
      · rename_i hnew
        have hnone : membersOf s entries = [] :=
          List.filter_eq_nil_iff.mpr fun f hf hfs =>
            hnew (mem_sectionIds.mpr ⟨f, hf, by simpa using hfs⟩)
        refine ⟨heads ++ [e], ?_, hsub.append (.refl _)⟩
        rw [List.map_append, List.map_append, hkeep, List.map_singleton, membersOf_append, hnone,
          if_pos hs]
        rfl

theorem isIndexOf_ofEntries {entries : List Entry} (h : (entries.map (·.id)).Nodup)
    (runs : List Run) (size : Nat) : IsIndexOf (ofEntries entries runs size).sectionIndex entries := by
  have hkeys : (ofEntries entries runs size).sectionIndex.map (·.1) = sectionIds entries := by
    simp [ofEntries, Function.comp_def]
  have hrow : ∀ id, ((membersOf id entries).map (·.id)).Sublist (entries.map (·.id)) :=
    fun id => List.filter_sublist.map _
  have hmem : ∀ id, ∀ e ∈ entries, e.id ∈ (membersOf id entries).map (·.id) ↔ e.sectionId = some id := by
    intro id e he
    constructor
    · intro hid
      obtain ⟨f, hf, hfe⟩ := List.mem_map.mp hid
      obtain ⟨hf, hfid⟩ := mem_membersOf.mp hf
      exact List.inj_on_of_nodup_map h hf he hfe ▸ hfid
    · exact fun hid => List.mem_map_of_mem (mem_membersOf.mpr ⟨he, hid⟩)
  refine ⟨?_, fun id => ?_, ?_, ?_, ?_, ?_⟩
  · rw [hkeys]
    exact Order.distinct_nodup _
  · rw [hkeys, mem_sectionIds]
  · rintro id ids hids e he
    obtain ⟨s, -, hs⟩ := List.mem_map.mp hids
    obtain ⟨rfl, rfl⟩ := Prod.mk.inj hs
    exact hmem s e he
  · simp only [ofEntries, List.flatMap_map]
    refine List.nodup_flatMap.mpr ⟨fun id _ => h.sublist (hrow id), ?_⟩
    refine (Order.distinct_nodup _).imp fun {a b} hab id ha hb => hab ?_
    -- an entry has one section
    obtain ⟨e, he, rfl⟩ := List.mem_map.mp ha
    obtain ⟨he, hea⟩ := mem_membersOf.mp he
    exact Option.some.inj (hea.symm.trans ((hmem b e he).mp hb))
  · intro row hr
    obtain ⟨id, -, rfl⟩ := List.mem_map.mp hr
    exact hrow id
  · obtain ⟨heads, hheads, hsub⟩ := exists_firsts entries
    refine ⟨heads.map (·.id), ?_, hsub.map _⟩
    have := congrArg (List.map (Option.map Entry.id)) hheads
    simpa [ofEntries, Function.comp_def] using this

/-! ## Sections -/

/-- Whether a section is what the entries come to that a row of the index names. -/
def Section.Sums (o : Outline) (s : Section) (row : String × List String) : Prop :=
  s.id = row.1 ∧ s.entries = row.2 ∧ ∃ members : List Entry, row.2.map o.entry? = members.map some ∧
    s.size = (members.map (·.markup.utf8ByteSize)).sum ∧
    s.description = String.intercalate " " ((members.map (·.text)).filter (!·.isEmpty)) ∧
    s.preview = String.ofList (s.description.toList.take 200)

theorem total_eq_sum (sizes : List Nat) : Number.total sizes = sizes.sum := by
  induction sizes with
  | nil => rfl
  | cons n rest ih => rw [Number.total, ih, List.sum_cons]

theorem sums_ofEntries {entries : List Entry} (h : (entries.map (·.id)).Nodup) (runs : List Run)
    (size : Nat) : List.Forall₂ (Section.Sums (ofEntries entries runs size))
      (ofEntries entries runs size).sections (ofEntries entries runs size).sectionIndex := by
  simp only [ofEntries, List.forall₂_map_left_iff, List.forall₂_map_right_iff]
  refine List.forall₂_same.mpr fun id _ => ⟨rfl, rfl, membersOf id entries, ?_, ?_, ?_, rfl⟩
  · rw [List.map_map]
    refine List.map_congr_left fun e he => ?_
    exact find?_id_eq_some h (mem_membersOf.mp he).1
  · exact total_eq_sum _
  · rfl

/-! ## Main statement -/

/-- The entries of a page are, in document order, its elements that are outside scripts, and outside the
content of templates, and each has the section of the nearest mark at or around its element, be it above the
body. The index is a partition of those that have one, and the sections are, in its order, what the rows of
the index come to. -/
theorem sections_are_told_by_nearest_marks (html : String) :
    let o := ofHtml html
    List.Forall₂ (fun entry p => entry.Shows p ∧ entry.sectionId = p.nearestMark?) o.entries
        (shownElements (Document.ofHtml html).bodyPlace) ∧
      IsIndexOf o.sectionIndex o.entries ∧ List.Forall₂ (Section.Sums o) o.sections o.sectionIndex := by
  have key : ∀ doc, let o := ofDocument shortHash doc html.utf8ByteSize
      IsIndexOf o.sectionIndex o.entries ∧ List.Forall₂ (Section.Sums o) o.sections o.sectionIndex :=
    fun doc =>
      have hids := (isTreeOf_ofDocument shortHash doc html.utf8ByteSize).nodup_ids
      ⟨isIndexOf_ofEntries hids _ _, sums_ofEntries hids _ _⟩
  exact ⟨forall₂_ofDocument _ _ _, key _⟩

end Outline

end PageEdit
