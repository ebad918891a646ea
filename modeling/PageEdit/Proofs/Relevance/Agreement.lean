import PageEdit.Context.Lookup
import PageEdit.Proofs.Html.Pages
import PageEdit.Proofs.Outline.Sections
import PageEdit.Relevance.Excerpt

/-!
# Excerpts and outlines agree

Sections are found twice: excerpts by looking at every element of a page, and the index of the outline by a
walk below the body on which sections are passed on. The two agree. Every section of the index has an excerpt,
as the marks around a body are in the document with it; and the first entry of a section is that of the
element that marks it, or else the mark is around the body. So where a section is marked once, inside the
body, its markup is the same wherever it is looked up.

* `Outline.first_of_section`: where the first entry of a section comes from.
* `sectionRoot?_eq_find?`: looking up a section finds its first entry.
* `excerpts_agree_with_outline`: both ways of finding sections.
-/

namespace PageEdit

open Html

/-! ## Places of elements -/

namespace Html

theorem Place.isElement_of_mark? {p : Place} {id : String} (h : p.mark? = some id) :
    p.node.isElement = true := by
  obtain ⟨e, he, -⟩ := Option.bind_eq_some_iff.mp h
  exact Option.isSome_iff_exists.mpr ⟨e, he⟩

theorem Document.mem_elementPlaces_of_mark? {doc : Document} {p : Place} (h : p ∈ doc.places)
    {id : String} (hmark : p.mark? = some id) : p ∈ doc.elementPlaces :=
  mem_elementPlaces.mpr ⟨.inl h, isAttached_of_mem_places h, Place.isElement_of_mark? hmark⟩

end Html

namespace Outline

variable {hash : String → String} {doc : Document} {size : Nat} {p : Place} {id : String}

theorem exists_mark_of_nearestMark? (h : p.nearestMark? = some id) :
    ∃ a ∈ p :: p.ancestors, a.mark? = some id := List.exists_of_findSome?_eq_some h

/-- Every section of the walk is marked by an element of the document. -/
theorem exists_mark_of_shown (htop : doc.bodyPlace ∈ doc.places) (hp : p ∈ shownElements doc.bodyPlace)
    (h : p.nearestMark? = some id) : ∃ a ∈ doc.elementPlaces, a.mark? = some id := by
  obtain ⟨a, ha, hmark⟩ := exists_mark_of_nearestMark? h
  refine ⟨a, Document.mem_elementPlaces_of_mark? ?_ hmark, hmark⟩
  have hmem := Document.subtree_subset_places htop (mem_subtree_of_mem_shownElements hp)
  rcases List.mem_cons.mp ha with rfl | ha
  · exact hmem
  · exact Document.mem_places_of_mem_ancestors hmem ha

/-! ## The first entry of a section -/

theorem head?_shownElements (doc : Document) : (shownElements doc.bodyPlace).head? = some doc.bodyPlace := by
  obtain ⟨e, children, hn, -⟩ := exists_bodyPlace_node doc
  obtain ⟨rest, hrest⟩ := List.head?_eq_some_iff.mp (head?_filter_isWalked doc)
  rw [← filter_isWalked_isElement, hrest, List.filter_cons_of_pos (by rw [hn]; rfl)]
  rfl

theorem sectionId_of_getElem? {i : Nat} {entry : Entry}
    (hp : (shownElements doc.bodyPlace)[i]? = some p)
    (he : (ofDocument hash doc size).entries[i]? = some entry) :
    entry.Shows p ∧ entry.sectionId = p.nearestMark? := by
  obtain ⟨hi, rfl⟩ := List.getElem?_eq_some_iff.mp hp
  obtain ⟨hi', rfl⟩ := List.getElem?_eq_some_iff.mp he
  exact (forall₂_ofDocument hash doc size).get hi' hi

/-- What is not an element marks nothing, so the marks around a place begin with the nearest element. -/
theorem findSome?_mark?_ancestors {q : Place} (h : p.ancestors.find? (·.node.isElement) = some q) :
    p.ancestors.findSome? Place.mark? = q.nearestMark? := by
  induction p with
  | top => cases h
  | inside parent before node after ih =>
    rw [Place.ancestors, List.find?_cons] at h
    rw [Place.ancestors, List.findSome?_cons]
    split at h
    · obtain rfl := Option.some.inj h
      exact (Place.nearestMark?_eq parent).symm ▸ by cases parent.mark? <;> rfl
    · next hnode =>
      cases hm : parent.mark? with
      | none => exact ih h
      | some s =>
        rw [Place.isElement_of_mark? hm] at hnode
        cases hnode

/-- The first entry of a section is that of an element which marks it, unless the mark is around the body. -/
theorem first_of_section {entry : Entry}
    (hfind : (ofDocument hash doc size).entries.find? (·.sectionId == some id) = some entry) :
    ∃ p ∈ shownElements doc.bodyPlace, entry.Shows p ∧
      (p.mark? = some id ∨ ∃ a ∈ doc.bodyPlace.ancestors, a.mark? = some id) := by
  have htree := isTreeOf_ofDocument hash doc size
  obtain ⟨hsection, i, hi, hentry, hfirst⟩ := List.find?_eq_some_iff_getElem.mp hfind
  have hsection : entry.sectionId = some id := by simpa using hsection
  have hlt : i < (shownElements doc.bodyPlace).length := htree.length_eq ▸ hi
  have hplace : (shownElements doc.bodyPlace)[i]? = some (shownElements doc.bodyPlace)[i] :=
    List.getElem?_eq_getElem hlt
  generalize (shownElements doc.bodyPlace)[i] = p at hplace
  have hget : (ofDocument hash doc size).entries[i]? = some entry := hentry ▸ List.getElem?_eq_getElem hi
  obtain ⟨hshows, hnearest⟩ := sectionId_of_getElem? hplace hget
  refine ⟨p, List.mem_of_getElem? hplace, hshows, ?_⟩
  rw [hsection, Place.nearestMark?_eq] at hnearest
  cases hmark : p.mark? with
  | some s => exact .inl (by rw [hmark] at hnearest; exact hnearest.symm)
  | none =>
    rw [hmark, Option.none_or] at hnearest
    right
    -- unless it is for the body, the entry has one before it for the nearest element around, in the same section
    cases i with
    | zero =>
      have hbody : p = doc.bodyPlace := by
        have hhead := head?_shownElements doc
        rw [List.head?_eq_getElem?, hplace] at hhead
        exact Option.some.inj hhead
      subst hbody
      exact List.exists_of_findSome?_eq_some hnearest.symm
    | succ i =>
      obtain ⟨j, q, f, hj, hq, hf, haround, -⟩ := htree.child i p entry hplace hget
      rw [findSome?_mark?_ancestors haround, ← (sectionId_of_getElem? hq hf).2] at hnearest
      obtain ⟨hj', rfl⟩ := List.getElem?_eq_some_iff.mp hf
      have := hfirst j (Nat.lt_succ_of_le hj)
      simp [← hnearest] at this

/-! ## Looking up a section -/

section Lookup

variable {entries : List Entry} {runs : List Run}

theorem assoc_map_eq (f : String → List String) (ids : List String) (id : String) :
    assoc id (ids.map fun s => (s, f s)) = if id ∈ ids then some (f id) else none := by
  induction ids with
  | nil => rfl
  | cons s rest ih =>
    rw [assoc, List.map_cons, List.find?_cons]
    by_cases hs : s = id
    · subst hs
      simp
    · rw [beq_false_of_ne hs, ← assoc, ih]
      simp [Ne.symm hs]

/-- The first identifier that the index has for a section is that of the first entry of the section. -/
theorem head?_of_assoc (id : String) :
    (assoc id (ofEntries entries runs size).sectionIndex).bind List.head? =
      (entries.find? (·.sectionId == some id)).map (·.id) := by
  rw [ofEntries, assoc_map_eq]
  by_cases hid : id ∈ sectionIds entries
  · rw [if_pos hid, Option.bind_some, List.head?_map, membersOf, List.head?_filter]
  · rw [if_neg hid, Option.bind_none, List.find?_eq_none.mpr, Option.map_none]
    intro e he hsection
    exact hid (mem_sectionIds.mpr ⟨e, he, by simpa using hsection⟩)

theorem sectionRoot?_eq_find? (h : (entries.map (·.id)).Nodup) (id : String) :
    (ofEntries entries runs size).sectionRoot? id = entries.find? (·.sectionId == some id) := by
  have hroot : (ofEntries entries runs size).sectionRoot? id =
      ((assoc id (ofEntries entries runs size).sectionIndex).bind List.head?).bind
        (Outline.entry? (ofEntries entries runs size)) := (Option.bind_assoc _ _ _).symm
  rw [hroot, head?_of_assoc]
  cases hfind : entries.find? (·.sectionId == some id) with
  | none => rfl
  | some entry => exact find?_id_eq_some h (List.mem_of_find?_eq_some hfind)

/-- A snapshot, which knows entries by the last one with an identifier, finds the same. -/
theorem sectionRoot?_ofOutline (h : (entries.map (·.id)).Nodup) (page id : String) :
    (Snapshot.ofOutline (ofEntries entries runs size) page).sectionRoot? id =
      entries.find? (·.sectionId == some id) := by
  have hroot : (Snapshot.ofOutline (ofEntries entries runs size) page).sectionRoot? id =
      ((assoc id (ofEntries entries runs size).sectionIndex).bind List.head?).bind
        (Snapshot.entry? (Snapshot.ofOutline (ofEntries entries runs size) page)) :=
      (Option.bind_assoc _ _ _).symm
  have hreverse : (entries.reverse.map (·.id)).Nodup := by
    rw [List.map_reverse]
    exact List.nodup_reverse.mpr h
  rw [hroot, head?_of_assoc]
  cases hfind : entries.find? (·.sectionId == some id) with
  | none => rfl
  | some entry =>
    exact find?_id_eq_some hreverse (List.mem_reverse.mpr (List.mem_of_find?_eq_some hfind))

end Lookup

/-! ## The markup of a section -/

theorem isEmpty_outerMarkup {n : Node} (h : n.isElement = true) : n.outerMarkup.isEmpty = false := by
  obtain ⟨e, he⟩ := Option.isSome_iff_exists.mp h
  cases n with
  | element e children =>
    have hstart : ∃ rest, e.startMarkup = "<" ++ rest := by
      refine ⟨e.label ++ String.join (e.attrs.map Attr.markup) ++ ">", ?_⟩
      simp only [Element.startMarkup, String.append_assoc]
    obtain ⟨rest, hrest⟩ := hstart
    rw [Node.outerMarkup, Node.markup, hrest]
    split <;> simp
  | _ => cases he

theorem length_ancestors_lt_of_mem {a q : Place} (h : a ∈ q.ancestors) :
    a.ancestors.length < q.ancestors.length := by
  induction q with
  | top => exact absurd h List.not_mem_nil
  | inside parent before node after ih =>
    rcases List.mem_cons.mp h with rfl | h
    · exact Nat.lt_succ_self _
    · exact Nat.lt_succ_of_lt (ih h)

/-- Where one element of the document marks a section, and the walk comes to it, the section has an entry,
and its first one shows this element. -/
theorem exists_first_of_mark (hash : String → String) (size : Nat) (htop : doc.bodyPlace ∈ doc.places)
    (hp : p ∈ shownElements doc.bodyPlace) (hone : doc.places.filter (·.mark? == some id) = [p]) :
    ∃ entry, (ofDocument hash doc size).entries.find? (·.sectionId == some id) = some entry ∧
      entry.Shows p := by
  have hplaces : ∀ q ∈ doc.places, q.mark? = some id → q = p := fun q hq hmark =>
    List.mem_singleton.mp (hone ▸ List.mem_filter.mpr ⟨hq, by simpa using hmark⟩)
  have hmark : p.mark? = some id := by
    have hmem : p ∈ doc.places.filter (·.mark? == some id) := hone ▸ List.mem_singleton_self p
    simpa using (List.mem_filter.mp hmem).2
  have hsub := mem_subtree_of_mem_shownElements hp
  have hfind : ((ofDocument hash doc size).entries.find? (·.sectionId == some id)).isSome := by
    obtain ⟨i, hi, rfl⟩ := List.mem_iff_getElem.mp hp
    have hlt : i < (ofDocument hash doc size).entries.length :=
      (isTreeOf_ofDocument hash doc size).length_eq ▸ hi
    have hsection := (sectionId_of_getElem? (List.getElem?_eq_getElem hi)
      (List.getElem?_eq_getElem hlt)).2
    rw [Place.nearestMark?_eq, hmark, Option.some_or] at hsection
    exact List.find?_isSome.mpr ⟨_, List.getElem_mem hlt, by simpa using hsection⟩
  obtain ⟨entry, hfind⟩ := Option.isSome_iff_exists.mp hfind
  refine ⟨entry, hfind, ?_⟩
  obtain ⟨q, hq, hshows, hmarks⟩ := first_of_section hfind
  rcases hmarks with hq' | ⟨a, ha, hamark⟩
  · have hmem := Document.subtree_subset_places htop (mem_subtree_of_mem_shownElements hq)
    exact hplaces q hmem hq' ▸ hshows
  · -- what is around the body is not below it
    obtain rfl := hplaces a (Document.mem_places_of_mem_ancestors htop ha) hamark
    exact absurd (length_ancestors_lt_of_mem ha) (Nat.not_lt.mpr (Place.length_ancestors_le_of_mem_subtree hsub))

theorem markup_of_section (htop : doc.bodyPlace ∈ doc.places) (hp : p ∈ shownElements doc.bodyPlace)
    (hone : doc.places.filter (·.mark? == some id) = [p]) (page : String) :
    (Snapshot.ofOutline (ofDocument hash doc size) page).markup? id = some p.node.outerMarkup ∧
      (ofDocument hash doc size).sectionMarkup? id = some p.node.outerMarkup := by
  obtain ⟨entry, hfind, hshows⟩ := exists_first_of_mark hash size htop hp hone
  have hids := (isTreeOf_ofDocument hash doc size).nodup_ids
  have hdoc : ofDocument hash doc size = ofEntries (ofDocument hash doc size).entries
      (ofDocument hash doc size).runs size := rfl
  have hempty : entry.markup.isEmpty = false := by
    rw [hshows.markup]
    exact isEmpty_outerMarkup hshows.isElement
  have hmarkup : ((some entry).map (·.markup)).filter (!·.isEmpty) = some p.node.outerMarkup := by
    rw [Option.map_some, Option.filter_some, if_pos (by rw [hempty]; rfl), hshows.markup]
  constructor
  · rw [Snapshot.markup?, hdoc, sectionRoot?_ofOutline hids, hfind, hmarkup]
  · rw [sectionMarkup?, hdoc, sectionRoot?_eq_find? hids, hfind, hmarkup]

end Outline

namespace Relevance

/-! ## Excerpts of a section -/

variable {doc : Document} {p : Place} {id : String}

theorem ofPlace?_of_mark? (h : p.mark? = some id) : Excerpt.ofPlace? p = some (.ofNode id p.node) := by
  rw [Excerpt.ofPlace?, ← Place.mark?, h, Option.map_some]

theorem mem_excerptsOf (hp : p ∈ doc.elementPlaces) (h : p.mark? = some id) :
    Excerpt.ofNode id p.node ∈ excerptsOf doc :=
  List.mem_filterMap.mpr ⟨p, hp, ofPlace?_of_mark? h⟩

/-- The excerpts of a section are those of the elements that mark it. -/
theorem filter_excerptsOf (doc : Document) (id : String) :
    (excerptsOf doc).filter (·.id == id) =
      (doc.elementPlaces.filter (·.mark? == some id)).filterMap Excerpt.ofPlace? := by
  rw [excerptsOf, List.filter_filterMap, List.filterMap_filter]
  congr 1
  funext p
  cases h : p.mark? with
  | none =>
    have hnone : Excerpt.ofPlace? p = none := by rw [Excerpt.ofPlace?, ← Place.mark?, h, Option.map_none]
    simp [hnone]
  | some s =>
    rw [ofPlace?_of_mark? h, Option.filter_some]
    by_cases hs : s = id
    · subst hs
      simp [Excerpt.ofNode]
    · simp [Excerpt.ofNode, hs]

theorem filter_elementPlaces (hone : doc.places.filter (·.mark? == some id) = [p])
    (hloose : ∀ q ∈ doc.loosePlaces, q.mark? ≠ some id) :
    doc.elementPlaces.filter (·.mark? == some id) = [p] := by
  have hplaces : doc.places.filter (fun q => q.mark? == some id && (q.isAttached && q.node.isElement)) =
      doc.places.filter (·.mark? == some id) := by
    refine List.filter_congr fun q hq => ?_
    by_cases hmark : q.mark? = some id
    · rw [Document.isAttached_of_mem_places hq, Place.isElement_of_mark? hmark, Bool.and_self, Bool.and_true]
    · rw [beq_false_of_ne hmark, Bool.false_and]
  have hnone : doc.loosePlaces.filter
      (fun q => q.mark? == some id && (q.isAttached && q.node.isElement)) = [] :=
    List.filter_eq_nil_iff.mpr fun q hq h => by
      rw [Bool.and_eq_true, beq_iff_eq] at h
      exact hloose q hq h.1
  have hperm := (Order.stableSort_perm (fun p q : Place => p.elementId ≤ q.elementId)
    ((doc.places ++ doc.loosePlaces).filter fun p => p.isAttached && p.node.isElement)).filter
      (·.mark? == some id)
  have hall : ((doc.places ++ doc.loosePlaces).filter fun p => p.isAttached && p.node.isElement).filter
      (·.mark? == some id) = [p] := by
    rw [List.filter_filter, List.filter_append, hplaces, hnone, hone, List.append_nil]
  exact List.perm_singleton.mp (hall ▸ hperm)

/-! ## Main statement -/

/-- How the excerpts of a document and an outline of it agree. -/
structure AgreesWith (doc : Document) (page : String) (xs : List Excerpt) (o : Outline) : Prop where
  /-- The entries are those of the elements that the walk comes to. -/
  shows : List.Forall₂ Outline.Entry.Shows o.entries (Outline.shownElements doc.bodyPlace)
  /-- Every section of the index has an excerpt. -/
  excerpt : ∀ id ∈ o.sectionIndex.map (·.1), ∃ x ∈ xs, x.id = id
  /-- An element with an entry that marks a section has an excerpt, and the section is in the index. -/
  mark : ∀ p ∈ Outline.shownElements doc.bodyPlace, ∀ id, p.mark? = some id →
    Excerpt.ofNode id p.node ∈ xs ∧ id ∈ o.sectionIndex.map (·.1)
  /-- If no other element of the document marks it, its markup is that of this excerpt. -/
  markup : ∀ p ∈ Outline.shownElements doc.bodyPlace, ∀ id, doc.places.filter (·.mark? == some id) = [p] →
    (Snapshot.ofOutline o page).markup? id = some (Excerpt.ofNode id p.node).markup ∧
      o.sectionMarkup? id = some (Excerpt.ofNode id p.node).markup
  /-- If besides nothing marks it that has been cut off, it has no other excerpt. -/
  alone : ∀ p ∈ Outline.shownElements doc.bodyPlace, ∀ id, doc.places.filter (·.mark? == some id) = [p] →
    (∀ q ∈ doc.loosePlaces, q.mark? ≠ some id) → xs.filter (·.id == id) = [Excerpt.ofNode id p.node]

theorem agreesWith_ofDocument (htop : doc.bodyPlace ∈ doc.places) (hash : String → String) (size : Nat)
    (page : String) : AgreesWith doc page (excerptsOf doc) (Outline.ofDocument hash doc size) := by
  have hforall := Outline.forall₂_ofDocument hash doc size
  have hindex := Outline.isIndexOf_ofEntries (Outline.isTreeOf_ofDocument hash doc size).nodup_ids
    (Outline.ofDocument hash doc size).runs size
  refine ⟨hforall.imp fun _ _ h => h.1, fun id hid => ?_, fun p hp id hmark => ⟨?_, ?_⟩,
    fun p hp id hone => Outline.markup_of_section htop hp hone page, fun p hp id hone hloose => ?_⟩
  · obtain ⟨entry, hentry, hsection⟩ := (hindex.mem_keys id).mp hid
    obtain ⟨i, hi, rfl⟩ := List.mem_iff_getElem.mp hentry
    have hnearest := (hforall.get hi (hforall.length_eq ▸ hi)).2.symm.trans hsection
    obtain ⟨a, ha, hmark⟩ := Outline.exists_mark_of_shown htop (List.getElem_mem _) hnearest
    exact ⟨_, mem_excerptsOf ha hmark, rfl⟩
  · have hplace := Document.subtree_subset_places htop (Outline.mem_subtree_of_mem_shownElements hp)
    exact mem_excerptsOf (Document.mem_elementPlaces_of_mark? hplace hmark) hmark
  · obtain ⟨i, hi, rfl⟩ := List.mem_iff_getElem.mp hp
    have hlt : i < (Outline.ofDocument hash doc size).entries.length := hforall.length_eq ▸ hi
    have hsection := (hforall.get hlt hi).2
    refine (hindex.mem_keys id).mpr ⟨_, List.getElem_mem hlt, hsection.trans ?_⟩
    have hmark' : ((Outline.shownElements doc.bodyPlace).get ⟨i, hi⟩).mark? = some id := hmark
    rw [Place.nearestMark?_eq, hmark', Option.some_or]
  · have hmark : p.mark? = some id := by
      have hmem : p ∈ doc.places.filter (·.mark? == some id) := hone ▸ List.mem_singleton_self p
      simpa using (List.mem_filter.mp hmem).2
    rw [filter_excerptsOf, filter_elementPlaces hone hloose, List.filterMap_cons, ofPlace?_of_mark? hmark]
    rfl

/-- The excerpts of a page agree with its outline. -/
theorem excerpts_agree_with_outline (html : String) :
    AgreesWith (.ofHtml html) html (excerpts html) (.ofHtml html) :=
  agreesWith_ofDocument (Document.bodyPlace_mem_places html) _ _ _

end Relevance

end PageEdit
