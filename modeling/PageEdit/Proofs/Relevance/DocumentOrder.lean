import PageEdit.Proofs.Html.Numbering
import PageEdit.Proofs.Html.Shape
import PageEdit.Proofs.Relevance.Agreement

/-!
# The order of excerpts

Excerpts come in the order in which reading made the elements that they are of, those in trees that have been cut off
among them; the index of an outline has its sections in the order of the document. The two orders differ where
reading moves something about: what is misplaced in a table goes before the table, after the rows that are in it.

* `sectionPlaces_eq`: the elements that excerpts are of, sorted by number.
* `sectionPlaces_sublist_iff`: when they come in document order.
* `sectionIds_ofDocument`: the sections of the index in the order of the marks along the walk.
* `excerpts_are_in_order_of_reading`: the order of excerpts, of the index, and when they agree.
-/

namespace PageEdit

open Html

/-- The places of those elements that mark a section. -/
def Html.Place.marking (places : List Place) : List Place := places.filter (·.mark?.isSome)

namespace Relevance

/-- The places of the elements that excerpts are of, in the order of the excerpts. -/
def sectionPlaces (doc : Document) : List Place := Place.marking doc.elementPlaces

/-- The places of the elements that mark a section, first those of the document and then those that have been cut off
with the elements around them. -/
def markedPlaces (doc : Document) : List Place :=
  Place.marking doc.places ++ Place.marking (doc.loosePlaces.filter (·.isAttached))

/-- Whether the elements that mark a section have ascending numbers. -/
def Ascend (places : List Place) : Prop := (Place.marking places).Pairwise fun p q => p.elementId ≤ q.elementId

instance (places : List Place) : Decidable (Ascend places) := inferInstanceAs (Decidable (List.Pairwise _ _))

section

variable {doc : Document} {p : Place}

/-! ## Excerpts and their elements -/

theorem mem_marking_of_mark? {places : List Place} {id : String} (h : p ∈ places) (hmark : p.mark? = some id) :
    p ∈ Place.marking places :=
  List.mem_filter.mpr ⟨h, by rw [hmark]; rfl⟩

theorem forall₂_excerptsOf (doc : Document) :
    List.Forall₂ (fun x p => ∃ id, p.mark? = some id ∧ x = Excerpt.ofNode id p.node) (excerptsOf doc)
      (sectionPlaces doc) := by
  rw [excerptsOf, sectionPlaces, Place.marking]
  induction doc.elementPlaces with
  | nil => exact .nil
  | cons p rest ih =>
    cases hmark : p.mark? with
    | none =>
      have hnone : Excerpt.ofPlace? p = none := by rw [Excerpt.ofPlace?, ← Place.mark?, hmark, Option.map_none]
      rwa [List.filterMap_cons_none hnone, List.filter_cons_of_neg (by rw [hmark]; decide)]
    | some id =>
      rw [List.filterMap_cons_some (ofPlace?_of_mark? hmark), List.filter_cons_of_pos (by rw [hmark]; rfl)]
      exact .cons ⟨id, hmark, rfl⟩ ih

theorem filterMap_marking (places : List Place) :
    (Place.marking places).filterMap Place.mark? = places.filterMap Place.mark? := by
  rw [Place.marking, List.filterMap_filter]
  refine List.filterMap_congr fun p _ => ?_
  cases p.mark? <;> rfl

theorem ids_excerptsOf (doc : Document) : (excerptsOf doc).map (·.id) = (sectionPlaces doc).filterMap Place.mark? := by
  rw [excerpts_ids, sectionPlaces, filterMap_marking]
  rfl

/-! ## The order of numbers -/

theorem filter_elements_marking :
    Place.marking ((doc.places ++ doc.loosePlaces).filter fun p => p.isAttached && p.node.isElement) =
      markedPlaces doc := by
  have hplaces : doc.places.filter (fun p => p.mark?.isSome && (p.isAttached && p.node.isElement)) =
      Place.marking doc.places := by
    refine List.filter_congr fun p hp => ?_
    cases hmark : p.mark? with
    | none => rfl
    | some id => rw [Document.isAttached_of_mem_places hp, Place.isElement_of_mark? hmark]; rfl
  have hloose : doc.loosePlaces.filter (fun p => p.mark?.isSome && (p.isAttached && p.node.isElement)) =
      Place.marking (doc.loosePlaces.filter (·.isAttached)) := by
    rw [Place.marking, List.filter_filter]
    refine List.filter_congr fun p _ => ?_
    cases hmark : p.mark? with
    | none => rfl
    | some id => rw [Place.isElement_of_mark? hmark, Bool.and_true]
  rw [markedPlaces, Place.marking, List.filter_filter, List.filter_append, hplaces, hloose]

/-- Whether a place may stand before another by their numbers. -/
def byNumber (p q : Place) : Bool := p.elementId ≤ q.elementId

theorem byNumber_total (p q : Place) : byNumber p q = true ∨ byNumber q p = true := by
  simpa only [byNumber, decide_eq_true_eq] using Nat.le_total _ _

theorem byNumber_trans (p q r : Place) (hpq : byNumber p q = true) (hqr : byNumber q r = true) : byNumber p r = true :=
  decide_eq_true (Nat.le_trans (of_decide_eq_true hpq) (of_decide_eq_true hqr))

/-- The elements that excerpts are of are sorted by their numbers. -/
theorem sectionPlaces_eq (doc : Document) : sectionPlaces doc = Order.stableSort byNumber (markedPlaces doc) := by
  have hplaces : doc.elementPlaces = Order.stableSort byNumber
      ((doc.places ++ doc.loosePlaces).filter fun p => p.isAttached && p.node.isElement) := rfl
  rw [sectionPlaces, Place.marking, hplaces, Order.filter_stableSort byNumber_total byNumber_trans, ← Place.marking,
    filter_elements_marking]

theorem sectionPlaces_perm (doc : Document) : (sectionPlaces doc).Perm (markedPlaces doc) :=
  sectionPlaces_eq doc ▸ Order.stableSort_perm _ _

theorem pairwise_sectionPlaces (doc : Document) :
    (sectionPlaces doc).Pairwise fun p q => p.elementId ≤ q.elementId := by
  rw [sectionPlaces_eq]
  exact (Order.pairwise_stableSort byNumber_total byNumber_trans _).imp of_decide_eq_true

/-! ## The order of the document -/

theorem Ascend.sublist {some all : List Place} (h : Ascend all) (hsub : some.Sublist all) : Ascend some :=
  List.Pairwise.sublist (hsub.filter _) h

theorem Ascend.stableSort_eq_self {places : List Place} (h : Ascend places) :
    Order.stableSort byNumber (Place.marking places) = Place.marking places :=
  Order.stableSort_eq_self (List.Pairwise.imp decide_eq_true h)

/-- Sections come in document order exactly if none has been cut off and numbers ascend along the document. -/
theorem sectionPlaces_sublist_iff (doc : Document) :
    (sectionPlaces doc).Sublist doc.places ↔
      (∀ p ∈ doc.loosePlaces, p.isAttached = true → p.mark? = none) ∧ Ascend doc.places := by
  have hmarked : (∀ p ∈ doc.loosePlaces, p.isAttached = true → p.mark? = none) →
      markedPlaces doc = Place.marking doc.places := by
    intro hnone
    have hloose : Place.marking (doc.loosePlaces.filter (·.isAttached)) = [] := by
      refine List.filter_eq_nil_iff.mpr fun p hp hmark => ?_
      obtain ⟨hp, hattached⟩ := List.mem_filter.mp hp
      rw [hnone p hp hattached] at hmark
      cases hmark
    rw [markedPlaces, hloose, List.append_nil]
  constructor
  · intro hsub
    have hnone : ∀ p ∈ doc.loosePlaces, p.isAttached = true → p.mark? = none := by
      intro p hp hattached
      refine Option.eq_none_iff_forall_ne_some.mpr fun id hmark => ?_
      have hmem : p ∈ markedPlaces doc :=
        List.mem_append_right _ (mem_marking_of_mark? (List.mem_filter.mpr ⟨hp, hattached⟩) hmark)
      have hplaces := hsub.subset ((sectionPlaces_perm doc).mem_iff.mpr hmem)
      have hground := (Document.tops_of_mem_places hplaces).1
      rw [Document.ground_of_mem_loosePlaces hp] at hground
      cases hground
    have hmarking : Place.marking (sectionPlaces doc) = sectionPlaces doc :=
      List.filter_eq_self.mpr fun p hp => (List.mem_filter.mp hp).2
    have hpart : (sectionPlaces doc).Sublist (Place.marking doc.places) := hmarking ▸ hsub.filter _
    have heq : sectionPlaces doc = Place.marking doc.places :=
      hpart.eq_of_length ((sectionPlaces_perm doc).length_eq.trans (by rw [hmarked hnone]))
    refine ⟨hnone, ?_⟩
    rw [Ascend, ← heq]
    exact pairwise_sectionPlaces doc
  · rintro ⟨hnone, hascend⟩
    rw [sectionPlaces_eq, hmarked hnone, hascend.stableSort_eq_self]
    exact List.filter_sublist

/-- Where all numbers ascend and nothing has been cut off, sections come in document order. -/
theorem sublist_of_isNumberedInOrder (h : doc.IsNumberedInOrder) (hloose : doc.loose = []) :
    (sectionPlaces doc).Sublist doc.places := by
  rw [sectionPlaces_sublist_iff]
  constructor
  · intro p hp
    rw [Document.loosePlaces, hloose] at hp
    exact absurd hp List.not_mem_nil
  · have hmarking : Place.marking doc.places = Place.marking (doc.places.filter (·.node.isElement)) := by
      rw [Place.marking, Place.marking, List.filter_filter]
      refine List.filter_congr fun p _ => ?_
      cases hmark : p.mark? with
      | none => rfl
      | some id => rw [Place.isElement_of_mark? hmark]; rfl
    rw [Ascend, hmarking]
    exact (h.pairwise.imp Nat.le_of_lt).filter _

end

end Relevance

namespace Outline

/-! ## The order of the index -/

/-- What is passed on from one item to later ones does not come up again. The induction is on the last item. -/
theorem distinct_filterMap_passed {α : Type} {own passed : α → Option String} {top : α} {rest : List α}
    (htop : ∃ outer, passed top = (own top).or outer)
    (hrest : ∀ before x after, rest = before ++ x :: after → ∃ y ∈ top :: before, passed x = (own x).or (passed y)) :
    Order.distinct ((top :: rest).filterMap passed) =
      Order.distinct ((passed top).toList ++ (top :: rest).filterMap own) := by
  induction rest using List.reverseRecOn with
  | nil =>
    obtain ⟨outer, houter⟩ := htop
    cases hown : own top with
    | none => cases hpassed : passed top <;> simp [hown, hpassed]
    | some id =>
      rw [hown, Option.some_or] at houter
      rw [List.filterMap_cons_some hown, List.filterMap_cons_some houter, houter]
      have hseen : ∀ x ∈ [id], x ∈ [id] := fun _ hx => hx
      exact (Order.foldl_see_of_subset hseen).symm
  | append_singleton rest x ih =>
    have hbefore := ih fun before y after heq => hrest before y (after ++ [x]) (by rw [heq]; simp)
    obtain ⟨y, hy, hx⟩ := hrest rest x [] rfl
    have hsplit : ∀ f : α → Option String,
        (top :: (rest ++ [x])).filterMap f = (top :: rest).filterMap f ++ (f x).toList := by
      intro f
      rw [← List.cons_append, List.filterMap_append]
      cases hf : f x <;> simp [hf]
    rw [hsplit, hsplit, ← List.append_assoc, Order.distinct_append, Order.distinct_append, hbefore]
    cases hown : own x with
    | some id => rw [hx, hown, Option.some_or]
    | none =>
      -- what is passed on to the last item has come up before
      rw [hx, hown, Option.none_or, ← hbefore]
      refine Order.foldl_see_of_subset fun id hid => Order.mem_distinct.mpr ?_
      exact List.mem_filterMap.mpr ⟨y, hy, by simpa using hid⟩

section

variable {doc : Document}

theorem keys_ofDocument (hash : String → String) (doc : Document) (size : Nat) :
    (ofDocument hash doc size).sectionIndex.map (·.1) = sectionIds (ofDocument hash doc size).entries := by
  simp [ofDocument, Draft.finish, ofEntries, Function.comp_def]

theorem filterMap_sectionId_ofDocument (hash : String → String) (doc : Document) (size : Nat) :
    (ofDocument hash doc size).entries.filterMap (·.sectionId) =
      (shownElements doc.bodyPlace).filterMap Place.nearestMark? := by
  have hall := forall₂_ofDocument hash doc size
  generalize (ofDocument hash doc size).entries = entries at hall ⊢
  generalize shownElements doc.bodyPlace = places at hall ⊢
  induction hall with
  | nil => rfl
  | cons h _ ih => rw [List.filterMap_cons, List.filterMap_cons, h.2, ih]

/-- On the walk an element without a mark is in the section of one that comes before it. -/
theorem exists_passed_on (hash : String → String) (size : Nat) {before after : List Place} {p : Place}
    (hsplit : shownElements doc.bodyPlace = before ++ p :: after) (hne : before ≠ []) :
    ∃ q ∈ before, p.nearestMark? = p.mark?.or q.nearestMark? := by
  have htree := isTreeOf_ofDocument hash doc size
  obtain ⟨i, hi⟩ : ∃ i, before.length = i + 1 := Nat.exists_eq_succ_of_ne_zero (by simpa using hne)
  have hp : (shownElements doc.bodyPlace)[i + 1]? = some p := by
    rw [hsplit, ← hi]
    simp
  have hlt : i + 1 < (ofDocument hash doc size).entries.length := by
    rw [htree.length_eq, hsplit, List.length_append, List.length_cons]
    omega
  obtain ⟨j, q, -, hj, hq, -, haround, -⟩ := htree.child i p _ hp (List.getElem?_eq_getElem hlt)
  rw [hsplit, List.getElem?_append_left (by omega)] at hq
  exact ⟨q, List.mem_of_getElem? hq, by rw [Place.nearestMark?_eq, findSome?_mark?_ancestors haround]⟩

/-- The sections of the index come in the order of their marks along the walk; what is around the body comes first. -/
theorem sectionIds_ofDocument (hash : String → String) (doc : Document) (size : Nat) :
    sectionIds (ofDocument hash doc size).entries =
      Order.distinct (doc.bodyPlace.nearestMark?.toList ++ (shownElements doc.bodyPlace).filterMap Place.mark?) := by
  rw [sectionIds, filterMap_sectionId_ofDocument]
  obtain ⟨rest, hrest⟩ := List.head?_eq_some_iff.mp (head?_shownElements doc)
  rw [hrest]
  refine distinct_filterMap_passed ⟨_, Place.nearestMark?_eq doc.bodyPlace⟩ fun before p after heq => ?_
  have hsplit : shownElements doc.bodyPlace = (doc.bodyPlace :: before) ++ p :: after := by
    rw [hrest, heq, List.cons_append]
  exact exists_passed_on hash size hsplit (List.cons_ne_nil _ _)

end

end Outline

namespace Relevance

/-! ## Where both orders agree -/

open Outline (shownElements sectionIds)

/-- Whether an element marks one of some sections. -/
def marksOneOf (keys : List String) (p : Place) : Bool := p.mark?.any (· ∈ keys)

theorem marksOneOf_iff {keys : List String} {p : Place} :
    marksOneOf keys p = true ↔ ∃ id ∈ keys, p.mark? = some id := by
  rw [marksOneOf, Option.any_eq_true]
  constructor
  · rintro ⟨id, hmark, hid⟩
    exact ⟨id, of_decide_eq_true hid, hmark⟩
  · rintro ⟨id, hid, hmark⟩
    exact ⟨id, hmark, decide_eq_true hid⟩

theorem filterMap_filter_marksOneOf (keys : List String) (places : List Place) :
    (places.filter (marksOneOf keys)).filterMap Place.mark? = (places.filterMap Place.mark?).filter (· ∈ keys) := by
  induction places with
  | nil => rfl
  | cons p rest ih =>
    cases hmark : p.mark? with
    | none =>
      have hp : ¬ marksOneOf keys p = true := by simp [marksOneOf, hmark]
      rw [List.filter_cons_of_neg hp, List.filterMap_cons_none hmark, ih]
    | some id =>
      by_cases hid : id ∈ keys
      · have hp : marksOneOf keys p = true := marksOneOf_iff.mpr ⟨id, hid, hmark⟩
        rw [List.filter_cons_of_pos hp, List.filterMap_cons_some hmark, List.filterMap_cons_some hmark,
          List.filter_cons_of_pos (by simpa using hid), ih]
      · have hp : ¬ marksOneOf keys p = true := by simp [marksOneOf, hmark, hid]
        rw [List.filter_cons_of_neg hp, List.filterMap_cons_some hmark,
          List.filter_cons_of_neg (by simpa using hid), ih]

theorem length_filter_marksOneOf (keys : List String) (places : List Place) :
    (places.filter (marksOneOf keys)).length = ((places.filterMap Place.mark?).filter (· ∈ keys)).length := by
  rw [← filterMap_filter_marksOneOf]
  have hall : ∀ p ∈ places.filter (marksOneOf keys), (p.mark?).isSome = true := by
    intro p hp
    obtain ⟨id, -, hmark⟩ := marksOneOf_iff.mp (List.mem_filter.mp hp).2
    rw [hmark]
    rfl
  generalize places.filter (marksOneOf keys) = marked at hall ⊢
  induction marked with
  | nil => rfl
  | cons p rest ih =>
    obtain ⟨hp, hrest⟩ := List.forall_mem_cons.mp hall
    obtain ⟨id, hmark⟩ := Option.isSome_iff_exists.mp hp
    rw [List.filterMap_cons_some hmark, List.length_cons, List.length_cons, ih hrest]

theorem filter_marking_marksOneOf (keys : List String) (places : List Place) :
    (Place.marking places).filter (marksOneOf keys) = places.filter (marksOneOf keys) := by
  rw [Place.marking, List.filter_filter]
  refine List.filter_congr fun p _ => ?_
  cases hmark : p.mark? <;> simp [marksOneOf, hmark]

section

variable {doc : Document} {keys : List String}

theorem shownElements_sublist_places (htop : doc.bodyPlace ∈ doc.places) :
    (shownElements doc.bodyPlace).Sublist doc.places :=
  (List.filter_sublist.trans List.filter_sublist).trans (Document.subtree_sublist_places htop)

/-- Where as many excerpts are of some sections as elements on the walk that mark them, they are of these elements. -/
theorem filter_markedPlaces_eq (htop : doc.bodyPlace ∈ doc.places)
    (hcount : ∀ id ∈ keys, ((excerptsOf doc).map (·.id)).count id =
      ((shownElements doc.bodyPlace).filterMap Place.mark?).count id) :
    (markedPlaces doc).filter (marksOneOf keys) = (shownElements doc.bodyPlace).filter (marksOneOf keys) := by
  have hsub : ((shownElements doc.bodyPlace).filter (marksOneOf keys)).Sublist
      ((markedPlaces doc).filter (marksOneOf keys)) := by
    have hshown := (shownElements_sublist_places htop).filter (marksOneOf keys)
    rw [markedPlaces, List.filter_append, filter_marking_marksOneOf]
    exact hshown.trans (List.sublist_append_left _ _)
  have hperm : (((excerptsOf doc).map (·.id)).filter (· ∈ keys)).Perm
      (((shownElements doc.bodyPlace).filterMap Place.mark?).filter (· ∈ keys)) := by
    rw [List.perm_iff_count]
    intro id
    by_cases hid : id ∈ keys
    · rw [List.count_filter (by simpa using hid), List.count_filter (by simpa using hid), hcount id hid]
    · have hnone : ∀ ids : List String, (ids.filter (· ∈ keys)).count id = 0 := fun ids =>
        List.count_eq_zero.mpr fun h => hid (of_decide_eq_true (List.mem_filter.mp h).2)
      rw [hnone, hnone]
  refine (hsub.eq_of_length ?_).symm
  calc ((shownElements doc.bodyPlace).filter (marksOneOf keys)).length
      = (((shownElements doc.bodyPlace).filterMap Place.mark?).filter (· ∈ keys)).length :=
        length_filter_marksOneOf _ _
    _ = (((excerptsOf doc).map (·.id)).filter (· ∈ keys)).length := hperm.length_eq.symm
    _ = ((sectionPlaces doc).filter (marksOneOf keys)).length := by
        rw [ids_excerptsOf, length_filter_marksOneOf]
    _ = ((markedPlaces doc).filter (marksOneOf keys)).length :=
        ((sectionPlaces_perm doc).filter _).length_eq

theorem filter_marksOneOf_eq_marking {places : List Place} (h : ∀ p ∈ places, ∀ id, p.mark? = some id → id ∈ keys) :
    places.filter (marksOneOf keys) = Place.marking places := by
  refine List.filter_congr fun p hp => ?_
  cases hmark : p.mark? with
  | none => simp [marksOneOf, hmark]
  | some id => exact marksOneOf_iff.mpr ⟨id, h p hp id hmark, hmark⟩

/-- If only elements on the walk mark sections of the index, the section around the body is marked by the body. -/
theorem mark_bodyPlace (htop : doc.bodyPlace ∈ doc.places)
    (hmarked : (markedPlaces doc).filter (marksOneOf keys) = (shownElements doc.bodyPlace).filter (marksOneOf keys))
    {id : String} (hid : id ∈ keys) (hnearest : doc.bodyPlace.nearestMark? = some id) :
    doc.bodyPlace.mark? = some id := by
  obtain ⟨a, ha, hmark⟩ := Outline.exists_mark_of_nearestMark? hnearest
  have hplace : a ∈ doc.places := by
    rcases List.mem_cons.mp ha with rfl | ha
    · exact htop
    · exact Document.mem_places_of_mem_ancestors htop ha
  have hshown : a ∈ shownElements doc.bodyPlace := by
    have hmem : a ∈ (markedPlaces doc).filter (marksOneOf keys) :=
      List.mem_filter.mpr ⟨List.mem_append_left _ (mem_marking_of_mark? hplace hmark),
        marksOneOf_iff.mpr ⟨id, hid, hmark⟩⟩
    rw [hmarked] at hmem
    exact (List.mem_filter.mp hmem).1
  -- nothing around the body is on the walk
  rcases List.mem_cons.mp ha with rfl | ha
  · exact hmark
  · have hle := Place.length_ancestors_le_of_mem_subtree (Outline.mem_subtree_of_mem_shownElements hshown)
    exact absurd (Outline.length_ancestors_lt_of_mem ha) (Nat.not_lt.mpr hle)

/-- A section that the body marks comes first on the walk, so nothing is added by naming it before. -/
theorem distinct_nearestMark_append
    (hbody : ∀ id, doc.bodyPlace.nearestMark? = some id → doc.bodyPlace.mark? = some id) :
    Order.distinct (doc.bodyPlace.nearestMark?.toList ++ (shownElements doc.bodyPlace).filterMap Place.mark?) =
      Order.distinct ((shownElements doc.bodyPlace).filterMap Place.mark?) := by
  cases hnearest : doc.bodyPlace.nearestMark? with
  | none => rfl
  | some id =>
    obtain ⟨rest, hrest⟩ := List.head?_eq_some_iff.mp (Outline.head?_shownElements doc)
    have hsee : Order.see (Order.see [] id) id = Order.see [] id := by simp [Order.see]
    rw [hrest, List.filterMap_cons_some (hbody id hnearest), Option.toList_some, List.singleton_append, Order.distinct,
      Order.distinct, List.foldl_cons, List.foldl_cons, hsee, List.foldl_cons]

/-- Where the elements on the walk that mark sections have ascending numbers, and no other element has an excerpt of a
section of the index, these sections first come among the excerpts in the order of the index. -/
theorem filter_distinct_ids_eq (htop : doc.bodyPlace ∈ doc.places) (hash : String → String) (size : Nat)
    (hkeys : keys = sectionIds (Outline.ofDocument hash doc size).entries)
    (hascend : Ascend (shownElements doc.bodyPlace))
    (hcount : ∀ id ∈ keys, ((excerptsOf doc).map (·.id)).count id =
      ((shownElements doc.bodyPlace).filterMap Place.mark?).count id) :
    (Order.distinct ((excerptsOf doc).map (·.id))).filter (· ∈ keys) = keys := by
  rw [Outline.sectionIds_ofDocument] at hkeys
  have hmarked := filter_markedPlaces_eq htop hcount
  have hshown : (shownElements doc.bodyPlace).filter (marksOneOf keys) = Place.marking (shownElements doc.bodyPlace) :=
    filter_marksOneOf_eq_marking fun p hp id hmark => by
      rw [hkeys]
      exact Order.mem_distinct.mpr (List.mem_append_right _ (List.mem_filterMap.mpr ⟨p, hp, hmark⟩))
  have hplaces : (sectionPlaces doc).filter (marksOneOf keys) = Place.marking (shownElements doc.bodyPlace) := by
    rw [sectionPlaces_eq, Order.filter_stableSort byNumber_total byNumber_trans, hmarked, hshown,
      hascend.stableSort_eq_self]
  have hids : ((excerptsOf doc).map (·.id)).filter (· ∈ keys) =
      (shownElements doc.bodyPlace).filterMap Place.mark? := by
    rw [ids_excerptsOf, ← filterMap_filter_marksOneOf, hplaces, filterMap_marking]
  have hbody : ∀ id, doc.bodyPlace.nearestMark? = some id → doc.bodyPlace.mark? = some id := by
    intro id hnearest
    have hid : id ∈ keys := by
      rw [hkeys, hnearest]
      exact Order.mem_distinct.mpr List.mem_cons_self
    exact mark_bodyPlace htop hmarked hid hnearest
  rw [Order.filter_distinct, hids, ← distinct_nearestMark_append hbody, ← hkeys]

end

/-! ## Main statement -/

/-- How the excerpts of a document are ordered, and how this goes with the order of the sections in an index. -/
structure FollowsReading (doc : Document) (xs : List Excerpt) (keys : List String) : Prop where
  /-- Each excerpt is of its own element that marks a section. -/
  elements : List.Forall₂ (fun x p => ∃ id, p.mark? = some id ∧ x = Excerpt.ofNode id p.node) xs (sectionPlaces doc)
  /-- These elements come in the order of their numbers, those that have been cut off among them. -/
  sorted : sectionPlaces doc = Order.stableSort byNumber (markedPlaces doc)
  /-- They come in document order exactly if none has been cut off and numbers ascend along the document. -/
  ordered : (sectionPlaces doc).Sublist doc.places ↔
    (∀ p ∈ doc.loosePlaces, p.isAttached = true → p.mark? = none) ∧ Ascend doc.places
  /-- The index begins with the section that the body is in, and goes on with the marks along the walk. -/
  index : keys = Order.distinct
    (doc.bodyPlace.nearestMark?.toList ++ (Outline.shownElements doc.bodyPlace).filterMap Place.mark?)
  /-- If numbers ascend along the walk, and no other element has an excerpt of a section of the index, the sections of
  the index first come among the excerpts in the order of the index. -/
  agree : Ascend (Outline.shownElements doc.bodyPlace) →
    (∀ id ∈ keys, (xs.map (·.id)).count id = ((Outline.shownElements doc.bodyPlace).filterMap Place.mark?).count id) →
      (Order.distinct (xs.map (·.id))).filter (· ∈ keys) = keys

theorem followsReading_ofHtml (html : String) :
    FollowsReading (.ofHtml html) (excerpts html) ((Outline.ofHtml html).sectionIndex.map (·.1)) := by
  have hkeys : (Outline.ofHtml html).sectionIndex.map (·.1) = Outline.sectionIds (Outline.ofHtml html).entries :=
    Outline.keys_ofDocument Outline.shortHash (.ofHtml html) html.utf8ByteSize
  refine ⟨forall₂_excerptsOf _, sectionPlaces_eq _, sectionPlaces_sublist_iff _, ?_, fun hascend hcount => ?_⟩
  · rw [hkeys]
    exact Outline.sectionIds_ofDocument Outline.shortHash (.ofHtml html) html.utf8ByteSize
  · exact filter_distinct_ids_eq (Document.bodyPlace_mem_places html) Outline.shortHash html.utf8ByteSize hkeys hascend
      hcount

end Relevance

open Relevance

/-- Excerpts come in the order in which reading made their elements. This is the order of the document exactly if
reading has not cut off a section and the numbers of sections ascend; it is then the order of the index too, as far
as sections are marked where the outline has entries. So it is in every page that has been written of a plain one. -/
theorem excerpts_are_in_order_of_reading (html : String) :
    FollowsReading (.ofHtml html) (excerpts html) ((Outline.ofHtml html).sectionIndex.map (·.1)) ∧
      ∀ doc : Document, doc.isPlain = true → html = doc.write noRevisions →
        (sectionPlaces (.ofHtml html)).Sublist (Document.ofHtml html).places ∧
          Ascend (Outline.shownElements (Document.ofHtml html).bodyPlace) := by
  refine ⟨followsReading_ofHtml html, fun doc hplain hwritten => ?_⟩
  obtain ⟨hordered, hloose⟩ := isNumberedInOrder_ofHtml_write (Document.isSpelled_of_isPlain hplain)
  rw [← hwritten] at hordered hloose
  have hsub := sublist_of_isNumberedInOrder hordered hloose
  refine ⟨hsub, ((sectionPlaces_sublist_iff _).mp hsub).2.sublist ?_⟩
  exact shownElements_sublist_places (Document.bodyPlace_mem_places html)

/-- A page with a section in a section. -/
theorem excerpts_are_in_order_of_reading_nested :
    let doc := Document.ofHtml "<p data-section-id=b><i data-section-id=a>"
    let page := doc.write noRevisions
    let keys := (Outline.ofHtml page).sectionIndex.map (·.1)
    doc.isPlain = true ∧ (sectionPlaces (.ofHtml page)).Sublist (Document.ofHtml page).places ∧ keys = ["b", "a"] ∧
      (Order.distinct ((excerpts page).map (·.id))).filter (· ∈ keys) = keys := by
  intro doc page keys
  have hplain : doc.isPlain = true := by decide +kernel
  obtain ⟨hfollows, hwritten⟩ := excerpts_are_in_order_of_reading page
  obtain ⟨hsub, hascend⟩ := hwritten doc hplain rfl
  have hkeys : keys = ["b", "a"] := by
    refine hfollows.index.trans ?_
    decide +kernel
  refine ⟨hplain, hsub, hkeys, hfollows.agree hascend ?_⟩
  show ∀ id ∈ keys, _
  rw [hkeys]
  decide +kernel

/-- A row of a table was made before what is moved out of the table, to a place before the row. -/
theorem rows_come_before_what_is_moved :
    let html := "<table><tr data-section-id=\"a\"><td>x</td></tr><p data-section-id=\"b\">y</p></table>"
    (excerpts html).map (·.id) = ["a", "b"] ∧
      (Document.ofHtml html).places.filterMap Place.mark? = ["b", "a"] ∧
      (Outline.ofHtml html).sectionIndex.map (·.1) = ["b", "a"] ∧
      ¬ (sectionPlaces (.ofHtml html)).Sublist (Document.ofHtml html).places := by
  intro html
  have hread : (excerpts html).map (·.id) = ["a", "b"] ∧
      (Document.ofHtml html).places.filterMap Place.mark? = ["b", "a"] ∧
      Order.distinct ((Document.ofHtml html).bodyPlace.nearestMark?.toList ++
        (Outline.shownElements (Document.ofHtml html).bodyPlace).filterMap Place.mark?) = ["b", "a"] ∧
      ¬ Ascend (Document.ofHtml html).places := by
    decide +kernel
  obtain ⟨hids, hplaces, hindex, hnot⟩ := hread
  refine ⟨hids, hplaces, (followsReading_ofHtml html).index.trans hindex, fun hsub => ?_⟩
  exact hnot ((sectionPlaces_sublist_iff _).mp hsub).2

end PageEdit
