import PageEdit.Proofs.Html.Writing
import PageEdit.Proofs.Patch.Runs

/-!
# Whether a patch takes effect

A patch that applies has a revision for some element that its selectors pick. Selectors look at every element
with a parent, also in the content of templates and in trees that reading has cut off from the document, and
writing comes to neither. So a patch that applies changes something only if one of its elements is among
those that are written; if none is, all its edits are dropped, and the page is written back as it was read.

* `Patch.apply_eq_ok_iff`: a patch applies exactly if it has a revision for some element.
* `applied_patches_take_effect`: when one of the edits of a patch is written, and what comes of it otherwise.
-/

namespace PageEdit

open Html

/-! ## Tables of revisions -/

section Tables

variable {change : Change} {elements : List Element} {id : Nat}

theorem exists_of_lookupEdit {r : Revision}
    (h : lookupEdit (editTable change elements) id = some r) :
    ∃ e ∈ elements, e.id = id ∧ change.revision? e = some r := by
  obtain ⟨⟨k, s⟩, hfind, rfl⟩ := Option.map_eq_some_iff.mp h
  have hkey : k = id := by simpa using List.find?_some hfind
  obtain ⟨e, he, hentry⟩ := List.mem_filterMap.mp (List.mem_of_find?_eq_some hfind)
  obtain ⟨t, ht, hpair⟩ := Option.map_eq_some_iff.mp hentry
  obtain ⟨rfl, rfl⟩ := Prod.mk.inj hpair
  exact ⟨e, he, hkey, ht⟩

theorem isSome_lookupEdit {e : Element} (he : e ∈ elements)
    (hrev : (change.revision? e).isSome = true) :
    (lookupEdit (editTable change elements) e.id).isSome = true := by
  obtain ⟨r, hr⟩ := Option.isSome_iff_exists.mp hrev
  rw [lookupEdit, Option.isSome_map, List.find?_isSome]
  exact ⟨(e.id, r), List.mem_filterMap.mpr ⟨e, he, by rw [hr, Option.map_some]⟩, beq_self_eq_true _⟩

theorem editTable_isEmpty : (editTable change elements).isEmpty =
    (elements.filter fun e => (change.revision? e).isSome).isEmpty := by
  rw [Bool.eq_iff_iff, List.isEmpty_iff, List.isEmpty_iff, editTable, List.filterMap_eq_nil_iff,
    List.filter_eq_nil_iff]
  simp

end Tables

namespace Patch

/-- The places that the selectors of a patch pick on a page; none if the patch is not sound. -/
def places (html : String) (p : Patch) : List Place :=
  match p.plan with
  | .ok plan => Css.select plan.selectors (.ofHtml html)
  | .error _ => []

/-- The elements that a patch picks on a page. -/
def picked (html : String) (p : Patch) : List Element := (p.places html).filterMap Place.element?

/-- What a patch does to an element, if the patch is sound and changes an element such as this one. -/
def revision? (p : Patch) (e : Element) : Option Revision :=
  match p.plan with
  | .ok plan => plan.change.revision? e
  | .error _ => none

/-- The elements that a patch picks on a page and has a revision for. -/
def edited (html : String) (p : Patch) : List Element :=
  (p.picked html).filter fun e => (p.revision? e).isSome

/-- The revisions of a patch on a page, by the numbers of the elements. -/
def revisions (html : String) (p : Patch) : Revisions :=
  match p.plan with
  | .ok plan => lookupEdit (editTable plan.change (pickedElements plan.selectors (.ofHtml html)))
  | .error _ => noRevisions

variable {html next : String} {p : Patch}

section Planned

variable {plan : Plan} (h : p.plan = .ok plan)

include h

theorem places_of_plan : p.places html = Css.select plan.selectors (.ofHtml html) := by
  rw [places, h]

theorem picked_of_plan : p.picked html = pickedElements plan.selectors (.ofHtml html) := by
  rw [picked, places_of_plan h, pickedElements]

theorem revision?_of_plan (e : Element) : p.revision? e = plan.change.revision? e := by
  rw [revision?, h]

theorem edited_of_plan : p.edited html =
    (pickedElements plan.selectors (.ofHtml html)).filter fun e =>
      (plan.change.revision? e).isSome := by
  rw [edited, picked_of_plan h]
  simp only [revision?_of_plan h]

theorem revisions_of_plan : p.revisions html =
    lookupEdit (editTable plan.change (pickedElements plan.selectors (.ofHtml html))) := by
  rw [revisions, h]

theorem apply_of_plan : p.apply html = p.applyPlan plan (.ofHtml html) := by
  unfold Patch.apply
  -- how the page is read does not matter here
  generalize Document.ofHtml html = doc
  rw [h]
  rfl

end Planned

/-! ## Patches that apply -/

theorem applyPlan_eq_ok_iff {plan : Plan} {doc : Document} : p.applyPlan plan doc = .ok next ↔
    ((pickedElements plan.selectors doc).filter fun e => (plan.change.revision? e).isSome) ≠ [] ∧
      next = doc.write (lookupEdit (editTable plan.change (pickedElements plan.selectors doc))) := by
  simp only [applyPlan, editTable_isEmpty]
  generalize pickedElements plan.selectors doc = elements
  cases elements with
  | nil => simp
  | cons e rest =>
    rw [List.isEmpty_cons, if_neg Bool.false_ne_true]
    split
    · rename_i hempty
      simp [List.isEmpty_iff.mp hempty]
    · rename_i hsome
      rw [List.isEmpty_iff] at hsome
      simp only [Except.ok.injEq, hsome, ne_eq, not_false_eq_true, true_and]
      exact eq_comm

theorem edited_of_error {fault : PatchFault} (h : p.plan = .error fault) : p.edited html = [] := by
  rw [edited, picked, places, h, List.filterMap_nil, List.filter_nil]

theorem revisions_of_error {fault : PatchFault} (h : p.plan = .error fault) :
    p.revisions html = noRevisions := by
  rw [revisions, h]

/-- A patch applies exactly if it has a revision for some element, and then the page is written under its
revisions. -/
theorem apply_eq_ok_iff : p.apply html = .ok next ↔
    p.edited html ≠ [] ∧ next = (Document.ofHtml html).write (p.revisions html) := by
  cases hplan : p.plan with
  | error fault =>
    have happly : p.apply html = .error fault := by
      rw [Patch.apply, hplan]
      rfl
    simp [happly, edited_of_error hplan]
  | ok plan =>
    rw [apply_of_plan hplan, applyPlan_eq_ok_iff, edited_of_plan hplan, revisions_of_plan hplan]

theorem exists_edited_of_revisions {id : Nat} {r : Revision} (h : p.revisions html id = some r) :
    ∃ f ∈ p.edited html, f.id = id ∧ p.revision? f = some r := by
  cases hplan : p.plan with
  | error fault =>
    rw [revisions_of_error hplan] at h
    exact absurd h (Option.some_ne_none r).symm
  | ok plan =>
    rw [revisions_of_plan hplan] at h
    obtain ⟨f, hf, hid, hr⟩ := exists_of_lookupEdit h
    rw [edited_of_plan hplan]
    exact ⟨f, List.mem_filter.mpr ⟨hf, by rw [hr, Option.isSome_some]⟩, hid,
      by rw [revision?_of_plan hplan, hr]⟩

theorem isSome_revisions_of_edited {f : Element} (h : f ∈ p.edited html) :
    (p.revisions html f.id).isSome = true := by
  cases hplan : p.plan with
  | error fault =>
    rw [edited_of_error hplan] at h
    cases h
  | ok plan =>
    rw [edited_of_plan hplan] at h
    obtain ⟨hf, hrev⟩ := List.mem_filter.mp h
    rw [revisions_of_plan hplan]
    exact isSome_lookupEdit hf hrev

/-! ## Edits that are written -/

/-- Whether one of the elements that a patch revises stands in the page that the patch leaves, written under
its revision. -/
def TakesEffect (html : String) (p : Patch) (next : String) : Prop :=
  ∃ f ∈ p.edited html, ∃ e ∈ (Document.ofHtml html).visited (p.revisions html), e.id = f.id ∧
    ∃ r a kept b, p.revision? f = some r ∧ next = a ++ e.write (some r) kept ++ b

/-- What a patch comes to that applies to a page and leaves another one. -/
structure Effect (html : String) (p : Patch) (next : String) : Prop where
  /-- It has a revision for some element that it picks. -/
  edited_ne_nil : p.edited html ≠ []
  /-- One of its edits is written if and only if one of its elements stands in the document, and neither in
  the content of a template nor in a void element. -/
  takesEffect_iff : p.TakesEffect html next ↔
    ∃ f ∈ p.edited html, ∃ place ∈ (Document.ofHtml html).places, place.isWritten = true ∧
      place.element?.map (·.id) = some f.id
  /-- Otherwise the page is written back as it was read. -/
  dropped : ¬ p.TakesEffect html next → next = (Document.ofHtml html).write noRevisions

theorem takesEffect_of_visited {e : Element}
    (he : e ∈ (Document.ofHtml html).visited (p.revisions html))
    (hrev : (p.revisions html e.id).isSome = true) :
    p.TakesEffect html ((Document.ofHtml html).write (p.revisions html)) := by
  obtain ⟨r, hr⟩ := Option.isSome_iff_exists.mp hrev
  obtain ⟨f, hf, hid, hfr⟩ := exists_edited_of_revisions hr
  obtain ⟨a, kept, b, hwrite⟩ := Node.exists_writeAll_eq false _ he
  exact ⟨f, hf, e, he, hid.symm, r, a, kept, b, hfr, by rw [Document.write, hwrite, hr]⟩

theorem effect_of_apply (h : p.apply html = .ok next) : p.Effect html next := by
  obtain ⟨hedited, hnext⟩ := apply_eq_ok_iff.mp h
  rw [hnext]
  -- a revision may drop the content of its element, but then this element itself is written
  have houter := @Node.exists_revisedAll_iff (p.revisions html) (Document.ofHtml html).nodes
  refine ⟨hedited, ⟨?_, ?_⟩, fun hnone => ?_⟩
  · rintro ⟨f, hf, e, he, hid, -⟩
    have hrev : (p.revisions html e.id).isSome = true := hid ▸ isSome_revisions_of_edited hf
    obtain ⟨e', he', hrev'⟩ := houter.mp ⟨e, he, hrev⟩
    obtain ⟨r, hr⟩ := Option.isSome_iff_exists.mp hrev'
    obtain ⟨f', hf', hid', -⟩ := exists_edited_of_revisions hr
    exact ⟨f', hf', Document.exists_mem_written_iff.mp ⟨e', he', hid'.symm⟩⟩
  · rintro ⟨f, hf, hplace⟩
    obtain ⟨e, he, hid⟩ := Document.exists_mem_written_iff.mpr hplace
    obtain ⟨e', he', hrev'⟩ := houter.mpr ⟨e, he, hid ▸ isSome_revisions_of_edited hf⟩
    exact takesEffect_of_visited he' hrev'
  · refine Node.writeAll_congr false _ fun e he => ?_
    cases hrev : p.revisions html e.id with
    | none => rfl
    | some r => exact absurd (takesEffect_of_visited he (by rw [hrev, Option.isSome_some])) hnone

end Patch

/-! ## Runs -/

theorem applyAll_take_html {html next : String} {p : Patch} (h : p.apply html = .ok next)
    (rest : List Patch) (i : Nat) :
    (applyAll html ((p :: rest).take (1 + i))).html = (applyAll next (rest.take i)).html := by
  rw [Nat.add_comm, List.take_succ_cons, applyAll_cons_of_ok h, Report.html_followedBy]

/-- A run is complete exactly if each patch in its turn has a revision for some element. -/
theorem isComplete_iff (html : String) (patches : List Patch) : (applyAll html patches).isComplete = true ↔
    ∀ before p after, patches = before ++ p :: after → p.edited (applyAll html before).html ≠ [] := by
  induction html, patches using run_induction with
  | nil html => exact iff_of_true rfl fun before p after h => by simp at h
  | @applies html next p rest h ih =>
    have hnext : ∀ before : List Patch,
        (applyAll html (p :: before)).html = (applyAll next before).html := fun before => by
      rw [applyAll_cons_of_ok h, Report.html_followedBy]
    have hrest : (applyAll html (p :: rest)).isComplete = (applyAll next rest).isComplete := by
      rw [applyAll_cons_of_ok h, Report.isComplete, Report.failures_followedBy]
      simp [Report.isComplete]
    rw [hrest, ih]
    constructor
    · intro hall before q after heq
      cases before with
      | nil =>
        obtain ⟨rfl, -⟩ := List.cons.inj heq
        exact (Patch.apply_eq_ok_iff.mp h).1
      | cons first before =>
        obtain ⟨rfl, hrest⟩ := List.cons.inj heq
        rw [hnext]
        exact hall before q after hrest
    · intro hall before q after heq
      rw [← hnext]
      exact hall (p :: before) q after (by rw [heq, List.cons_append])
  | @fails html p fault rest h ih =>
    refine iff_of_false ?_ fun hall => ?_
    · rw [applyAll_cons_of_error h, Report.isComplete, Report.failures_followedBy]
      simp
    · have happly := Patch.apply_eq_ok_iff.mpr ⟨hall [] p rest rfl, rfl⟩
      rw [show (applyAll html []).html = html from rfl, h] at happly
      cases happly

/-- Each place that a run reports as applied is that of a patch that applies to the page that the patches
before it have left. -/
theorem exists_apply_of_mem_applied (html : String) (patches : List Patch) :
    ∀ i ∈ (applyAll html patches).applied, ∃ p next, patches[i]? = some p ∧
      p.apply (applyAll html (patches.take i)).html = .ok next := by
  induction html, patches using run_induction with
  | nil html => exact fun i hi => absurd hi List.not_mem_nil
  | @applies html next p rest h ih =>
    intro i hi
    rw [applyAll_cons_of_ok h, Report.applied_followedBy, List.singleton_append, List.mem_cons] at hi
    rcases hi with rfl | hi
    · exact ⟨p, next, rfl, h⟩
    · obtain ⟨j, hj, rfl⟩ := List.mem_map.mp hi
      obtain ⟨q, after, hq, happly⟩ := ih j hj
      exact ⟨q, after, by rw [getElem?_one_add, hq], by rw [applyAll_take_html h, happly]⟩
  | @fails html p fault rest h ih =>
    intro i hi
    rw [applyAll_cons_of_error h, Report.applied_followedBy, List.nil_append] at hi
    obtain ⟨j, hj, rfl⟩ := List.mem_map.mp hi
    obtain ⟨q, after, hq, happly⟩ := ih j hj
    refine ⟨q, after, by rw [getElem?_one_add, hq], ?_⟩
    rw [Nat.add_comm, List.take_succ_cons, applyAll_cons_of_error h, Report.html_followedBy, happly]

/-! ## Main statement -/

/-- A patch that applies has a revision for some element that it picks. One of its edits is written if and
only if one of these elements stands in the document, and in nothing but elements that can have something in
them; if none does, the page is written back as it was read. So it is for each patch that a run reports as
applied, on the page that the patches before it have left. -/
theorem applied_patches_take_effect (html : String) (patches : List Patch) :
    (∀ (next : String) (p : Patch), p.apply html = .ok next → p.Effect html next) ∧
      ∀ i ∈ (applyAll html patches).applied, ∃ p next, patches[i]? = some p ∧
        p.apply (applyAll html (patches.take i)).html = .ok next ∧
        p.Effect (applyAll html (patches.take i)).html next := by
  refine ⟨fun next p h => Patch.effect_of_apply h, fun i hi => ?_⟩
  obtain ⟨p, next, hp, happly⟩ := exists_apply_of_mem_applied html patches i hi
  exact ⟨p, next, hp, happly, Patch.effect_of_apply happly⟩

/-- A paragraph of the body is written with its new class. -/
theorem applied_patches_take_effect_in_body :
    let p : Patch := { Patch.bare "p" .addClass with newValue := some "a" }
    let next := "<html><head></head><body><p class=\"a\">x</p></body></html>"
    p.apply "<p>x" = .ok next ∧ p.TakesEffect "<p>x" next := by
  intro p next
  have happly : p.apply "<p>x" = .ok next :=
    Patch.apply_eq_ok_iff.mpr ⟨by decide +kernel, by decide +kernel⟩
  have hwritten : ∃ f ∈ p.edited "<p>x", ∃ place ∈ (Document.ofHtml "<p>x").places,
      place.isWritten = true ∧ place.element?.map (·.id) = some f.id := by
    decide +kernel
  exact ⟨happly, ((applied_patches_take_effect _ [p]).1 next p happly).takesEffect_iff.mpr hwritten⟩

/-- A set of frames cuts off the body, in which the patch then picks its only element. The patch is reported
as applied all the same, and nothing of it is in the page. -/
theorem not_takesEffect_in_cut_off_body :
    let p : Patch := { Patch.bare "p" .addClass with newValue := some "a" }
    let next := "<html><head></head><frameset></frameset></html>"
    (applyAll "<p></p><frameset>" [p]).applied = [0] ∧
      p.apply "<p></p><frameset>" = .ok next ∧ ¬ p.TakesEffect "<p></p><frameset>" next := by
  intro p next
  refine ⟨by decide +kernel, Patch.apply_eq_ok_iff.mpr ⟨by decide +kernel, by decide +kernel⟩, ?_⟩
  have hapart : ∀ f ∈ p.edited "<p></p><frameset>",
      ∀ e ∈ (Document.ofHtml "<p></p><frameset>").visited (p.revisions "<p></p><frameset>"),
        e.id ≠ f.id := by
    decide +kernel
  rintro ⟨f, hf, e, he, hid, -⟩
  exact hapart f hf e he hid

end PageEdit
