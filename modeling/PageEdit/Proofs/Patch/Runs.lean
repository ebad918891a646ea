import PageEdit.Patch.Inverse

/-!
# Runs of patches

A run of patches is its first patch followed by the run of the others on the page that the first has left,
with the places of these moved up by one. What is said of a run here is said of that step, for a patch that
applies and for one that fails, and then of the whole run by induction on the patches.

Applying and taking back walk through the patches on their own, and each decides for itself which of them
count. They agree, since a patch that applies picks an element that its inverse is made from.

* `Report.run_eq_followedBy`: a run does not depend on what has come of earlier patches, apart from their page.
* `failed_patches_are_inert`: each patch is either applied or reported, those that fail change neither the
  page nor what takes it back, and the parts of a run compose.
-/

namespace PageEdit

/-! ## Reports one after the other -/

/-- What has come of some patches and then of some more, the first of these being the `n`th. -/
def Report.followedBy (r : Report) (n : Nat) (s : Report) : Report :=
  { html := s.html
    applied := r.applied ++ s.applied.map (n + ·)
    failures := r.failures ++ s.failures.map fun f => { f with index := n + f.index } }

@[simp]
theorem Report.html_followedBy (r s : Report) (n : Nat) : (r.followedBy n s).html = s.html := rfl

@[simp]
theorem Report.applied_followedBy (r s : Report) (n : Nat) :
    (r.followedBy n s).applied = r.applied ++ s.applied.map (n + ·) := rfl

@[simp]
theorem Report.failures_followedBy (r s : Report) (n : Nat) :
    (r.followedBy n s).failures =
      r.failures ++ s.failures.map fun f => { f with index := n + f.index } := rfl

theorem Report.followedBy_assoc (r s t : Report) (m n : Nat) :
    (r.followedBy m s).followedBy (m + n) t = r.followedBy m (s.followedBy n t) := by
  simp [Report.followedBy, Function.comp_def, Nat.add_assoc]

theorem Report.followedBy_start (r : Report) (n : Nat) :
    r.followedBy n (.start r.html) = r := by
  simp [Report.followedBy, Report.start]

theorem Report.step_eq_followedBy (r : Report) (n : Nat) (p : Patch) :
    r.step n p = r.followedBy n ((Report.start r.html).step 0 p) := by
  unfold Report.step Report.start
  cases p.apply r.html with
  | ok next => simp [Report.followedBy]
  | error fault => simp [Report.followedBy]

theorem Report.run_eq_followedBy (r : Report) (n : Nat) (patches : List Patch) :
    r.run n patches = r.followedBy n (applyAll r.html patches) := by
  induction patches generalizing r n with
  | nil => exact (r.followedBy_start n).symm
  | cons p rest ih =>
    have hhtml : (r.step n p).html = ((Report.start r.html).step 0 p).html := by
      rw [Report.step_eq_followedBy, Report.html_followedBy]
    rw [applyAll, Report.run, Report.run, ih, ih, hhtml, Report.step_eq_followedBy r,
      ← Report.followedBy_assoc]

theorem applyAll_cons_of_ok {html next : String} {p : Patch} (h : p.apply html = .ok next)
    (rest : List Patch) :
    applyAll html (p :: rest) = (Report.mk next [0] []).followedBy 1 (applyAll next rest) := by
  have hstep : (Report.start html).step 0 p = ⟨next, [0], []⟩ := by
    simp [Report.step, Report.start, h]
  rw [applyAll, Report.run, Report.run_eq_followedBy, hstep]

theorem applyAll_cons_of_error {html : String} {p : Patch} {fault : PatchFault}
    (h : p.apply html = .error fault) (rest : List Patch) :
    applyAll html (p :: rest) =
      (Report.mk html [] [⟨0, p.selector, fault⟩]).followedBy 1 (applyAll html rest) := by
  have hstep : (Report.start html).step 0 p = ⟨html, [], [⟨0, p.selector, fault⟩]⟩ := by
    simp [Report.step, Report.start, h]
  rw [applyAll, Report.run, Report.run_eq_followedBy, hstep]

/-- Induction along a run: the first patch applies, or it fails and leaves the page to the others. -/
@[elab_as_elim]
theorem run_induction {motive : String → List Patch → Prop} (nil : ∀ html, motive html [])
    (applies : ∀ {html next : String} {p : Patch} (rest : List Patch), p.apply html = .ok next →
      motive next rest → motive html (p :: rest))
    (fails : ∀ {html : String} {p : Patch} {fault : PatchFault} (rest : List Patch),
      p.apply html = .error fault → motive html rest → motive html (p :: rest))
    (html : String) (patches : List Patch) : motive html patches := by
  induction patches generalizing html with
  | nil => exact nil html
  | cons p rest ih =>
    cases h : p.apply html with
    | ok next => exact applies rest h (ih next)
    | error fault => exact fails rest h (ih html)

/-! ## Places -/

/-- The places of the patches that failed. -/
def Report.failed (r : Report) : List Nat := r.failures.map (·.index)

theorem Report.failed_followedBy (r s : Report) (n : Nat) :
    (r.followedBy n s).failed = r.failed ++ s.failed.map (n + ·) := by
  simp [Report.failed, Function.comp_def]

theorem pairwise_map_add {l : List Nat} (h : l.Pairwise (· < ·)) (n : Nat) :
    (l.map (n + ·)).Pairwise (· < ·) :=
  h.map _ fun _ _ hab => Nat.add_lt_add_left hab n

theorem pairwise_zero_cons_map {l : List Nat} (h : l.Pairwise (· < ·)) :
    (0 :: l.map (1 + ·)).Pairwise (· < ·) := by
  refine List.pairwise_cons.mpr ⟨fun i hi => ?_, pairwise_map_add h 1⟩
  obtain ⟨j, -, rfl⟩ := List.mem_map.mp hi
  omega

theorem pairwise_applied (html : String) (patches : List Patch) :
    (applyAll html patches).applied.Pairwise (· < ·) := by
  induction html, patches using run_induction with
  | nil html => exact .nil
  | applies rest h ih =>
    rw [applyAll_cons_of_ok h]
    exact pairwise_zero_cons_map ih
  | fails rest h ih =>
    rw [applyAll_cons_of_error h]
    exact pairwise_map_add ih 1

theorem pairwise_failed (html : String) (patches : List Patch) :
    (applyAll html patches).failed.Pairwise (· < ·) := by
  induction html, patches using run_induction with
  | nil html => exact .nil
  | applies rest h ih =>
    rw [applyAll_cons_of_ok h, Report.failed_followedBy]
    exact pairwise_map_add ih 1
  | fails rest h ih =>
    rw [applyAll_cons_of_error h, Report.failed_followedBy]
    exact pairwise_zero_cons_map ih

theorem applied_append_failed_perm (html : String) (patches : List Patch) :
    ((applyAll html patches).applied ++ (applyAll html patches).failed).Perm
      (List.range patches.length) := by
  have hrange : ∀ n, List.range (n + 1) = 0 :: (List.range n).map (1 + ·) := by
    intro n
    rw [List.range_succ_eq_map]
    simp [Nat.add_comm]
  induction html, patches using run_induction with
  | nil html => exact .nil
  | applies rest h ih =>
    rw [applyAll_cons_of_ok h, Report.failed_followedBy, List.length_cons, hrange]
    simpa [Report.failed] using (ih.map (1 + ·)).cons 0
  | fails rest h ih =>
    rw [applyAll_cons_of_error h, Report.failed_followedBy, List.length_cons, hrange]
    refine List.perm_middle.trans (.cons 0 ?_)
    simpa [Report.failed] using ih.map (1 + ·)

/-! ## The patches that applied -/

/-- The patches of a list that apply in their turns. -/
def effective (html : String) (patches : List Patch) : List Patch :=
  appliedPatches patches (applyAll html patches)

theorem getElem?_one_add {α : Type} (a : α) (rest : List α) (i : Nat) :
    (a :: rest)[1 + i]? = rest[i]? := by
  rw [Nat.add_comm, List.getElem?_cons_succ]

theorem effective_cons_of_ok {html next : String} {p : Patch} (h : p.apply html = .ok next)
    (rest : List Patch) : effective html (p :: rest) = p :: effective next rest := by
  rw [effective, applyAll_cons_of_ok h, effective]
  simp only [appliedPatches, Report.applied_followedBy, List.singleton_append, List.filterMap_cons,
    List.getElem?_cons_zero, List.filterMap_map, Function.comp_def, getElem?_one_add]

theorem effective_cons_of_error {html : String} {p : Patch} {fault : PatchFault}
    (h : p.apply html = .error fault) (rest : List Patch) :
    effective html (p :: rest) = effective html rest := by
  rw [effective, applyAll_cons_of_error h, effective]
  simp only [appliedPatches, Report.applied_followedBy, List.nil_append, List.filterMap_map,
    Function.comp_def, getElem?_one_add]

theorem effective_map_some (html : String) (patches : List Patch) :
    (effective html patches).map some = (applyAll html patches).applied.map (patches[·]?) := by
  induction html, patches using run_induction with
  | nil html => rfl
  | applies rest h ih =>
    rw [effective_cons_of_ok h, applyAll_cons_of_ok h, List.map_cons, ih]
    simp [getElem?_one_add]
  | fails rest h ih =>
    rw [effective_cons_of_error h, applyAll_cons_of_error h, ih]
    simp [getElem?_one_add]

theorem applyAll_effective_failures (html : String) (patches : List Patch) :
    (applyAll html (effective html patches)).failures = [] := by
  induction html, patches using run_induction with
  | nil html => rfl
  | applies rest h ih =>
    rw [effective_cons_of_ok h, applyAll_cons_of_ok h, Report.failures_followedBy, ih]
    rfl
  | fails rest h ih =>
    rw [effective_cons_of_error h, ih]

theorem applyAll_effective_html (html : String) (patches : List Patch) :
    (applyAll html (effective html patches)).html = (applyAll html patches).html := by
  induction html, patches using run_induction with
  | nil html => rfl
  | applies rest h ih =>
    rw [effective_cons_of_ok h, applyAll_cons_of_ok h, applyAll_cons_of_ok h]
    exact ih
  | fails rest h ih =>
    rw [effective_cons_of_error h, applyAll_cons_of_error h]
    exact ih

/-! ## Taking back -/

theorem exists_plan_of_apply {html next : String} {p : Patch} (h : p.apply html = .ok next) :
    ∃ plan, p.plan = .ok plan ∧ p.applyPlan plan (.ofHtml html) = .ok next := by
  unfold Patch.apply at h
  -- how the page is read does not matter here
  generalize Html.Document.ofHtml html = doc at h ⊢
  cases hplan : p.plan with
  | error fault =>
    rw [hplan] at h
    cases h
  | ok plan =>
    rw [hplan] at h
    exact ⟨plan, rfl, h⟩

/-- What a selector picks is an element. -/
theorem element?_isSome_of_mem_select {selectors : List Css.Selector} {doc : Html.Document}
    {place : Html.Place} (h : place ∈ Css.select selectors doc) : place.element?.isSome := by
  have hplace := (Css.select_sublist selectors doc).subset h
  rw [Html.Document.elementPlaces, (Order.stableSort_perm _ _).mem_iff, List.mem_filter,
    Bool.and_eq_true] at hplace
  exact hplace.2.2

/-- A patch that applies picks an element, so that it has an inverse. -/
theorem exists_inverse_of_apply {html next : String} {p : Patch} (h : p.apply html = .ok next) :
    ∃ inverse, p.inverse? html = some inverse := by
  obtain ⟨plan, hplan, happly⟩ := exists_plan_of_apply h
  have hsel := (Patch.plan_selectors hplan).1
  unfold Patch.inverse?
  rw [hsel]
  generalize Html.Document.ofHtml html = doc at happly ⊢
  cases hs : Css.select plan.selectors doc with
  | nil => simp [Patch.applyPlan, pickedElements, hs] at happly
  | cons place places =>
    have hplace : place ∈ Css.select plan.selectors doc := hs ▸ List.mem_cons_self
    obtain ⟨e, he⟩ := Option.isSome_iff_exists.mp (element?_isSome_of_mem_select hplace)
    simp only [hs, he, Option.map_some]
    exact ⟨_, rfl⟩

theorem rollback_cons_of_ok {html next : String} {p : Patch} (h : p.apply html = .ok next) :
    ∃ inverse, ∀ rest, rollback html (p :: rest) = rollback next rest ++ inverse := by
  obtain ⟨inverse, hi⟩ := exists_inverse_of_apply h
  exact ⟨inverse, fun rest => by simp [rollback, hi, h]⟩

theorem rollback_cons_of_error {html : String} {p : Patch} {fault : PatchFault}
    (h : p.apply html = .error fault) (rest : List Patch) :
    rollback html (p :: rest) = rollback html rest := by
  rw [rollback]
  cases p.inverse? html with
  | none => rfl
  | some inverse => simp [h]

/-- The patches that take back two lists are those of the second list, made on the page that the first has
left, and then those of the first. -/
theorem rollback_append (html : String) (p q : List Patch) :
    rollback html (p ++ q) = rollback (applyAll html p).html q ++ rollback html p := by
  induction html, p using run_induction with
  | nil html => exact (List.append_nil _).symm
  | applies rest h ih =>
    obtain ⟨inverse, hi⟩ := rollback_cons_of_ok h
    rw [List.cons_append, hi, hi, ih, applyAll_cons_of_ok h, Report.html_followedBy, List.append_assoc]
  | fails rest h ih =>
    rw [List.cons_append, rollback_cons_of_error h, rollback_cons_of_error h, ih, applyAll_cons_of_error h,
      Report.html_followedBy]

theorem rollback_effective (html : String) (patches : List Patch) :
    rollback html (effective html patches) = rollback html patches := by
  induction html, patches using run_induction with
  | nil html => rfl
  | applies rest h ih =>
    obtain ⟨inverse, hi⟩ := rollback_cons_of_ok h
    rw [effective_cons_of_ok h, hi, hi, ih]
  | fails rest h ih =>
    rw [effective_cons_of_error h, rollback_cons_of_error h, ih]

/-! ## Main statement -/

theorem html_of_applied_eq_nil {html : String} {patches : List Patch}
    (h : (applyAll html patches).applied = []) : (applyAll html patches).html = html := by
  have hnone : effective html patches = [] := by simp [effective, appliedPatches, h]
  rw [← applyAll_effective_html, hnone]
  simp [applyAll, Report.run, Report.start]

/-- The places of the patches that applied and of those that failed rise and together are all places. The
patches that applied do so without the others, with the same page and the same inverses. A run is the run
of its parts one after the other, and a run in which nothing applies leaves the page as it is. -/
theorem failed_patches_are_inert (html : String) (patches : List Patch) :
    let r := applyAll html patches
    let kept := appliedPatches patches r
    r.applied.Pairwise (· < ·) ∧
      (r.failures.map (·.index)).Pairwise (· < ·) ∧
      (r.applied ++ r.failures.map (·.index)).Perm (List.range patches.length) ∧
      kept.map some = r.applied.map (patches[·]?) ∧
      (applyAll html kept).isComplete = true ∧
      (applyAll html kept).html = r.html ∧
      rollback html kept = rollback html patches ∧
      (∀ p q, patches = p ++ q →
        r = (applyAll html p).followedBy p.length (applyAll (applyAll html p).html q)) ∧
      (r.applied = [] → r.html = html) := by
  refine ⟨pairwise_applied html patches, pairwise_failed html patches,
    applied_append_failed_perm html patches, effective_map_some html patches, ?_,
    applyAll_effective_html html patches, rollback_effective html patches, ?_,
    html_of_applied_eq_nil⟩
  · exact List.isEmpty_iff.mpr (applyAll_effective_failures html patches)
  · rintro p q rfl
    rw [applyAll_append, Report.run_eq_followedBy]

/-- The first patch has no selector and the second has no text, so that only the third applies. -/
theorem failed_patches_are_inert_around_one :
    (applyAll "<p>x" ([Patch.bare "" .removeElement, Patch.bare "p" .setText] ++
        [{ Patch.bare "p" .setText with value := some "y" }])).html =
      (applyAll "<p>x" [{ Patch.bare "p" .setText with value := some "y" }]).html ∧
    (applyAll "<p>x" [Patch.bare "" .removeElement, Patch.bare "p" .setText]).applied = [] ∧
      (applyAll "<p>x" [Patch.bare "" .removeElement, Patch.bare "p" .setText]).html = "<p>x" := by
  generalize { Patch.bare "p" .setText with value := some "y" } = good
  have hnone : (applyAll "<p>x" [Patch.bare "" .removeElement, Patch.bare "p" .setText]).applied = [] := by
    decide +kernel
  generalize [Patch.bare "" .removeElement, Patch.bare "p" .setText] = bad at hnone ⊢
  obtain ⟨-, -, -, -, -, -, -, hsplit, -⟩ := failed_patches_are_inert "<p>x" (bad ++ [good])
  obtain ⟨-, -, -, -, -, -, -, -, hsame⟩ := failed_patches_are_inert "<p>x" bad
  refine ⟨?_, hnone, hsame hnone⟩
  rw [hsplit bad [good] rfl, hsame hnone, Report.html_followedBy]

end PageEdit
