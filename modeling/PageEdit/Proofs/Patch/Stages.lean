import Mathlib.Data.List.TakeWhile
import PageEdit.Patch.Stages
import PageEdit.Proofs.Patch.Effect
import PageEdit.Proofs.Patch.Undoing

/-!
# Checked patches apply where they can

The second stage of a patch reads its texts again and takes what is missing for empty. After the first stage
nothing is missing and nothing is read otherwise than before, so that the second stage asks at each element for
the revision that the plan of the patch has. It can then fail only for what the selector picks.

* `Patch.validate_eq_check`: the first stage accepts the patches that have a plan.
* `Patch.elementEdit_of_change`: what the second stage asks for at an element of any kind.
* `Patch.applyInStages_eq`, `Patch.report_applyInStages`: both stages do what applying does, and say the same.
* `checked_patches_apply_where_they_can`: when a checked patch applies, and why it fails otherwise.
-/

namespace PageEdit

open Html

/-! ## Texts that are there -/

/-- Nothing is left of a text exactly if it has nothing but blanks. -/
theorem Text.isEmpty_trim (s : String) : (Text.trim s).isEmpty = Text.isBlankText s := by
  have hend : ∀ t : List Char, trimEnd t = [] ↔ ∀ c ∈ t, isBlank c = true := by
    intro t
    simp only [trimEnd, List.reverse_eq_nil_iff, List.dropWhile_eq_nil_iff, List.mem_reverse]
  rw [Bool.eq_iff_iff, String.isEmpty_iff, trim, String.ofList_eq_empty_iff, trimChars, hend, isBlankText,
    List.all_eq_true]
  constructor
  · intro h
    rw [← List.dropWhile_eq_nil_iff, ← trimStart]
    -- the first character that is left would be no blank
    cases hrest : trimStart s.toList with
    | nil => rfl
    | cons c rest =>
      have hnot := List.head?_dropWhile_not isBlank s.toList
      rw [← trimStart, hrest] at hnot
      rw [hrest] at h
      exact absurd (h c List.mem_cons_self) (Bool.eq_false_iff.mp hnot)
  · intro h c hc
    exact h c ((List.dropWhile_suffix isBlank).subset hc)

namespace Patch

variable {p : Patch}

theorem requireText_eq (n : Need) (value : Option String) :
    requireText n value = (needText n value).map fun _ => () := by
  cases value with
  | none => rfl
  | some s =>
    rw [requireText, needText, Text.isEmpty_trim]
    split <;> rfl

theorem eq_some_of_need {n : Need} {value : Option String} {s : String} (h : need n value = .ok s) :
    value = some s := by
  cases value with
  | none => cases h
  | some t => exact congrArg some (Except.ok.inj h)

theorem eq_some_of_needText {n : Need} {value : Option String} {s : String} (h : needText n value = .ok s) :
    value = some s := by
  cases value with
  | none => cases h
  | some t =>
    rw [needText] at h
    split at h
    · cases h
    · exact congrArg some (Except.ok.inj h)

theorem eq_lowerAscii_of_dropName {name : String} (h : p.dropName = .ok name) :
    name = Text.lowerAscii (Text.trim (p.value.getD "")) := by
  rw [dropName] at h
  cases hvalue : p.value with
  | none =>
    rw [hvalue] at h
    cases h
  | some value =>
    simp only [hvalue, Option.map_some] at h
    split at h
    · cases h
    · split at h
      · exact (Except.ok.inj h).symm
      · cases h

/-! ## The first stage -/

theorem map_bind_ok {ε α β : Type} (x : Except ε α) (f : α → β) :
    (x >>= fun a => .ok (f a)).map (fun _ => ()) = x.map fun _ => () := by
  cases x <;> rfl

/-- The first stage asks for the payload with which an action comes to a change. -/
theorem checkPayload_eq (p : Patch) : p.checkPayload = p.change.map fun _ => () := by
  unfold checkPayload change
  cases haction : p.action with
  | addClass | removeClass | appendChild | prependChild =>
    dsimp only
    rw [requireText_eq]
    exact (map_bind_ok _ _).symm
  | setText | setHtml => exact (map_bind_ok _ _).symm
  | replaceClass =>
    dsimp only
    rw [requireText_eq, requireText_eq]
    cases needText .oldClasses p.oldValue with
    | error fault => rfl
    | ok old => exact (map_bind_ok _ _).symm
  | setAttribute | setStyle =>
    dsimp only
    rw [requirePairs, haction]
    cases hneed : need _ p.payload? with
    | error fault => rfl
    | ok payload => exact (map_bind_ok _ _).symm
  | removeAttribute =>
    dsimp only
    refine Eq.trans ?_ (map_bind_ok _ _).symm
    rw [dropName]
    cases p.value with
    | none => rfl
    | some value =>
      cases hempty : (Text.trim value).isEmpty with
      | true => simp [need, Option.filter, hempty, Except.map, bind, Except.bind]
      | false =>
        cases hname : Payload.isAttrName (Text.trim value) <;>
          simp [need, Option.filter, hempty, hname, Except.map, bind, Except.bind]
  | removeElement => rfl

theorem check_of_selectors {selectors : List Css.Selector} (h : p.selectors = .ok selectors) :
    p.check = p.checkPayload := by
  rw [check, plan, h, checkPayload_eq]
  cases p.change <;> rfl

theorem validate_eq_check (p : Patch) : p.validate = p.check := by
  simp only [validate, check, plan, selectors, checkPayload_eq]
  split
  · rfl
  · cases Css.Selector.parse (Text.trim p.selector) with
    | error fault => rfl
    | ok selectors => cases p.change <;> rfl

/-! ## The second stage -/

theorem compile_of_selectors {selectors : List Css.Selector} (h : p.selectors = .ok selectors) :
    p.compile = .ok selectors := by
  simp only [Patch.selectors] at h
  split at h
  · cases h
  · split at h
    · next read hread =>
      obtain rfl := Except.ok.inj h
      rw [compile, hread]
      rfl
    · cases h

theorem readAgain_of_readPayload {α : Type} {read : String → Except PayloadFault α} {payload : String} {a : α}
    (h : readPayload read payload = .ok a) : readAgain read payload = .ok a := by
  rw [readAgain, h]
  rfl

theorem removeClasses_eq (text : String) (classes : List String) :
    removeClasses text classes = changeClasses (Text.splitBlanks text) [] classes := rfl

theorem addClasses_eq (text : String) (classes : List String) :
    addClasses text classes = changeClasses [] (Text.splitBlanks text) classes := by
  have hall : classes.filter (!([] : List String).contains ·) = classes :=
    List.filter_eq_self.mpr fun c _ => rfl
  rw [changeClasses, hall]
  rfl

theorem addClasses_removeClasses_eq (removed added : String) (classes : List String) :
    addClasses added (removeClasses removed classes) =
      changeClasses (Text.splitBlanks removed) (Text.splitBlanks added) classes := rfl

theorem editClasses_eq (e : Element) {classes : List String} (h : ∀ c ∈ classes, Text.IsWord Text.isAsciiBlank c) :
    editClasses e classes = editAttributes (withClasses e classes) := by
  rw [editClasses, withClasses, withOrWithout, Text.isEmpty_intercalate h]

theorem editClasses_changeClasses (e : Element) {removed added : List String}
    (h : ∀ c ∈ added, Text.IsWord Text.isBlank c) :
    editClasses e (changeClasses removed added e.classes) = (Change.classes removed added).revision? e :=
  editClasses_eq e (isWord_changeClasses h)

/-- The second stage asks for the revision of the change, whatever the element is. -/
theorem elementEdit_of_change {c : Change} (h : p.change = .ok c) (e : Element) :
    p.elementEdit e = .ok (c.revision? e) := by
  have hwords : ∀ text : String, ∀ t ∈ Text.splitBlanks text, Text.IsWord Text.isBlank t :=
    fun text t ht => Text.isWord_of_mem_splitBlanks ht
  unfold change at h
  unfold elementEdit
  cases haction : p.action <;> rw [haction] at h
  case addClass =>
    obtain ⟨text, hadded, hc⟩ := exists_of_bind_eq_ok h
    obtain rfl := Except.ok.inj hc
    simp only [eq_some_of_needText hadded, Option.getD_some, addClasses_eq,
      editClasses_changeClasses e (hwords text)]
  case removeClass =>
    obtain ⟨text, hremoved, hc⟩ := exists_of_bind_eq_ok h
    obtain rfl := Except.ok.inj hc
    simp only [eq_some_of_needText hremoved, Option.getD_some, removeClasses_eq,
      editClasses_changeClasses e (List.forall_mem_nil _)]
  case replaceClass =>
    obtain ⟨old, hold, h⟩ := exists_of_bind_eq_ok h
    obtain ⟨new, hnew, hc⟩ := exists_of_bind_eq_ok h
    obtain rfl := Except.ok.inj hc
    simp only [eq_some_of_needText hold, eq_some_of_needText hnew, Option.getD_some,
      addClasses_removeClasses_eq, editClasses_changeClasses e (hwords new)]
  case setText | setHtml =>
    obtain ⟨text, htext, hc⟩ := exists_of_bind_eq_ok h
    obtain rfl := Except.ok.inj hc
    simp only [eq_some_of_need htext, Option.getD_some]
    rfl
  case appendChild | prependChild =>
    obtain ⟨markup, hmarkup, hc⟩ := exists_of_bind_eq_ok h
    obtain rfl := Except.ok.inj hc
    simp only [eq_some_of_needText hmarkup, Option.getD_some]
    rfl
  case setAttribute | setStyle =>
    obtain ⟨payload, hpayload, h⟩ := exists_of_bind_eq_ok h
    obtain ⟨pairs, hpairs, hc⟩ := exists_of_bind_eq_ok h
    obtain rfl := Except.ok.inj hc
    simp only [eq_some_of_need hpayload, Option.getD_some, readAgain_of_readPayload hpairs]
    rfl
  case removeAttribute =>
    obtain ⟨name, hname, hc⟩ := exists_of_bind_eq_ok h
    obtain rfl := Except.ok.inj hc
    simp only [← eq_lowerAscii_of_dropName hname]
    rfl
  case removeElement =>
    obtain rfl := Except.ok.inj h
    rfl

theorem elementEdits_of_change {c : Change} (h : p.change = .ok c) (elements : List Element) :
    p.elementEdits elements = .ok (editTable c elements) := by
  induction elements with
  | nil => rfl
  | cons e rest ih =>
    have htable : editTable c (e :: rest) =
        ((c.revision? e).map fun r => (e.id, r)).toList ++ editTable c rest := by
      rw [editTable, List.filterMap_cons]
      cases c.revision? e <;> rfl
    rw [elementEdits, elementEdit_of_change h, ih, htable]
    rfl

theorem applyStaged_of_plan {plan : Plan} (h : p.plan = .ok plan) (doc : Document) :
    p.applyStaged doc = (p.applyPlan plan doc).mapError .validation := by
  obtain ⟨hselectors, hchange⟩ := plan_selectors h
  simp only [applyStaged, applyPlan, compile_of_selectors hselectors, elementEdits_of_change hchange, bind,
    Except.bind]
  split
  · rfl
  · split <;> rfl

section Pages

variable (html : String)

theorem applyInStages_of_ok (h : p.validate = .ok ()) : p.applyInStages html = p.applyStaged (.ofHtml html) := by
  rw [applyInStages, h]
  -- what the second stage does does not matter here
  generalize p.applyStaged (.ofHtml html) = result
  rfl

theorem applyInStages_of_error {fault : PatchFault} (h : p.validate = .error fault) :
    p.applyInStages html = .error (.validation fault) := by
  rw [applyInStages, h]
  generalize p.applyStaged (.ofHtml html) = result
  rfl

theorem apply_of_error {fault : PatchFault} (h : p.plan = .error fault) : p.apply html = .error fault := by
  unfold Patch.apply
  generalize Document.ofHtml html = doc
  rw [h]
  rfl

/-- Both stages on a page do what applying the patch does. -/
theorem applyInStages_eq (p : Patch) : p.applyInStages html = (p.apply html).mapError .validation := by
  cases hplan : p.plan with
  | error fault =>
    have hrefused := (validate_eq_check p).trans (check_eq_error_iff.mpr hplan)
    rw [applyInStages_of_error html hrefused, apply_of_error html hplan]
    rfl
  | ok plan =>
    have hsound := (validate_eq_check p).trans (check_eq_ok_iff.mpr ⟨plan, hplan⟩)
    rw [applyInStages_of_ok html hsound, applyStaged_of_plan hplan, apply_of_plan hplan]

/-- Where both stages fail they say what applying the patch says. -/
theorem report_applyInStages (p : Patch) :
    (p.applyInStages html).mapError StageFault.report = (p.apply html).mapError PatchFault.report := by
  rw [applyInStages_eq]
  cases p.apply html <;> rfl

end Pages

end Patch

/-! ## Elements that a patch can change -/

/-- Whether a patch of this action is for what is in an element. -/
def Action.isForContent : Action → Bool
  | .setText | .setHtml | .appendChild | .prependChild => true
  | _ => false

namespace Patch

variable {p : Patch}

theorem isSome_content? {c : Change} (h : p.change = .ok c) : c.content?.isSome = p.action.isForContent := by
  unfold change at h
  cases haction : p.action <;> rw [haction] at h
  case replaceClass | setAttribute | setStyle =>
    obtain ⟨first, -, h⟩ := exists_of_bind_eq_ok h
    obtain ⟨second, -, hc⟩ := exists_of_bind_eq_ok h
    obtain rfl := Except.ok.inj hc
    rfl
  case removeElement =>
    obtain rfl := Except.ok.inj h
    rfl
  all_goals
    obtain ⟨text, -, hc⟩ := exists_of_bind_eq_ok h
    obtain rfl := Except.ok.inj hc
    rfl

/-- A sound patch has a revision for an element unless it is for what is in it and the element is void. -/
theorem isSome_revision? {c : Change} (h : p.change = .ok c) (e : Element) :
    (c.revision? e).isSome = !(p.action.isForContent && isVoid e.label) := by
  rw [Change.revision_isSome, isSome_content? h]

theorem filter_isSome_revision?_ne_nil_iff {c : Change} (h : p.change = .ok c) (picked : List Element) :
    (picked.filter fun e => (c.revision? e).isSome) ≠ [] ↔
      picked ≠ [] ∧ (p.action.isForContent = true → ∃ e ∈ picked, isVoid e.label = false) := by
  simp only [isSome_revision? h]
  cases p.action.isForContent with
  | false =>
    have hall : picked.filter (fun _ => true) = picked := List.filter_eq_self.mpr fun _ _ => rfl
    simp only [Bool.false_and, Bool.not_false, hall, reduceCtorEq, false_implies, and_true]
  | true =>
    simp only [Bool.true_and, ne_eq, List.filter_eq_nil_iff, Bool.not_eq_true', not_forall, not_not, exists_prop,
      forall_const]
    refine ⟨fun hfilled => ⟨?_, hfilled⟩, And.right⟩
    obtain ⟨e, he, -⟩ := hfilled
    exact List.ne_nil_of_mem he

/-- What comes of a patch on a page, by the elements that it picks there. -/
structure AppliesWhereItCan (html : String) (p : Patch) (picked : List Element) : Prop where
  applies_iff : (∃ next, p.apply html = .ok next) ↔
    picked ≠ [] ∧ (p.action.isForContent = true → ∃ e ∈ picked, isVoid e.label = false)
  noMatch : picked = [] → p.apply html = .error (.noMatch p.selector)
  voidOnly : picked ≠ [] → p.action.isForContent = true → (∀ e ∈ picked, isVoid e.label = true) →
    p.apply html = .error (.voidOnly p.action)

section Planned

variable {plan : Plan} {doc : Document}

theorem applyPlan_of_nil (h : pickedElements plan.selectors doc = []) :
    p.applyPlan plan doc = .error (.noMatch p.selector) := by
  simp only [applyPlan, h, List.isEmpty_nil, if_true]

theorem applyPlan_of_filter_nil (hne : pickedElements plan.selectors doc ≠ [])
    (h : ((pickedElements plan.selectors doc).filter fun e => (plan.change.revision? e).isSome) = []) :
    p.applyPlan plan doc = .error (.voidOnly p.action) := by
  have hsome : ¬ (pickedElements plan.selectors doc).isEmpty = true := mt List.isEmpty_iff.mp hne
  simp only [applyPlan, if_neg hsome, editTable_isEmpty, h, List.isEmpty_nil, if_true]

theorem exists_applyPlan_iff : (∃ next, p.applyPlan plan doc = .ok next) ↔
    ((pickedElements plan.selectors doc).filter fun e => (plan.change.revision? e).isSome) ≠ [] := by
  simp only [applyPlan_eq_ok_iff, exists_and_left, exists_eq, and_true]

theorem appliesWhereItCan_of_plan (h : p.plan = .ok plan) (html : String) :
    p.AppliesWhereItCan html (pickedElements plan.selectors (.ofHtml html)) := by
  have hchange := (plan_selectors h).2
  constructor
  · rw [apply_of_plan h]
    exact exists_applyPlan_iff.trans (filter_isSome_revision?_ne_nil_iff hchange _)
  · intro hnone
    rw [apply_of_plan h, applyPlan_of_nil hnone]
  · intro hne hcontent hvoid
    rw [apply_of_plan h, applyPlan_of_filter_nil hne]
    refine List.filter_eq_nil_iff.mpr fun e he => ?_
    rw [isSome_revision? hchange, hcontent, hvoid e he]
    exact Bool.false_ne_true

end Planned

theorem any_toOption_of_ok {ε α : Type} {x : Except ε α} {a : α} {test : α → Bool} (h : x = .ok a)
    (htest : x.toOption.any test = true) : test a = true := by
  rw [h] at htest
  exact htest

end Patch

/-! ## Main statement -/

/-- The two stages of a patch do what checking and applying do. A patch that the check refuses fails on every page
with the fault of the check. Of a checked one the selector and the payload can be read again at every element of any
kind, and it applies to a page exactly if it picks an element there, and one that is not void if it is for what is in
elements; otherwise it fails because it picks no element, or void ones only. -/
theorem checked_patches_apply_where_they_can (html : String) (p : Patch) :
    (p.validate = p.check ∧ p.applyInStages html = (p.apply html).mapError .validation) ∧
      (∀ fault, p.validate = .error fault →
        p.apply html = .error fault ∧ p.applyInStages html = .error (.validation fault)) ∧
      (p.validate = .ok () → ∃ selectors, p.compile = .ok selectors ∧
        (∀ e, ∃ revision, p.elementEdit e = .ok revision) ∧
        p.AppliesWhereItCan html (pickedElements selectors (.ofHtml html))) := by
  have hcheck := Patch.validate_eq_check p
  refine ⟨⟨hcheck, Patch.applyInStages_eq html p⟩, fun fault hfault => ?_, fun hok => ?_⟩
  · have hplan := Patch.check_eq_error_iff.mp (hcheck.symm.trans hfault)
    exact ⟨Patch.apply_of_error html hplan, Patch.applyInStages_of_error html hfault⟩
  · obtain ⟨plan, hplan⟩ := Patch.check_eq_ok_iff.mp (hcheck.symm.trans hok)
    obtain ⟨hselectors, hchange⟩ := Patch.plan_selectors hplan
    exact ⟨plan.selectors, Patch.compile_of_selectors hselectors,
      fun e => ⟨_, Patch.elementEdit_of_change hchange e⟩, Patch.appliesWhereItCan_of_plan hplan html⟩

/-- A text is set where it can be, beside an image that can have none. -/
theorem checked_patches_apply_beside_image :
    let p : Patch := { Patch.bare " img, p " .setText with value := some "y" }
    p.validate = .ok () ∧ ∃ next, p.apply "<img><p>x" = .ok next := by
  intro p
  have hvalid : p.validate = .ok () :=
    (Patch.validate_eq_check p).trans (Patch.check_of_isOk_plan (by decide +kernel))
  have hparagraph : (p.compile.toOption.any fun selectors =>
      (pickedElements selectors (.ofHtml "<img><p>x")).any fun e => e.label == "p") = true := by decide +kernel
  -- the rest does not look at the page nor at the patch
  generalize "<img><p>x" = html at hparagraph ⊢
  clear_value p
  obtain ⟨selectors, hselectors, -, happlies⟩ := (checked_patches_apply_where_they_can html p).2.2 hvalid
  have hany := Patch.any_toOption_of_ok hselectors hparagraph
  obtain ⟨e, he, hlabel⟩ := List.any_eq_true.mp hany
  refine ⟨hvalid, happlies.applies_iff.mpr ⟨List.ne_nil_of_mem he, fun _ => ⟨e, he, ?_⟩⟩⟩
  rw [eq_of_beq hlabel]
  rfl

end PageEdit
