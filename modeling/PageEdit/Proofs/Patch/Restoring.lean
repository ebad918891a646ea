import PageEdit.Proofs.Patch.Attributes

/-!
# Taking back what was written for an element

The inverse of a patch for classes, attributes or styles writes attributes for the same element. If it finds
those that the patch has left, it comes back to those that there were: of classes to the same set, and of all
else to the same values under the same names.

* `exists_attributesAfter_restoring`: each attribute that is restored has its old value again.
* `inverses_restore_attributes`: what the inverse of a patch comes to.
-/

namespace PageEdit

open Html

/-- Whether a patch of this action is for the classes of an element. -/
def Action.isForClasses : Action → Bool
  | .addClass | .removeClass | .replaceClass => true
  | _ => false

/-- Whether a patch of this action is for the values of attributes or style properties. -/
def Action.isForValues : Action → Bool
  | .setAttribute | .removeAttribute | .setStyle => true
  | _ => false

namespace Patch

variable {p : Patch} {c : Change}

theorem exists_of_isForClasses (h : p.change = .ok c) (haction : p.action.isForClasses = true) :
    ∃ removed added, c = .classes removed added := by
  unfold change at h
  cases ha : p.action <;> rw [ha] at h haction
  case addClass | removeClass =>
    obtain ⟨text, -, hc⟩ := exists_of_bind_eq_ok h
    exact ⟨_, _, (Except.ok.inj hc).symm⟩
  case replaceClass =>
    obtain ⟨old, -, h⟩ := exists_of_bind_eq_ok h
    obtain ⟨new, -, hc⟩ := exists_of_bind_eq_ok h
    exact ⟨_, _, (Except.ok.inj hc).symm⟩
  all_goals cases haction

theorem exists_of_isForValues (h : p.change = .ok c) (haction : p.action.isForValues = true) :
    (∃ pairs, c = .setAttributes pairs) ∨ (∃ name, c = .dropAttribute name) ∨ ∃ updates, c = .style updates := by
  unfold change at h
  cases ha : p.action <;> rw [ha] at h haction
  case setAttribute =>
    obtain ⟨text, -, h⟩ := exists_of_bind_eq_ok h
    obtain ⟨pairs, -, hc⟩ := exists_of_bind_eq_ok h
    exact .inl ⟨pairs, (Except.ok.inj hc).symm⟩
  case removeAttribute =>
    obtain ⟨name, -, hc⟩ := exists_of_bind_eq_ok h
    exact .inr (.inl ⟨name, (Except.ok.inj hc).symm⟩)
  case setStyle =>
    obtain ⟨text, -, h⟩ := exists_of_bind_eq_ok h
    obtain ⟨updates, -, hc⟩ := exists_of_bind_eq_ok h
    exact .inr (.inr ⟨updates, (Except.ok.inj hc).symm⟩)
  all_goals cases haction

end Patch

namespace Inverse

variable {p : Patch} {plan : Plan} {e f : Element} {written : Payload.Pairs}

/-! ## Values -/

/-- Restoring an attribute gives it the value that it has in `e`, and leaves the others as they are. -/
theorem exists_attributes?_restoring (e : Element) (name : String) (hf : (namesIn f.attributes).Nodup) :
    ∃ pairs, (restoring name (e.attribute? name)).attributes? f = some pairs ∧ (namesIn pairs).Nodup ∧
      ∀ n, valueAt n pairs = if n = name then valueAt n e.attributes else valueAt n f.attributes := by
  cases hold : e.attribute? name with
  | none =>
    refine ⟨dropPair name f.attributes, rfl, nodup_dropPair hf, fun n => ?_⟩
    split
    · next hn =>
      rw [hn, valueAt_dropPair_self, ← Element.attribute?_eq, hold]
    · next hn => exact valueAt_dropPair_of_ne hn
  | some old =>
    refine ⟨setPair name old f.attributes, rfl, nodup_setPair hf, fun n => ?_⟩
    split
    · next hn =>
      rw [hn, valueAt_setPair_self, ← Element.attribute?_eq, hold]
    · next hn => exact valueAt_setPair_of_ne hn

/-- Patches that restore attributes, one after the other, give all of them the values that they have in `e`. -/
theorem exists_attributesAfter_restoring (hplan : p.plan = .ok plan) (e : Element) {names : List String}
    (hnames : ∀ name ∈ names, IsPlainName name) (hf : (namesIn f.attributes).Nodup) :
    ∃ restored, attributesAfter f (names.map fun name => ofAttribute p.selector name (e.attribute? name)) =
        some restored ∧ (namesIn restored).Nodup ∧
      ∀ n, valueAt n restored = if n ∈ names then valueAt n e.attributes else valueAt n f.attributes := by
  induction names generalizing f with
  | nil => exact ⟨f.attributes, rfl, hf, fun n => rfl⟩
  | cons name rest ih =>
    obtain ⟨hname, hrest⟩ := List.forall_mem_cons.mp hnames
    obtain ⟨pairs, hpairs, hnodup, hvalue⟩ := exists_attributes?_restoring e name hf
    have hsound : (ofAttribute p.selector name (e.attribute? name)).plan =
        .ok ⟨plan.selectors, restoring name (e.attribute? name)⟩ :=
      plan_of_change hplan (selector_ofAttribute _ _) (change_ofAttribute hname _)
    have hwrites : (ofAttribute p.selector name (e.attribute? name)).attributes? f = some pairs := by
      rw [Patch.attributes?_of_plan hsound, hpairs]
    rw [← Element.attributes_withAttributes f pairs] at hnodup hvalue
    obtain ⟨restored, hafter, hnodup', hvalue'⟩ := ih hrest hnodup
    refine ⟨restored, ?_, hnodup', fun n => ?_⟩
    · rw [List.map_cons, attributesAfter_cons hwrites, hafter]
    · rw [hvalue', hvalue]
      by_cases hn : n = name
      · simp [hn]
      · simp [hn]

/-- Attributes that have changed under some names only come back if these are restored. -/
theorem exists_perm_of_restoring (hplan : p.plan = .ok plan) {names : List String}
    (hnames : ∀ name ∈ names, IsPlainName name) (he : (namesIn e.attributes).Nodup)
    (hwritten : (namesIn written).Nodup)
    (hothers : ∀ n, n ∉ names → valueAt n written = valueAt n e.attributes) :
    ∃ restored, attributesAfter (e.withAttributes written)
        (names.map fun name => ofAttribute p.selector name (e.attribute? name)) = some restored ∧
      restored.Perm e.attributes := by
  rw [← Element.attributes_withAttributes e written] at hwritten hothers
  obtain ⟨restored, hafter, hnodup, hvalue⟩ := exists_attributesAfter_restoring hplan e hnames hwritten
  refine ⟨restored, hafter, perm_of_valueAt_eq hnodup he fun n => ?_⟩
  rw [hvalue]
  split
  · rfl
  · next hn => exact hothers n hn

theorem exists_perm_of_isForValues (hplan : p.plan = .ok plan) (haction : p.action.isForValues = true)
    (he : (namesIn e.attributes).Nodup) (node : Node) :
    ∃ written restored, p.attributes? e = some written ∧
      attributesAfter (e.withAttributes written) (ofChange p.selector e node plan.change) = some restored ∧
      restored.Perm e.attributes := by
  rw [Patch.attributes?_of_plan hplan]
  have hchange := (Patch.plan_selectors hplan).2
  have hwellFormed := Patch.isWellFormed_change hchange
  obtain ⟨pairs, hc⟩ | ⟨name, hc⟩ | ⟨updates, hc⟩ := Patch.exists_of_isForValues hchange haction
  · rw [hc] at hwellFormed ⊢
    obtain ⟨restored, hafter, hperm⟩ := exists_perm_of_restoring hplan hwellFormed he
      (nodup_setPairs he) fun n hn => valueAt_setPairs_of_notMem hn
    refine ⟨_, restored, rfl, ?_, hperm⟩
    rwa [List.map_map] at hafter
  · rw [hc] at hwellFormed ⊢
    rw [ofChange]
    cases hold : e.attribute? name with
    | none =>
      -- the attribute was not there, so there is nothing to restore
      have hsame : ∀ n, n ∉ [] → valueAt n (dropPair name e.attributes) = valueAt n e.attributes := by
        intro n _
        by_cases hn : n = name
        · rw [hn, valueAt_dropPair_self, ← Element.attribute?_eq, hold]
        · exact valueAt_dropPair_of_ne hn
      obtain ⟨restored, hafter, hperm⟩ := exists_perm_of_restoring hplan
        (List.forall_mem_nil _) he (nodup_dropPair he) hsame
      exact ⟨_, restored, rfl, hafter, hperm⟩
    | some old =>
      obtain ⟨restored, hafter, hperm⟩ := exists_perm_of_restoring hplan
        (List.forall_mem_singleton.mpr hwellFormed) he (nodup_dropPair he)
        fun n hn => valueAt_dropPair_of_ne (mt List.mem_singleton.mpr hn)
      rw [List.map_singleton, hold] at hafter
      exact ⟨_, restored, rfl, hafter, hperm⟩
  · rw [hc]
    obtain ⟨restored, hafter, hperm⟩ := exists_perm_of_restoring hplan
      (List.forall_mem_singleton.mpr isPlainName_style) he (nodup_withOrWithout he)
      fun n hn => valueAt_withOrWithout_of_ne (mt List.mem_singleton.mpr hn)
    exact ⟨_, restored, rfl, hafter, hperm⟩

/-! ## Classes -/

theorem mem_classes_withClasses {removed added : List String} (h : (Change.classes removed added).IsWellFormed)
    (f : Element) (c : String) :
    c ∈ (f.withAttributes (withClasses e (changeClasses removed added e.classes))).classes ↔
      (c ∈ e.classes ∧ c ∉ removed) ∨ c ∈ added := by
  rw [Change.IsWellFormed, List.forall_mem_append] at h
  rw [Element.mem_classes, Element.attributes_withAttributes, classesIn_withClasses (isWord_changeClasses h.2),
    mem_changeClasses]

theorem isWellFormed_classChanges {classes removed added : List String}
    (h : (Change.classes removed added).IsWellFormed) :
    (Change.classes (classChanges classes removed added).2 (classChanges classes removed added).1).IsWellFormed := by
  rw [Change.IsWellFormed, List.forall_mem_append] at h ⊢
  exact ⟨fun c hc => h.2 c (List.mem_filter.mp hc).1, fun c hc => h.1 c (List.mem_filter.mp hc).1⟩

/-- The patches that swap classes back do so on any element, and leave its other attributes alone. -/
theorem exists_attributesAfter_swap (hplan : p.plan = .ok plan) {inverse : List Patch} {taken given : List String}
    (hselector : ∀ q ∈ inverse, q.selector = p.selector)
    (hasks : inverse.map (·.change) = (if taken = [] ∧ given = [] then [] else [.classes given taken]).map Except.ok)
    (hswap : (Change.classes given taken).IsWellFormed) (f : Element) :
    ∃ restored, attributesAfter f inverse = some restored ∧ dropPair "class" restored = dropPair "class" f.attributes ∧
      ∀ e : Element, ∀ c, c ∈ (e.withAttributes restored).classes ↔ (c ∈ f.classes ∧ c ∉ given) ∨ c ∈ taken := by
  by_cases hnone : taken = [] ∧ given = []
  · rw [if_pos hnone] at hasks
    obtain ⟨rfl, rfl⟩ := hnone
    obtain rfl : inverse = [] := List.map_eq_nil_iff.mp hasks
    refine ⟨f.attributes, rfl, rfl, fun e c => ?_⟩
    rw [Element.mem_classes, Element.attributes_withAttributes, ← Element.mem_classes]
    simp
  · rw [if_neg hnone] at hasks
    obtain ⟨q, rfl, hq⟩ := List.map_eq_singleton_iff.mp hasks
    have hsound := plan_of_change hplan (hselector q (List.mem_singleton_self q)) hq
    have hwrites : q.attributes? f = some (withClasses f (changeClasses given taken f.classes)) := by
      rw [Patch.attributes?_of_plan hsound]
      rfl
    refine ⟨_, attributesAfter_cons hwrites [], ?_, fun e c => ?_⟩
    · rw [Element.attributes_withAttributes]
      exact dropPair_withOrWithout
    · rw [Element.attributes_withAttributes]
      exact mem_classes_withClasses hswap e c

theorem exists_of_isForClasses (hplan : p.plan = .ok plan) (haction : p.action.isForClasses = true)
    (e : Element) (node : Node) :
    ∃ written restored, p.attributes? e = some written ∧
      attributesAfter (e.withAttributes written) (ofChange p.selector e node plan.change) = some restored ∧
      (∀ c, c ∈ (e.withAttributes restored).classes ↔ c ∈ e.classes) ∧
      dropPair "class" restored = dropPair "class" e.attributes := by
  have hchange := (Patch.plan_selectors hplan).2
  have hwellFormed := Patch.isWellFormed_change hchange
  obtain ⟨removed, added, hc⟩ := Patch.exists_of_isForClasses hchange haction
  rw [Patch.attributes?_of_plan hplan, hc]
  rw [hc] at hwellFormed
  have hasks : (ofChange p.selector e node (.classes removed added)).map (·.change) = _ :=
    map_change_ofChange hwellFormed e node
  rw [changes] at hasks
  obtain ⟨restored, hafter, hothers, hclasses⟩ := exists_attributesAfter_swap hplan
    (fun q hq => selector_of_mem_ofChange hq) hasks (isWellFormed_classChanges hwellFormed)
    (e.withAttributes (withClasses e (changeClasses removed added e.classes)))
  refine ⟨_, restored, rfl, hafter, fun c => ?_, ?_⟩
  · rw [hclasses, mem_classes_withClasses hwellFormed]
    exact mem_classes_back c
  · rw [hothers, Element.attributes_withAttributes]
    exact dropPair_withOrWithout

end Inverse

/-! ## Main statement -/

/-- The inverse of a sound patch for classes, attributes or styles, made for an element with distinct names of
attributes, writes attributes for the element as the patch has left it. After a patch for classes, the element
has the same set of classes again and the same other attributes in the same order; after one for attributes or
styles it has the same attributes, up to their order. -/
theorem inverses_restore_attributes (p : Patch) (plan : Plan) (e : Element) (node : Node) (hplan : p.plan = .ok plan)
    (haction : p.action.isForClasses = true ∨ p.action.isForValues = true)
    (hnames : (namesIn e.attributes).Nodup) :
    ∃ written restored, p.attributes? e = some written ∧
      attributesAfter (e.withAttributes written) (Inverse.ofChange p.selector e node plan.change) = some restored ∧
      (p.action.isForClasses = true →
        (∀ c, c ∈ (e.withAttributes restored).classes ↔ c ∈ e.classes) ∧
          dropPair "class" restored = dropPair "class" e.attributes) ∧
      (p.action.isForValues = true → restored.Perm e.attributes) := by
  rcases haction with haction | haction
  · obtain ⟨written, restored, hwrites, hafter, hclasses⟩ := Inverse.exists_of_isForClasses hplan haction e node
    refine ⟨written, restored, hwrites, hafter, fun _ => hclasses, fun hvalues => ?_⟩
    -- no action is for both
    cases ha : p.action <;> rw [ha] at haction hvalues <;> cases haction <;> cases hvalues
  · obtain ⟨written, restored, hwrites, hafter, hperm⟩ := Inverse.exists_perm_of_isForValues hplan haction hnames node
    refine ⟨written, restored, hwrites, hafter, fun hclasses => ?_, fun _ => hperm⟩
    cases ha : p.action <;> rw [ha] at haction hclasses <;> cases haction <;> cases hclasses

/-- A payload that sets an attribute twice, and gives the element another one, is taken back, quotes and all. -/
theorem inverses_restore_attributes_set_twice :
    let e : Element := ⟨0, .html "p", [⟨.plain "class", "a b"⟩, ⟨.plain "title", "say \"=\""⟩]⟩
    let p : Patch := { Patch.bare "p" .setAttribute with
      value := some "\x7b\"Title\":\"x\",\"title\":\"y\",\"class\":\"\",\"id\":\"i\"\x7d" }
    p.action.isForValues = true ∧ (namesIn e.attributes).Nodup ∧ ∃ plan written restored,
      p.plan = .ok plan ∧ p.attributes? e = some written ∧
        attributesAfter (e.withAttributes written) (Inverse.ofChange p.selector e (.text "") plan.change) =
          some restored ∧
        restored.Perm e.attributes := by
  intro e p
  have haction : p.action.isForValues = true := rfl
  have hnames : (namesIn e.attributes).Nodup := by decide
  obtain ⟨plan, hplan, -⟩ : ∃ plan, p.plan = .ok plan ∧
      plan.change = .setAttributes [("title", "x"), ("class", ""), ("id", "i"), ("title", "y")] :=
    Patch.exists_plan_of_change (by decide +kernel)
  obtain ⟨written, restored, hwrites, hafter, -, hvalues⟩ :=
    inverses_restore_attributes p plan e (.text "") hplan (.inr haction) hnames
  exact ⟨haction, hnames, plan, written, restored, hplan, hwrites, hafter, hvalues haction⟩

end PageEdit
