import PageEdit.Proofs.Outline.Sections
import PageEdit.Proofs.Patch.Restoring
import PageEdit.Proofs.Patch.Stages

/-!
# Classes that patches take and give

A patch for classes names them in its texts, between blanks of any kind; an element has its own between the five
blanks of HTML. What is written for the element is read as words of HTML again, so that a class with one of the other
blanks in it can be had by an element, but is never named by a patch.

* `withClasses_withAttributes`: the same classes are written once.
* `class_patches_change_the_list`: the classes of an element after a patch, and its other attributes.
* `listed_classes_are_removed_by_name`: which classes of an outline a patch can take away.
-/

namespace PageEdit

open Html

/-! ## What is written for an element -/

section Written

variable {e : Element} {classes : List String}

/-- The classes that are read of attributes. -/
theorem Html.Element.classes_withAttributes (e : Element) (pairs : Payload.Pairs) :
    (e.withAttributes pairs).classes = Order.distinct (classesIn pairs) := by
  rw [classes, Element.attr?_eq (by decide), attributes_withAttributes, classesIn]

theorem classes_withClasses (hwords : ∀ c ∈ classes, Text.IsWord Text.isAsciiBlank c) (hnodup : classes.Nodup) :
    (e.withAttributes (withClasses e classes)).classes = classes := by
  rw [Element.classes_withAttributes, classesIn_withClasses hwords]
  exact Order.foldl_see_of_nodup hnodup

theorem class_mem_namesIn_withClasses_iff (hwords : ∀ c ∈ classes, Text.IsWord Text.isAsciiBlank c) :
    "class" ∈ namesIn (withClasses e classes) ↔ classes ≠ [] := by
  rw [namesIn, ← isSome_valueAt_iff, withClasses, withOrWithout, Text.isEmpty_intercalate hwords]
  cases classes with
  | nil => simp [valueAt_dropPair_self]
  | cons c rest => simp [valueAt_setPair_self]

/-- Writing the same classes again changes nothing. -/
theorem withClasses_withAttributes (e : Element) (classes : List String) :
    withClasses (e.withAttributes (withClasses e classes)) classes = withClasses e classes := by
  unfold withClasses withOrWithout
  rw [Element.attributes_withAttributes]
  split
  · exact dropPair_dropPair
  · exact setPair_setPair

end Written

/-! ## Classes that a patch names -/

namespace Patch

/-- The classes that a patch takes away, as its texts name them. -/
def leavingClasses (p : Patch) : List String :=
  match p.action with
  | .removeClass => Text.splitBlanks (p.removed?.getD "")
  | .replaceClass => Text.splitBlanks (p.oldValue.getD "")
  | _ => []

/-- The classes that a patch gives, as its texts name them. -/
def comingClasses (p : Patch) : List String :=
  match p.action with
  | .addClass => Text.splitBlanks (p.added?.getD "")
  | .replaceClass => Text.splitBlanks (p.newValue.getD "")
  | _ => []

/-- The classes after a patch: those that stay, and behind them the first occurrences of those that are new. -/
def classesAfter (p : Patch) (classes : List String) : List String :=
  let kept := classes.filter (· ∉ p.leavingClasses)
  kept ++ (Order.distinct p.comingClasses).filter (· ∉ kept)

variable {p : Patch}

theorem change_eq_classes {c : Change} (h : p.change = .ok c) (haction : p.action.isForClasses = true) :
    c = .classes p.leavingClasses p.comingClasses := by
  unfold change at h
  unfold leavingClasses comingClasses
  cases ha : p.action <;> rw [ha] at h haction
  case addClass | removeClass =>
    obtain ⟨text, htext, hc⟩ := exists_of_bind_eq_ok h
    rw [← Except.ok.inj hc, eq_some_of_needText htext]
    rfl
  case replaceClass =>
    obtain ⟨old, hold, h⟩ := exists_of_bind_eq_ok h
    obtain ⟨new, hnew, hc⟩ := exists_of_bind_eq_ok h
    rw [← Except.ok.inj hc, eq_some_of_needText hold, eq_some_of_needText hnew]
    rfl
  all_goals cases haction

theorem changeClasses_eq (p : Patch) (classes : List String) :
    changeClasses p.leavingClasses p.comingClasses classes = p.classesAfter classes := by
  have hkept : classes.filter (!p.leavingClasses.contains ·) = classes.filter (· ∉ p.leavingClasses) :=
    List.filter_congr fun c _ => by simp
  rw [changeClasses, hkept]
  exact Order.foldl_see_eq _ _

theorem isWord_of_mem_comingClasses : ∀ c ∈ p.comingClasses, Text.IsWord Text.isBlank c := by
  unfold comingClasses
  split
  · exact fun c hc => Text.isWord_of_mem_splitBlanks hc
  · exact fun c hc => Text.isWord_of_mem_splitBlanks hc
  · exact List.forall_mem_nil _

theorem isWord_of_mem_classesAfter {e : Element} :
    ∀ c ∈ p.classesAfter e.classes, Text.IsWord Text.isAsciiBlank c := by
  rw [← changeClasses_eq]
  exact isWord_changeClasses isWord_of_mem_comingClasses

theorem nodup_classesAfter {classes : List String} (h : classes.Nodup) : (p.classesAfter classes).Nodup := by
  rw [classesAfter, ← Order.foldl_see_eq]
  exact Order.foldl_see_nodup _ (h.filter _)

theorem attributes?_of_isForClasses (hcheck : p.check = .ok ()) (haction : p.action.isForClasses = true)
    (e : Element) : p.attributes? e = some (withClasses e (p.classesAfter e.classes)) := by
  obtain ⟨plan, hplan⟩ := check_eq_ok_iff.mp hcheck
  rw [attributes?_of_plan hplan, change_eq_classes (plan_selectors hplan).2 haction, Change.attributes?,
    changeClasses_eq]

/-- A patch that only takes classes, or only gives some, does nothing the second time. -/
theorem classesAfter_classesAfter (haction : p.action ≠ .replaceClass) (classes : List String) :
    p.classesAfter (p.classesAfter classes) = p.classesAfter classes := by
  have hone : p.leavingClasses = [] ∨ p.comingClasses = [] := by
    unfold leavingClasses comingClasses
    cases ha : p.action <;> simp_all
  rcases hone with hnone | hnone
  · -- every class that it gives is there
    have hthere : ∀ c ∈ p.comingClasses, c ∈ p.classesAfter classes := by
      intro c hc
      rw [← changeClasses_eq, mem_changeClasses]
      exact .inr hc
    have hall : (p.classesAfter classes).filter (!([] : List String).contains ·) = p.classesAfter classes :=
      List.filter_eq_self.mpr fun c _ => rfl
    rw [← changeClasses_eq p (p.classesAfter classes), changeClasses, hnone, hall]
    exact Order.foldl_see_of_subset hthere
  · simp [classesAfter, hnone, Order.distinct, List.filter_filter]

end Patch

/-! ## Classes of an element -/

/-- What a sound patch for classes writes for an element has, as it is read again, the classes that are not taken, in
their order, and behind them the first occurrences of those that are given and not among these. No class comes twice,
the attribute is there exactly if there is a class, and the others are as they were, in their order. A patch that does
not both take and give writes the same again. -/
theorem class_patches_change_the_list (p : Patch) (e : Element) (hcheck : p.check = .ok ())
    (haction : p.action.isForClasses = true) :
    ∃ written, p.attributes? e = some written ∧
      (e.withAttributes written).classes = p.classesAfter e.classes ∧
      (p.classesAfter e.classes).Nodup ∧
      ("class" ∈ namesIn written ↔ p.classesAfter e.classes ≠ []) ∧
      dropPair "class" written = dropPair "class" e.attributes ∧
      (p.action ≠ .replaceClass → p.attributes? (e.withAttributes written) = some written) := by
  have hwords := @Patch.isWord_of_mem_classesAfter p e
  have hnodup : (p.classesAfter e.classes).Nodup := Patch.nodup_classesAfter e.classes_nodup
  have hclasses := classes_withClasses (e := e) hwords hnodup
  refine ⟨_, Patch.attributes?_of_isForClasses hcheck haction e, hclasses, hnodup,
    class_mem_namesIn_withClasses_iff hwords, dropPair_withOrWithout, fun honce => ?_⟩
  rw [Patch.attributes?_of_isForClasses hcheck haction, hclasses, Patch.classesAfter_classesAfter honce,
    withClasses_withAttributes]

/-- A class with a blank that HTML does not know stays, though the patch names its parts, and what is given twice
comes once. -/
theorem class_patches_change_the_list_past_wide_blanks :
    let e : Element := ⟨0, .html "p", [⟨.plain "class", "b a b\u00a0c  a"⟩, ⟨.plain "id", "i"⟩]⟩
    let p : Patch := { Patch.bare "p" .replaceClass with
      oldValue := some "b\u00a0c a", newValue := some "x b x\u2003a" }
    p.check = .ok () ∧ p.action.isForClasses = true ∧ ∃ written, p.attributes? e = some written ∧
      (e.withAttributes written).classes = ["b\u00a0c", "x", "b", "a"] ∧ "class" ∈ namesIn written := by
  intro e p
  have hcheck : p.check = .ok () := Patch.check_of_isOk_plan (by decide +kernel)
  have hafter : p.classesAfter e.classes = ["b\u00a0c", "x", "b", "a"] := by decide +kernel
  obtain ⟨written, hwrites, hclasses, -, hclass, -⟩ := class_patches_change_the_list p e hcheck rfl
  rw [hafter] at hclasses hclass
  exact ⟨hcheck, rfl, written, hwrites, hclasses, hclass.mpr (List.cons_ne_nil _ _)⟩

/-! ## Classes of an outline -/

namespace Patch

/-- Whether a patch picks the element at a place of a document. -/
def Picks (doc : Document) (p : Patch) (place : Place) : Prop :=
  ∃ selectors, p.selectors = .ok selectors ∧ place ∈ Css.select selectors doc

/-- What comes of a patch that is to take a class from an element. A class that is all blanks is refused; otherwise the
words of the class are taken. The class itself is taken if and only if there is no blank of any kind in it. -/
structure TakesClass (p : Patch) (e : Element) (c : String) : Prop where
  refused : Text.isBlankText c = true → p.check = .error (.missing .removed)
  words : Text.isBlankText c = false → p.check = .ok () ∧ ∃ written, p.attributes? e = some written ∧
    (e.withAttributes written).classes = e.classes.filter (· ∉ Text.splitBlanks c)
  itself_iff : (p.check = .ok () ∧ ∃ written, p.attributes? e = some written ∧
    (e.withAttributes written).classes = e.classes.filter (· ≠ c)) ↔ ∀ x ∈ c.toList, Text.isBlank x = false

variable {p : Patch} {e : Element} {c : String}

theorem check_of_removing {selectors : List Css.Selector} (hselectors : p.selectors = .ok selectors)
    (haction : p.action = .removeClass) (hold : p.oldValue = some c) :
    p.check = if Text.isBlankText c then .error (.missing .removed) else .ok () := by
  have hremoved : p.removed? = some c := by rw [removed?, hold, Option.some_or]
  rw [check_of_selectors hselectors, checkPayload, haction]
  simp only [hremoved, requireText, Text.isEmpty_trim]

theorem classesAfter_of_removing (haction : p.action = .removeClass) (hold : p.oldValue = some c)
    (classes : List String) : p.classesAfter classes = classes.filter (· ∉ Text.splitBlanks c) := by
  simp [classesAfter, leavingClasses, comingClasses, haction, removed?, hold, Order.distinct]

/-- Taking the words of a class takes the class and no other if and only if there is no blank in it. -/
theorem filter_splitBlanks_eq_iff (hc : c ∈ e.classes) :
    e.classes.filter (· ∉ Text.splitBlanks c) = e.classes.filter (· ≠ c) ↔
      ∀ x ∈ c.toList, Text.isBlank x = false := by
  constructor
  · intro h
    have hgone : c ∉ e.classes.filter (· ≠ c) := by simp
    rw [← h] at hgone
    have hword : c ∈ Text.splitBlanks c := by simpa [hc] using hgone
    exact (Text.isWord_of_mem_splitBlanks hword).2
  · intro h
    have hword : Text.IsWord Text.isBlank c :=
      ⟨(Text.isWord_of_mem_splitAsciiBlanks (Element.mem_classes.mp hc)).1, h⟩
    have hself : Text.splitBlanks c = [c] := by
      rw [Text.splitBlanks, Text.words_of_isWord hword, List.map_singleton, String.ofList_toList]
    simp [hself]

theorem takesClass_of_picks {doc : Document} {place : Place} (hc : c ∈ e.classes) (haction : p.action = .removeClass)
    (hold : p.oldValue = some c) (hpicks : p.Picks doc place) : p.TakesClass e c := by
  obtain ⟨selectors, hselectors, -⟩ := hpicks
  have hcheck := check_of_removing hselectors haction hold
  have hwrites : p.check = .ok () → p.attributes? e = some (withClasses e (p.classesAfter e.classes)) := fun hok =>
    attributes?_of_isForClasses hok (by rw [haction]; rfl) e
  have hclasses := classes_withClasses (e := e) (@isWord_of_mem_classesAfter p e) (nodup_classesAfter e.classes_nodup)
  rw [classesAfter_of_removing haction hold] at hwrites hclasses
  refine ⟨fun hblank => ?_, fun hblank => ?_, ⟨?_, fun hall => ?_⟩⟩
  · rw [hcheck, if_pos hblank]
  · have hok : p.check = .ok () := by rw [hcheck, hblank, if_neg Bool.false_ne_true]
    exact ⟨hok, _, hwrites hok, hclasses⟩
  · rintro ⟨hok, written, hwritten, hread⟩
    obtain rfl := Option.some.inj (hwritten.symm.trans (hwrites hok))
    exact (filter_splitBlanks_eq_iff hc).mp (hclasses.symm.trans hread)
  · -- a class has a character, which is no blank
    have hblank : Text.isBlankText c = false := by
      obtain ⟨x, hx⟩ := List.exists_mem_of_ne_nil _ (Text.isWord_of_mem_splitAsciiBlanks (Element.mem_classes.mp hc)).1
      rw [Text.isBlankText, List.all_eq_false]
      exact ⟨x, hx, by rw [hall x hx]; exact Bool.false_ne_true⟩
    have hok : p.check = .ok () := by rw [hcheck, hblank, if_neg Bool.false_ne_true]
    exact ⟨hok, _, hwrites hok, hclasses.trans ((filter_splitBlanks_eq_iff hc).mpr hall)⟩

end Patch

namespace Outline

/-- Whether every class that an entry lists is taken from the element at a place by a patch that picks it, as far as
patches can name it. -/
structure Entry.GivesUpClasses (doc : Document) (entry : Entry) (place : Place) : Prop where
  shows : entry.Shows place
  takes : ∀ e, place.element? = some e → entry.classes = e.classes ∧ ∀ c ∈ entry.classes, ∀ p : Patch,
    p.action = .removeClass → p.oldValue = some c → p.Picks doc place → p.TakesClass e c

/-- Of every entry of a page, a patch that removes a listed class by its name and picks the element of the entry takes
the class, and no other, if and only if there is no blank of any kind in it. -/
theorem listed_classes_are_removed_by_name (html : String) :
    List.Forall₂ (Entry.GivesUpClasses (.ofHtml html)) (ofHtml html).entries
      (shownElements (Document.ofHtml html).bodyPlace) := by
  have hforall : List.Forall₂ Entry.Shows (ofHtml html).entries
      (shownElements (Document.ofHtml html).bodyPlace) := (forall₂_ofDocument _ _ _).imp fun _ _ h => h.1
  generalize Document.ofHtml html = doc at hforall ⊢
  refine hforall.imp fun entry place hshows => ⟨hshows, fun e he => ?_⟩
  obtain ⟨f, hf, -, hclasses, -⟩ := hshows.element
  obtain rfl : f = e := Option.some.inj (hf.symm.trans he)
  refine ⟨hclasses, fun c hc p haction hold hpicks => ?_⟩
  exact Patch.takesClass_of_picks (hclasses ▸ hc) haction hold hpicks

end Outline

/-- A class with a no-break space in it is listed, and a patch that removes it by its name is sound and applies; what it
writes has the class still. -/
theorem class_with_wide_blank_stays :
    let html := "<p class=\"a\u00a0b\">x</p>"
    let p : Patch := { Patch.bare "p" .removeClass with oldValue := some "a\u00a0b" }
    (Outline.ofHtml html).entries.map (·.classes) = [[], ["a\u00a0b"]] ∧ p.check.isOk = true ∧
      (p.picked html).map (fun e => (e.classes, p.attributes? e)) = [(["a\u00a0b"], some [("class", "a\u00a0b")])] ∧
      (applyAll html [p]).applied = [0] ∧
      (applyAll html [p]).html = "<html><head></head><body><p class=\"a\u00a0b\">x</p></body></html>" := by
  decide +kernel

end PageEdit
