import PageEdit.Proofs.Patch.Styles

/-!
# Styles that are written and read in turn

A patch for styles reads the style that the patch before it has written. What is written is read as the same
declarations, so nothing is lost on the way: some patches in a row come to one patch with all their declarations,
however untidy the style is that the first of them has found.

* `inlineStyle_writeStyle_iff`: the declarations that are read as they are written.
* `styles_are_read_as_written`: reading and writing are inverse on what they give.
* `style_runs_add_up`: patches in a row, and one patch with all their declarations.
-/

namespace PageEdit

open Html Payload

/-! ## Declarations as a text -/

section

variable {declarations : Payload.Pairs}

/-- Declarations are read as they are written exactly if each of them can be read of some style at all. -/
theorem inlineStyle_writeStyle_iff :
    inlineStyle (writeStyle declarations) = declarations ↔ ∀ d ∈ declarations, IsStable d := by
  refine ⟨fun h d hd => ?_, inlineStyle_writeStyle⟩
  rw [← h] at hd
  exact isStable_of_mem_inlineStyle hd

theorem isEmpty_writeStyle (declarations : Payload.Pairs) :
    (writeStyle declarations).isEmpty = declarations.isEmpty := by
  cases declarations with
  | nil => rfl
  | cons d rest =>
    obtain ⟨lead, -, htext⟩ := exists_toList_writeStyle d rest
    have hne : (writeStyle (d :: rest)).toList ≠ [] := by
      rw [htext]
      exact List.append_ne_nil_of_right_ne_nil _ (List.cons_ne_nil _ _)
    simpa using hne

end

/-! ## The style among some attributes -/

section

variable {e : Element} {updates more : Payload.Pairs}

/-- The declarations that are read of some attributes. Without a style among them there are none. -/
def declarationsIn (pairs : Payload.Pairs) : Payload.Pairs := (valueAt "style" pairs).elim [] inlineStyle

/-- The style that is written of some declarations. If there are none, no style is written. -/
def styleOf? (declarations : Payload.Pairs) : Option String :=
  if declarations.isEmpty then none else some (writeStyle declarations)

theorem declarationsIn_eq (pairs : Payload.Pairs) : declarationsIn pairs = inlineStyle (styleIn pairs) := by
  rw [declarationsIn, styleIn]
  cases valueAt "style" pairs with
  | none => rfl
  | some style => rfl

theorem mergedStyle_eq_foldl (e : Element) (updates : Payload.Pairs) :
    mergedStyle e updates = updates.foldl declare (declarationsIn e.attributes) := by
  rw [mergedStyle_eq, declarationsIn_eq]

theorem valueAt_withStyle (e : Element) (updates : Payload.Pairs) :
    valueAt "style" (withStyle e updates) = styleOf? (mergedStyle e updates) := by
  rw [withStyle, valueAt_withOrWithout_self, isEmpty_writeStyle, styleOf?]

/-- The declarations that have been put together are read of what is written of them. -/
theorem declarationsIn_withStyle (h : ∀ u ∈ updates, IsStable u) :
    declarationsIn (withStyle e updates) = mergedStyle e updates := by
  rw [declarationsIn_eq, styleIn_withStyle, inlineStyle_writeStyle (isStable_mergedStyle h)]

/-- Declarations that come later are merged into those that have been read again. -/
theorem mergedStyle_withAttributes (h : ∀ u ∈ updates, IsStable u) :
    mergedStyle (e.withAttributes (withStyle e updates)) more = mergedStyle e (updates ++ more) := by
  rw [mergedStyle_eq_foldl, Element.attributes_withAttributes, declarationsIn_withStyle h, mergedStyle_eq_foldl,
    mergedStyle_eq_foldl, List.foldl_append]

end

/-! ## Reading and writing -/

/-- The declarations of a style are read again when they are written. For every element and every payload that is
a sound list of declarations, what is read of the attributes that are written is the style of the element with these
declarations merged into it, and there is no such attribute exactly if no declaration is left. -/
theorem styles_are_read_as_written :
    (∀ style : String, inlineStyle (writeStyle (inlineStyle style)) = inlineStyle style) ∧
      ∀ (e : Element) (payload : String) (updates : Payload.Pairs), isDeclarationList payload = true →
        styles payload = .ok updates → declarationsIn (withStyle e updates) = mergedStyle e updates ∧
          (valueAt "style" (withStyle e updates) = none ↔ mergedStyle e updates = []) := by
  refine ⟨fun style => inlineStyle_writeStyle_iff.mpr fun d hd => isStable_of_mem_inlineStyle hd, ?_⟩
  intro e payload updates hlist hread
  have hstable : ∀ u ∈ updates, IsStable u := fun u hu => (isStable_of_styles hlist hread u hu).1
  refine ⟨declarationsIn_withStyle hstable, ?_⟩
  rw [valueAt_withStyle, styleOf?]
  simp

/-- Capitals, blanks of any kind, parts that are no declarations, empty values and further colons. -/
theorem styles_are_read_as_written_untidy :
    let e : Element := ⟨0, .html "p", [⟨.plain "style", ";;\u00a0COLOR :red; : 1; top:;bad;--X: a:b "⟩]⟩
    let payload := " color:\u2003; Width: 1px ;;WIDTH : c : d"
    let updates := [("color", ""), ("width", "1px"), ("width", "c : d")]
    isDeclarationList payload = true ∧ styles payload = .ok updates ∧
      declarationsIn (withStyle e updates) = [("top", ""), ("--x", "a:b"), ("width", "c : d")] := by
  intro e payload updates
  have hlist : isDeclarationList payload = true := by decide
  have hread : styles payload = .ok updates := eq_ok_of_toOption (by decide +kernel)
  obtain ⟨hwritten, -⟩ := styles_are_read_as_written.2 e payload updates hlist hread
  refine ⟨hlist, hread, hwritten.trans ?_⟩
  decide +kernel

/-- A value of an object can have a semicolon in it, and is read as two declarations. -/
example :
    let e : Element := ⟨0, .html "p", []⟩
    (styles "\x7b\"color\": \"red; top: 0\"\x7d").toOption = some [("color", "red; top: 0")] ∧
      declarationsIn (withStyle e [("color", "red; top: 0")]) = [("color", "red"), ("top", "0")] := by
  decide +kernel

/-! ## Patches in a row -/

namespace Patch

/-- Whether a patch is a sound one for styles, with a list of declarations. -/
structure DeclaresStyles (p : Patch) : Prop where
  action : p.action = .setStyle
  isList : p.payload?.any isDeclarationList = true
  isSound : p.check = .ok ()

/-- The declarations of a patch for styles. -/
def styleUpdates (p : Patch) : Payload.Pairs :=
  match p.plan with
  | .ok ⟨_, .style updates⟩ => updates
  | _ => []

variable {p : Patch}

theorem plan_of_declaresStyles (h : p.DeclaresStyles) :
    ∃ selectors, p.plan = .ok ⟨selectors, .style p.styleUpdates⟩ ∧ ∀ u ∈ p.styleUpdates, IsStable u := by
  obtain ⟨⟨selectors, change⟩, hplan⟩ := check_eq_ok_iff.mp h.isSound
  obtain ⟨updates, hchange, hstable⟩ := exists_style_of_plan hplan h.action h.isList
  obtain rfl : change = .style updates := hchange
  have hupdates : p.styleUpdates = updates := by rw [styleUpdates, hplan]
  rw [hupdates]
  exact ⟨selectors, hplan, fun u hu => (hstable u hu).1⟩

theorem attributes?_of_declaresStyles (h : p.DeclaresStyles) (e : Element) :
    p.attributes? e = some (withStyle e p.styleUpdates) := by
  obtain ⟨selectors, hplan, -⟩ := plan_of_declaresStyles h
  exact attributes?_of_style hplan rfl e

end Patch

/-- Sound patches for styles in a row leave the style that one patch with all their declarations leaves, as a text
and as it is read, and the other attributes as they were. -/
theorem style_runs_add_up (p : Patch) (rest : List Patch) (e : Element) (h : ∀ q ∈ p :: rest, q.DeclaresStyles) :
    ∃ written, attributesAfter e (p :: rest) = some written ∧
      valueAt "style" written = valueAt "style" (withStyle e ((p :: rest).flatMap Patch.styleUpdates)) ∧
      declarationsIn written = mergedStyle e ((p :: rest).flatMap Patch.styleUpdates) ∧
      dropPair "style" written = dropPair "style" e.attributes := by
  induction rest generalizing p e with
  | nil =>
    obtain ⟨hp, -⟩ := List.forall_mem_cons.mp h
    obtain ⟨-, -, hstable⟩ := Patch.plan_of_declaresStyles hp
    refine ⟨withStyle e p.styleUpdates, ?_, ?_⟩
    · rw [attributesAfter_cons (Patch.attributes?_of_declaresStyles hp e), attributesAfter,
        Element.attributes_withAttributes]
    · rw [List.flatMap_singleton]
      exact ⟨rfl, declarationsIn_withStyle hstable, dropPair_withOrWithout⟩
  | cons q rest ih =>
    obtain ⟨hp, hrest⟩ := List.forall_mem_cons.mp h
    obtain ⟨-, -, hstable⟩ := Patch.plan_of_declaresStyles hp
    -- what the first patch has written is what the others find
    obtain ⟨written, hafter, htext, hread, hothers⟩ := ih q (e.withAttributes (withStyle e p.styleUpdates)) hrest
    have hmerged : mergedStyle (e.withAttributes (withStyle e p.styleUpdates)) ((q :: rest).flatMap Patch.styleUpdates) =
        mergedStyle e ((p :: q :: rest).flatMap Patch.styleUpdates) :=
      mergedStyle_withAttributes hstable
    refine ⟨written, ?_, ?_, ?_, ?_⟩
    · rw [attributesAfter_cons (Patch.attributes?_of_declaresStyles hp e), hafter]
    · rw [htext, valueAt_withStyle, hmerged, valueAt_withStyle]
    · rw [hread, hmerged]
    · rw [hothers, Element.attributes_withAttributes]
      exact dropPair_withOrWithout

end PageEdit
