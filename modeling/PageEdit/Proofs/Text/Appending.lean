import PageEdit.Proofs.Text.Words
import PageEdit.Text.Case
import PageEdit.Text.Word

/-!
# Texts with more behind them

What is read of a text when more is put behind it. Behind a blank, lower case and words are those of the two parts on
their own, and a pattern still accepts what it accepted. One more character that no pattern knows changes nothing of
what occurs, unless it can be part of a word.

* `lower_append_space`: the lower case of two texts with a space between them.
* `words_append_last`: the words of a text, apart from the one at its end.
* `occursAsWord_append`, `occursAsWord_concat`: words that occur still do, and no more than those.
-/

namespace PageEdit.Text

theorem toList_append_space (s t : String) : (s ++ " " ++ t).toList = s.toList ++ ' ' :: t.toList := by simp

theorem toList_concat (s : String) (c : Char) : (s ++ c.toString).toList = s.toList ++ [c] := by simp [Char.toString]

/-! ## Lower case -/

/-- What stands behind a text counts for the case of its characters if the first character there that counts for
case at all is a cased one. -/
theorem meetsCased_append {t : List Char} (h : meetsCased t = false) (s : List Char) :
    meetsCased (s ++ t) = meetsCased s := by
  induction s with
  | nil => exact h
  | cons c s ih =>
    unfold meetsCased at ih ⊢
    rw [List.cons_append, List.dropWhile_cons, List.dropWhile_cons]
    cases isCaseIgnorable c with
    | true => exact ih
    | false => rfl

theorem lowerFrom_append (before : List Char) {t : List Char} (h : meetsCased t = false) (s : List Char) :
    lowerFrom before (s ++ t) = lowerFrom before s ++ lowerFrom (s.reverse ++ before) t := by
  induction s generalizing before with
  | nil => rfl
  | cons c s ih =>
    rw [List.cons_append, lowerFrom, lowerFrom, meetsCased_append h, ih]
    simp

/-- Characters before a text do not count for its case if they end in one that is not cased. -/
theorem lowerFrom_append_left {before : List Char} (h : meetsCased before = false) (near s : List Char) :
    lowerFrom (near ++ before) s = lowerFrom near s := by
  induction s generalizing near with
  | nil => rfl
  | cons c s ih =>
    have hrest : lowerFrom (c :: (near ++ before)) s = lowerFrom (c :: near) s := ih (c :: near)
    rw [lowerFrom, lowerFrom, meetsCased_append h, hrest]

theorem meetsCased_space (s : List Char) : meetsCased (' ' :: s) = false := by
  have hcounts : isCaseIgnorable ' ' = false := by decide +kernel
  have hcased : isCased ' ' = false := by decide +kernel
  rw [meetsCased, List.dropWhile_cons, hcounts, if_neg Bool.false_ne_true]
  exact hcased

theorem lower_append_space (s t : String) : lower (s ++ " " ++ t) = lower s ++ " " ++ lower t := by
  have hspace : ∀ before : List Char, lowerFrom before (' ' :: t.toList) = ' ' :: lowerFrom [] t.toList := by
    intro before
    have hbefore : lowerFrom (' ' :: before) t.toList = lowerFrom [] t.toList :=
      lowerFrom_append_left (meetsCased_space before) [] t.toList
    rw [lowerFrom, hbefore]
    rfl
  rw [← String.toList_inj, lower, toList_append_space, lowerFrom_append [] (meetsCased_space _), hspace]
  simp [lower]

/-- A character that no case depends on stays behind the lower case of a text. -/
theorem lower_concat {c : Char} (h : meetsCased [c] = false) (hc : c.toNat < 0x80) (hlower : c.toLower = c)
    (s : String) : lower (s ++ c.toString) = lower s ++ c.toString := by
  have hsigma : (c == 'Σ') = false := by
    rw [beq_eq_false_iff_ne]
    rintro rfl
    exact absurd hc (by decide)
  have hself : ∀ before : List Char, lowerFrom before [c] = [c] := by
    intro before
    rw [lowerFrom, hsigma, if_neg Bool.false_ne_true, lowerChar, if_pos hc, hlower, lowerFrom]
    rfl
  rw [← String.toList_inj, lower, toList_concat, lowerFrom_append [] h, hself, String.toList_ofList, toList_concat, lower,
    String.toList_ofList]

/-! ## Words -/

theorem splitBlanks_append_space (s t : String) : splitBlanks (s ++ " " ++ t) = splitBlanks s ++ splitBlanks t := by
  have hblank : isBlank ' ' = true := by decide
  rw [splitBlanks, toList_append_space, words_append_of_sep hblank, List.map_append, splitBlanks, splitBlanks]

/-- The last word of a text, if it has not ended. -/
theorem words_append_last {sep : Char → Bool} {front last : List Char} (hfront : ∀ c ∈ front.getLast?, sep c = true)
    (hlast : ∀ c ∈ last, sep c = false) :
    words sep (front ++ last) = words sep front ++ if last = [] then [] else [last] := by
  rw [← words_of_forall hlast]
  rcases List.eq_nil_or_concat front with rfl | ⟨before, c, hconcat⟩
  · rfl
  · rw [List.concat_eq_append] at hconcat
    subst hconcat
    have hc : sep c = true := hfront c (by simp)
    have hbefore : words sep (before ++ [c]) = words sep before := by
      rw [words_append_of_sep hc]
      exact List.append_nil _
    rw [hbefore, List.append_assoc, List.singleton_append, words_append_of_sep hc]

/-! ## What occurs -/

/-- Whether a pattern accepts what it accepts whatever stands behind the text. -/
def Pattern.Extends (p : Pattern) : Prop := ∀ s rest more, rest ∈ p s → rest ++ more ∈ p (s ++ more)

/-- Whether a pattern leaves a character behind a text alone. -/
def Pattern.Leaves (p : Pattern) (c : Char) : Prop := ∀ s, p (s ++ [c]) = (p s).map (· ++ [c])

section

variable {c : Char} {p : Pattern}

theorem startsWord_append (hc : isWordChar c = false) (s more : List Char) :
    startsWord (s ++ c :: more) = startsWord s := by
  cases s with
  | nil => exact hc
  | cons d s => rfl

/-- A word still occurs when a character that cannot be part of it is put behind the text, and more behind that. -/
theorem occursAsWord_append (hp : p.Extends) (hc : isWordChar c = false) (more : List Char) {inWord : Bool}
    {s : List Char} (h : occursAsWord p inWord s = true) : occursAsWord p inWord (s ++ c :: more) = true := by
  induction s generalizing inWord with
  | nil => cases h
  | cons d s ih =>
    rw [occursAsWord, Bool.or_eq_true] at h
    rw [List.cons_append, occursAsWord, Bool.or_eq_true]
    rcases h with h | h
    · left
      rw [Bool.and_eq_true, List.any_eq_true] at h ⊢
      obtain ⟨hstart, rest, hrest, hend⟩ := h
      refine ⟨hstart, rest ++ c :: more, hp _ _ _ hrest, ?_⟩
      rwa [startsWord_append hc]
    · exact .inr (ih h)

theorem containsChars_append {part s : List Char} (more : List Char) (h : containsChars part s = true) :
    containsChars part (s ++ more) = true := by
  induction s with
  | nil =>
    rw [containsChars, List.isEmpty_iff] at h
    subst h
    cases more <;> rfl
  | cons d s ih =>
    rw [containsChars, Bool.or_eq_true] at h
    rw [List.cons_append, containsChars, Bool.or_eq_true]
    rcases h with h | h
    · exact .inl (List.isPrefixOf_iff_prefix.mpr ((List.isPrefixOf_iff_prefix.mp h).trans (List.prefix_append _ more)))
    · exact .inr (ih h)

theorem occurs_concat (hp : p.Leaves c) (s : List Char) : occurs p (s ++ [c]) = occurs p s := by
  have hempty : ∀ t, (p (t ++ [c])).isEmpty = (p t).isEmpty := by
    intro t
    rw [hp, List.isEmpty_map]
  induction s with
  | nil =>
    have hnil : (p [c]).isEmpty = (p []).isEmpty := hempty []
    show (!(p [c]).isEmpty || !(p []).isEmpty) = !(p []).isEmpty
    rw [hnil, Bool.or_self]
  | cons d s ih =>
    have hcons : (p (d :: (s ++ [c]))).isEmpty = (p (d :: s)).isEmpty := hempty (d :: s)
    rw [List.cons_append, occurs, occurs, hcons, ih]

theorem occursAsWord_concat (hp : p.Leaves c) (hc : isWordChar c = false) (inWord : Bool) (s : List Char) :
    occursAsWord p inWord (s ++ [c]) = occursAsWord p inWord s := by
  induction s generalizing inWord with
  | nil =>
    show ((!inWord && isWordChar c && (p [c]).any (!startsWord ·)) || false) = false
    rw [hc, Bool.and_false, Bool.false_and, Bool.or_false]
  | cons d s ih =>
    have hcons : p (d :: (s ++ [c])) = (p (d :: s)).map (· ++ [c]) := hp (d :: s)
    have hend : ((fun rest => !startsWord rest) ∘ fun rest => rest ++ [c]) = fun rest => !startsWord rest := by
      funext rest
      exact congrArg not (startsWord_append hc rest [])
    rw [List.cons_append, occursAsWord, occursAsWord, hcons, List.any_map, hend, ih]

/-- A character that is not in a text is behind no beginning that the text makes. -/
theorem isPrefixOf_concat {part : List Char} (hc : c ∉ part) (s : List Char) :
    part.isPrefixOf (s ++ [c]) = part.isPrefixOf s := by
  rw [Bool.eq_iff_iff, List.isPrefixOf_iff_prefix, List.isPrefixOf_iff_prefix, List.prefix_concat_iff]
  constructor
  · rintro (rfl | h)
    · exact absurd (List.mem_append_right s List.mem_cons_self) hc
    · exact h
  · exact .inr

theorem containsChars_concat {part : List Char} (hc : c ∉ part) (s : List Char) :
    containsChars part (s ++ [c]) = containsChars part s := by
  induction s with
  | nil =>
    have hbegins : part.isPrefixOf [c] = part.isPrefixOf [] := isPrefixOf_concat hc []
    show (part.isPrefixOf [c] || part.isEmpty) = part.isEmpty
    rw [hbegins]
    cases part <;> rfl
  | cons d s ih =>
    have hbegins : part.isPrefixOf (d :: (s ++ [c])) = part.isPrefixOf (d :: s) := isPrefixOf_concat hc (d :: s)
    rw [List.cons_append, containsChars, containsChars, hbegins, ih]

end

end PageEdit.Text
