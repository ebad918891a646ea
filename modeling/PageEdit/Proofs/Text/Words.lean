import PageEdit.Text.Blank

/-!
# Words put together and taken apart

Words that are put together with spaces are found again when the text is split, whichever set of blanks it is
split at.

* `isWord_of_mem_words`: what splitting gives are words.
* `words_append_of_sep`: the words of two texts with a separator between them.
* `words_intercalate`: words are found again.
* `trimChars_append_right`: blanks at the end do not count for trimming.
* `trimChars_eq_self`: what has no blank at its ends is not trimmed.
-/

namespace PageEdit.Text

/-- Whether a text is a word: it has a character, and none of them is a separator. -/
def IsWord (sep : Char → Bool) (s : String) : Prop := s.toList ≠ [] ∧ ∀ c ∈ s.toList, sep c = false

section

variable {sep : Char → Bool}

/-! ## Splitting -/

theorem pieces_append {word rest p : List Char} {ps : List (List Char)}
    (hword : ∀ c ∈ word, sep c = false) (hrest : pieces sep rest = p :: ps) :
    pieces sep (word ++ rest) = (word ++ p) :: ps := by
  induction word with
  | nil => exact hrest
  | cons c word ih =>
    obtain ⟨hc, hword⟩ := List.forall_mem_cons.mp hword
    rw [List.cons_append, pieces, ih hword, hc]
    rfl

theorem mem_pieces {s p : List Char} (h : p ∈ pieces sep s) : ∀ c ∈ p, sep c = false := by
  induction s generalizing p with
  | nil => simp_all [pieces]
  | cons c s ih =>
    obtain ⟨q, qs, hs⟩ := List.exists_cons_of_ne_nil (pieces_ne_nil sep s)
    rw [pieces, hs] at h
    rw [hs] at ih
    cases hc : sep c with
    | true =>
      rw [hc, if_pos rfl, List.mem_cons] at h
      rcases h with rfl | h
      · exact fun c hc => absurd hc List.not_mem_nil
      · exact ih h
    | false =>
      rw [hc, if_neg Bool.false_ne_true, List.mem_cons] at h
      rcases h with rfl | h
      · exact List.forall_mem_cons.mpr ⟨hc, ih List.mem_cons_self⟩
      · exact ih (List.mem_cons_of_mem _ h)

/-- The first piece is all of the text, or a separator stands behind it and before the other pieces. -/
theorem pieces_eq_cons {mark : Char} {s p : List Char} {ps : List (List Char)}
    (h : pieces (· == mark) s = p :: ps) :
    (s = p ∧ ps = []) ∨ ∃ rest, s = p ++ mark :: rest ∧ pieces (· == mark) rest = ps := by
  induction s generalizing p with
  | nil =>
    cases h
    exact .inl ⟨rfl, rfl⟩
  | cons c s ih =>
    rw [pieces] at h
    split at h
    · next hc =>
      cases h
      exact .inr ⟨s, by rw [beq_iff_eq.mp hc, List.nil_append], rfl⟩
    · obtain ⟨q, qs, hq⟩ := List.exists_cons_of_ne_nil (pieces_ne_nil (· == mark) s)
      rw [hq] at h
      cases h
      rcases ih hq with ⟨rfl, rfl⟩ | ⟨rest, rfl, hrest⟩
      · exact .inl ⟨rfl, rfl⟩
      · exact .inr ⟨rest, rfl, hrest⟩

/-- What splitting gives are words. -/
theorem isWord_of_mem_words {s t : String} (h : t ∈ (words sep s.toList).map String.ofList) :
    IsWord sep t := by
  obtain ⟨p, hp, rfl⟩ := List.mem_map.mp h
  obtain ⟨hpieces, hne⟩ := List.mem_filter.mp hp
  rw [IsWord, String.toList_ofList]
  exact ⟨by simpa using hne, mem_pieces hpieces⟩

/-! ## Putting together -/

theorem pieces_append_of_sep {c : Char} (h : sep c = true) (s t : List Char) :
    pieces sep (s ++ c :: t) = pieces sep s ++ pieces sep t := by
  induction s with
  | nil =>
    have hcons : pieces sep (c :: t) = [] :: pieces sep t := by rw [pieces, if_pos h]
    exact hcons
  | cons d s ih =>
    obtain ⟨p, ps, hs⟩ := List.exists_cons_of_ne_nil (pieces_ne_nil sep s)
    rw [List.cons_append, pieces, pieces, ih, hs, List.cons_append]
    cases sep d with
    | true => rfl
    | false => rfl

theorem words_append_of_sep {c : Char} (h : sep c = true) (s t : List Char) :
    words sep (s ++ c :: t) = words sep s ++ words sep t := by
  rw [words, pieces_append_of_sep h, List.filter_append, words, words]

theorem words_of_forall {s : List Char} (h : ∀ c ∈ s, sep c = false) :
    words sep s = if s = [] then [] else [s] := by
  have hpieces : pieces sep (s ++ []) = [s ++ []] := pieces_append h rfl
  rw [List.append_nil] at hpieces
  rw [words, hpieces]
  cases s <;> rfl

theorem words_of_isWord {t : String} (h : IsWord sep t) : words sep t.toList = [t.toList] := by
  rw [words_of_forall h.2, if_neg h.1]

theorem words_append_of_isWord (hspace : sep ' ' = true) {t : String} (h : IsWord sep t)
    (rest : List Char) : words sep (t.toList ++ ' ' :: rest) = t.toList :: words sep rest := by
  rw [words_append_of_sep hspace, words_of_isWord h, List.singleton_append]

/-- Words that are put together with spaces are found again. -/
theorem words_intercalate (hspace : sep ' ' = true) {list : List String}
    (h : ∀ t ∈ list, IsWord sep t) :
    (words sep (String.intercalate " " list).toList).map String.ofList = list := by
  induction list with
  | nil => rfl
  | cons t rest ih =>
    obtain ⟨ht, hrest⟩ := List.forall_mem_cons.mp h
    cases rest with
    | nil => simp [words_of_isWord ht]
    | cons u rest =>
      have htext : (String.intercalate " " (t :: u :: rest)).toList =
          t.toList ++ ' ' :: (String.intercalate " " (u :: rest)).toList := by
        simp [String.intercalate_cons_cons]
      rw [htext, words_append_of_isWord hspace ht, List.map_cons, ih hrest, String.ofList_toList]

end

/-! ## Both sets of blanks -/

theorem isBlank_of_isAsciiBlank {c : Char} (h : isAsciiBlank c = true) : isBlank c = true := by
  simp only [isAsciiBlank, Bool.or_eq_true, beq_iff_eq] at h
  rcases h with (((rfl | rfl) | rfl) | rfl) | rfl <;> decide

theorem isBlank_of_isAlpha {c : Char} (h : c.isAlpha = true) : isBlank c = false := by
  have hletters : ∀ n < 123, (Char.ofNat n).isAlpha = true → isBlank (Char.ofNat n) = false := by decide
  have hc : c.toNat ≤ 122 := by
    have hcase : (c.isUpper || c.isLower) = true := h
    rcases Bool.or_eq_true_iff.mp hcase with hupper | hlower
    · have hz : c.val ≤ 'Z'.val := (of_decide_eq_true hupper).2
      exact Nat.le_trans hz (by decide)
    · have hz : decide (c.val ≤ 'z'.val) = true := (Bool.and_eq_true_iff.mp hlower).2
      exact of_decide_eq_true hz
  rw [← Char.ofNat_toNat c] at h ⊢
  exact hletters c.toNat (Nat.lt_succ_of_le hc) h

/-- A word between blanks of any kind is one between HTML blanks. -/
theorem IsWord.ascii {t : String} (h : IsWord isBlank t) : IsWord isAsciiBlank t := by
  refine ⟨h.1, fun c hc => ?_⟩
  cases hascii : isAsciiBlank c with
  | false => rfl
  | true => exact absurd (isBlank_of_isAsciiBlank hascii) (by rw [h.2 c hc]; exact Bool.false_ne_true)

theorem isWord_of_mem_splitBlanks {s t : String} (h : t ∈ splitBlanks s) : IsWord isBlank t :=
  isWord_of_mem_words h

theorem isWord_of_mem_splitAsciiBlanks {s t : String} (h : t ∈ splitAsciiBlanks s) :
    IsWord isAsciiBlank t :=
  isWord_of_mem_words h

theorem splitBlanks_intercalate {list : List String} (h : ∀ t ∈ list, IsWord isBlank t) :
    splitBlanks (String.intercalate " " list) = list :=
  words_intercalate (by decide) h

theorem splitAsciiBlanks_intercalate {list : List String} (h : ∀ t ∈ list, IsWord isAsciiBlank t) :
    splitAsciiBlanks (String.intercalate " " list) = list :=
  words_intercalate (by decide) h

/-- The text of some words is empty exactly if there are none. -/
theorem isEmpty_intercalate {list : List String} (h : ∀ t ∈ list, IsWord isAsciiBlank t) :
    (String.intercalate " " list).isEmpty = list.isEmpty := by
  rw [Bool.eq_iff_iff, String.isEmpty_iff, List.isEmpty_iff]
  constructor
  · intro hnone
    rw [← splitAsciiBlanks_intercalate h, hnone]
    rfl
  · rintro rfl
    rfl

/-- Some words that are put together are no blank text. -/
theorem isBlankText_intercalate {list : List String} (hne : list ≠ [])
    (h : ∀ t ∈ list, IsWord isBlank t) : isBlankText (String.intercalate " " list) = false := by
  cases hblank : isBlankText (String.intercalate " " list) with
  | false => rfl
  | true =>
    have hnone : words isBlank (String.intercalate " " list).toList = [] :=
      (words_eq_nil_iff _ _).mpr (List.all_eq_true.mp hblank)
    have hsplit := splitBlanks_intercalate h
    rw [splitBlanks, hnone] at hsplit
    exact absurd hsplit.symm hne

/-- A piece has no characters of its own. -/
theorem mem_of_mem_pieces {sep : Char → Bool} {s q : List Char} {c : Char} (h : q ∈ pieces sep s) (hc : c ∈ q) :
    c ∈ s := by
  induction s generalizing q with
  | nil =>
    rw [pieces, List.mem_singleton] at h
    exact h ▸ hc
  | cons d s ih =>
    obtain ⟨r, rs, hs⟩ := List.exists_cons_of_ne_nil (pieces_ne_nil sep s)
    rw [pieces, hs] at h
    rw [hs] at ih
    cases hd : sep d with
    | true =>
      rw [hd, if_pos rfl, List.mem_cons] at h
      rcases h with rfl | h
      · exact absurd hc List.not_mem_nil
      · exact List.mem_cons_of_mem _ (ih h hc)
    | false =>
      rw [hd, if_neg Bool.false_ne_true, List.mem_cons] at h
      rcases h with rfl | h
      · exact List.mem_cons.mpr ((List.mem_cons.mp hc).imp_right (ih List.mem_cons_self))
      · exact List.mem_cons_of_mem _ (ih (List.mem_cons_of_mem _ h) hc)

theorem mem_of_mem_splitAsciiBlanks {s t : String} {c : Char} (h : t ∈ splitAsciiBlanks s) (hc : c ∈ t.toList) :
    c ∈ s.toList := by
  obtain ⟨q, hq, rfl⟩ := List.mem_map.mp h
  rw [String.toList_ofList] at hc
  exact mem_of_mem_pieces (List.mem_filter.mp hq).1 hc

/-! ## Cutting in two -/

theorem cutAt_append {mark : Char} {head : List Char} (h : mark ∉ head) (rest : List Char) :
    cutAt mark (head ++ mark :: rest) = some (head, rest) := by
  induction head with
  | nil => simp [cutAt]
  | cons c head ih =>
    obtain ⟨hc, hhead⟩ := List.ne_and_not_mem_of_not_mem_cons h
    rw [List.cons_append, cutAt, if_neg (by simpa using Ne.symm hc), ih hhead, Option.map_some]

theorem eq_append_of_cutAt {mark : Char} {s head rest : List Char} (h : cutAt mark s = some (head, rest)) :
    s = head ++ mark :: rest ∧ mark ∉ head := by
  induction s generalizing head with
  | nil => cases h
  | cons c s ih =>
    rw [cutAt] at h
    by_cases hc : c = mark
    · rw [if_pos (by simpa using hc)] at h
      cases h
      exact ⟨by rw [hc, List.nil_append], List.not_mem_nil⟩
    · rw [if_neg (by simpa using hc)] at h
      obtain ⟨⟨tail, rest'⟩, htail, heq⟩ := Option.map_eq_some_iff.mp h
      cases heq
      obtain ⟨rfl, hmark⟩ := ih htail
      exact ⟨rfl, List.not_mem_cons_of_ne_of_not_mem (Ne.symm hc) hmark⟩

/-! ## Trimming -/

theorem dropWhile_isBlank {s : List Char} (hhead : ∀ c ∈ s.head?, isBlank c = false) :
    s.dropWhile isBlank = s := by
  cases s with
  | nil => rfl
  | cons c s => rw [List.dropWhile_cons, hhead c rfl, if_neg Bool.false_ne_true]

/-- A text with no blank at its ends is left as it is. -/
theorem trimChars_eq_self {s : List Char} (hhead : ∀ c ∈ s.head?, isBlank c = false)
    (hlast : ∀ c ∈ s.getLast?, isBlank c = false) : trimChars s = s := by
  have hback : s.reverse.dropWhile isBlank = s.reverse :=
    dropWhile_isBlank (by rwa [List.head?_reverse])
  rw [trimChars, trimStart, dropWhile_isBlank hhead, trimEnd, hback, List.reverse_reverse]

theorem trimEnd_concat {c : Char} (h : isBlank c = false) (s : List Char) : trimEnd (s ++ [c]) = s ++ [c] := by
  simp [trimEnd, h]

theorem trimEnd_concat_blank {c : Char} (h : isBlank c = true) (s : List Char) :
    trimEnd (s ++ [c]) = trimEnd s := by
  simp [trimEnd, h]

theorem trimEnd_prefix (s : List Char) : trimEnd s <+: s := by
  have hsuffix := List.dropWhile_suffix (l := s.reverse) isBlank
  rw [← List.reverse_prefix, List.reverse_reverse] at hsuffix
  exact hsuffix

/-- Behind a text with no blank at its ends, another one is trimmed at its end only. -/
theorem trimChars_append {s t : List Char} (hhead : ∀ c ∈ (s ++ t).head?, isBlank c = false)
    (hlast : ∀ c ∈ s.getLast?, isBlank c = false) : trimChars (s ++ t) = s ++ trimEnd t := by
  have hback : s.reverse.dropWhile isBlank = s.reverse := dropWhile_isBlank (by rwa [List.head?_reverse])
  rw [trimChars, trimStart, dropWhile_isBlank hhead, trimEnd, List.reverse_append, List.dropWhile_append]
  split
  · next h =>
    have hnil : t.reverse.dropWhile isBlank = [] := by simpa using h
    rw [hback, List.reverse_reverse, trimEnd, hnil, List.reverse_nil, List.append_nil]
  · rw [List.reverse_append, List.reverse_reverse, trimEnd]

theorem isBlank_of_mem_head?_trimChars {s : List Char} {c : Char} (h : c ∈ (trimChars s).head?) : isBlank c = false := by
  -- the first character is the first that is left when the blanks at the start are gone
  obtain ⟨t, ht⟩ : trimChars s <+: s.dropWhile isBlank := trimEnd_prefix (trimStart s)
  have hnot := List.head?_dropWhile_not isBlank s
  rw [← ht, List.head?_append, h] at hnot
  exact hnot

theorem isBlank_of_mem_getLast?_trimChars {s : List Char} {c : Char} (h : c ∈ (trimChars s).getLast?) :
    isBlank c = false := by
  rw [trimChars, trimEnd, List.getLast?_reverse] at h
  have hnot := List.head?_dropWhile_not isBlank (trimStart s).reverse
  rw [h] at hnot
  exact hnot

/-- What is left of a text has no blank at its ends. -/
theorem trimChars_trimChars (s : List Char) : trimChars (trimChars s) = trimChars s :=
  trimChars_eq_self (fun _ hc => isBlank_of_mem_head?_trimChars hc)
    fun _ hc => isBlank_of_mem_getLast?_trimChars hc

theorem countP_dropWhile_isBlank (s : List Char) :
    (s.dropWhile isBlank).countP (!isBlank ·) = s.countP (!isBlank ·) := by
  induction s with
  | nil => rfl
  | cons c s ih =>
    rw [List.dropWhile_cons, List.countP_cons]
    split
    · next h => rw [ih, h]; rfl
    · rw [List.countP_cons]

/-- Trimming takes away nothing but blanks. -/
theorem countP_trimChars (s : List Char) : (trimChars s).countP (!isBlank ·) = s.countP (!isBlank ·) := by
  rw [trimChars, trimEnd, List.countP_reverse, countP_dropWhile_isBlank, List.countP_reverse, trimStart,
    countP_dropWhile_isBlank]

/-- Of two characters that are left of a text, the first and the last are no blanks. -/
theorem two_le_length_trim_iff (s : String) :
    2 ≤ (trim s).length ↔ 2 ≤ s.toList.countP (!isBlank ·) := by
  rw [trim, String.length_ofList, ← countP_trimChars]
  refine ⟨fun h => ?_, fun h => Nat.le_trans h List.countP_le_length⟩
  match hs : trimChars s.toList, h with
  | c :: d :: rest, _ =>
    have hfirst : isBlank c = false := isBlank_of_mem_head?_trimChars (s := s.toList) (by rw [hs]; rfl)
    obtain ⟨init, last, heq⟩ : ∃ init last, d :: rest = init ++ [last] :=
      ⟨_, _, (List.dropLast_concat_getLast (List.cons_ne_nil d rest)).symm⟩
    have hlast : isBlank last = false :=
      isBlank_of_mem_getLast?_trimChars (s := s.toList) (by rw [hs, heq]; simp [List.getLast?_cons])
    rw [heq, List.countP_cons, List.countP_append, List.countP_singleton, hfirst, hlast]
    simp

/-- Blanks at the start do not count. -/
theorem trimChars_append_left {lead : List Char} (h : ∀ c ∈ lead, isBlank c = true) (s : List Char) :
    trimChars (lead ++ s) = trimChars s := by
  rw [trimChars, trimStart, List.dropWhile_append_of_pos h, trimChars, trimStart]

theorem trimEnd_of_blank {trail : List Char} (h : ∀ c ∈ trail, isBlank c = true) : trimEnd trail = [] := by
  rw [trimEnd, ← List.append_nil trail.reverse,
    List.dropWhile_append_of_pos fun c hc => h c (List.mem_reverse.mp hc)]
  rfl

/-- Blanks at the end do not count. -/
theorem trimChars_append_right {trail : List Char} (h : ∀ c ∈ trail, isBlank c = true) (s : List Char) :
    trimChars (s ++ trail) = trimChars s := by
  have hend : ∀ t, trimEnd (t ++ trail) = trimEnd t := by
    intro t
    rw [trimEnd, List.reverse_append, List.dropWhile_append_of_pos fun c hc => h c (List.mem_reverse.mp hc), trimEnd]
  rw [trimChars, trimChars, trimStart, List.dropWhile_append]
  split
  · next hnone =>
    -- nothing is left of the text itself, and what is left of the blanks goes at the end
    rw [trimStart, List.isEmpty_iff.mp hnone]
    exact trimEnd_of_blank fun c hc => h c ((List.dropWhile_suffix isBlank).subset hc)
  · exact hend _

theorem mem_of_mem_trimChars {s : List Char} {c : Char} (h : c ∈ trimChars s) : c ∈ s := by
  have hpart : trimChars s <+: trimStart s := trimEnd_prefix (trimStart s)
  exact (List.dropWhile_suffix isBlank).subset (hpart.subset h)

theorem trim_of_isWord {t : String} (h : IsWord isBlank t) : trim t = t := by
  rw [trim, trimChars_eq_self, String.ofList_toList]
  · exact fun c hc => h.2 c (List.mem_of_mem_head? hc)
  · exact fun c hc => h.2 c (List.mem_of_mem_getLast? hc)

end PageEdit.Text
