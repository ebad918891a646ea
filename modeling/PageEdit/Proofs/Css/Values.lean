import PageEdit.Proofs.Css.Declarations

/-!
# Values that hide no semicolon

A semicolon behind a text belongs to what stands before it if a string, an address, a comment, a block or an escape
is open there. A text with no quote, opening bracket, backslash or star opens none of them, and if it has no semicolon
of its own either, CSS takes it for one part of a style.

* `isValueChar`: the characters of such texts.
* `leaves_next`: a token of such a text leaves the end of it, and the semicolon.
* `isWhole_of_isValueChar`: such texts are whole.
-/

namespace PageEdit.Css

open Lexer

variable {c : Char} {a b s : List Char}

/-- The semicolon, and characters that strings, blocks, escapes and comments do not begin without. -/
def hidingChars : List Char := ['"', '\'', '(', '[', '\x7b', ';', '\\', '*']

/-- Whether a character is none of these. -/
def isValueChar (c : Char) : Bool := !hidingChars.contains c

/-- Whether a token is no semicolon and opens no block. -/
structure Token.IsPlain (t : Token) : Prop where
  opens : t.closer? = none
  mark : Tree.isSemicolon (.leaf t) = false

theorem not_mem_of_isValueChar (h : ∀ c ∈ a, isValueChar c = true) {d : Char} (hd : d ∈ hidingChars) : d ∉ a := by
  intro hmem
  have hvalue := h d hmem
  rw [isValueChar, List.contains_iff_mem.mpr hd] at hvalue
  cases hvalue

/-! ## Readers -/

/-- Whether a reader that finds a semicolon behind a text leaves the end of the text and the semicolon, and what it
makes of the rest is good. -/
def Leaves {α : Type} (f : List Char → α × List Char) (a : List Char) (good : α → Prop) : Prop :=
  ∃ out b, good out ∧ b <:+ a ∧ f (a ++ [';']) = (out, b ++ [';'])

section

variable {α β : Type} {f : List Char → α × List Char} {g : List Char → β × List Char} {good : α → Prop}

/-- A reader leaves what another one does that it hands the rest of the text to. -/
theorem Leaves.of_eq (made : β → α) (h : Leaves g b fun out => good (made out)) (hb : b <:+ a)
    (heq : f (a ++ [';']) = (made (g (b ++ [';'])).1, (g (b ++ [';'])).2)) : Leaves f a good := by
  obtain ⟨out, left, hgood, hleft, hread⟩ := h
  exact ⟨made out, left, hgood, hleft.trans hb, by rw [heq, hread]⟩

end

theorem leaves_readName {good : List Char → Prop} (h : '\\' ∉ a) (hgood : ∀ cs, good cs) :
    Leaves (readName .none) a good := by
  induction a generalizing good with
  | nil => exact ⟨[], [], hgood _, List.suffix_rfl, readName_stop [] (by decide) (by decide) (by decide)⟩
  | cons c a ih =>
    obtain ⟨hslash, hrest⟩ := List.ne_and_not_mem_of_not_mem_cons h
    have hnot : (c == '\\' && !startsNewline (a ++ [';'])) = false := by simp [Ne.symm hslash]
    by_cases hname : (continuesName c || c == '\x00') = true
    · refine .of_eq ((if c == '\x00' then '\uFFFD' else c) :: ·) (ih hrest fun _ => hgood _) (List.suffix_cons _ _) ?_
      rw [List.cons_append, readName]
      simp only [Escape.feed, hnot, if_pos hname, Bool.false_eq_true, if_false]
      rfl
    · refine ⟨[], c :: a, hgood _, List.suffix_rfl, ?_⟩
      rw [List.cons_append, readName]
      simp only [Escape.feed, hnot, if_neg hname, Bool.false_eq_true, if_false]

theorem leaves_name {good : String → Prop} (h : '\\' ∉ a) (hgood : ∀ n, good n) : Leaves name a good :=
  .of_eq String.ofList (leaves_readName h fun _ => hgood _) List.suffix_rfl rfl

theorem leaves_identToken (hslash : '\\' ∉ a) (hopen : '(' ∉ a) : Leaves identToken a Token.IsPlain := by
  obtain ⟨n, b, -, hb, hread⟩ := leaves_name hslash fun _ => trivial
  refine ⟨.ident n, b, ⟨rfl, rfl⟩, hb, identToken_of_name hread fun hhead => ?_⟩
  obtain ⟨rest, hrest⟩ := List.head?_eq_some_iff.mp hhead
  cases b with
  | nil => exact absurd hrest (by simp)
  | cons d b =>
    obtain rfl : d = '(' := (List.cons.inj hrest).1
    exact hopen (hb.subset List.mem_cons_self)

theorem leaves_withUnit (signed : Bool) (value : Float) (int? : Option Int) (hslash : '\\' ∉ a) :
    Leaves (withUnit signed value int?) a Token.IsPlain := by
  by_cases hpercent : a.head? = some '%'
  · obtain ⟨rest, rfl⟩ := List.head?_eq_some_iff.mp hpercent
    exact ⟨_, rest, ⟨rfl, rfl⟩, List.suffix_cons _ _, rfl⟩
  have hread : withUnit signed value int? (a ++ [';']) = if startsIdent (a ++ [';']) then
      (.dimension ⟨signed, value.toFloat32, int?⟩ (name (a ++ [';'])).1, (name (a ++ [';'])).2)
      else (.number ⟨signed, value.toFloat32, int?⟩, a ++ [';']) := by
    rw [withUnit]
    intro rest heq
    cases a with
    | nil => exact absurd heq (by simp)
    | cons c a => exact hpercent (congrArg some (List.cons.inj heq).1)
  by_cases hident : startsIdent (a ++ [';']) = true
  · exact .of_eq (.dimension ⟨signed, value.toFloat32, int?⟩) (leaves_name hslash fun _ => ⟨rfl, rfl⟩) List.suffix_rfl
      (hread.trans (if_pos hident))
  · exact ⟨_, a, ⟨rfl, rfl⟩, List.suffix_rfl, hread.trans (if_neg hident)⟩

theorem leaves_numberToken (hslash : '\\' ∉ a) : Leaves numberToken a Token.IsPlain := by
  obtain ⟨signed, value, int?, b, hb, hread⟩ := exists_numberToken_append a
  exact .of_eq id (leaves_withUnit signed value int? fun hmem => hslash (hb.subset hmem)) hb
    (hread _ (ends_semicolon []))

/-! ## Tokens -/

/-- Whether a token has been read, and it is no semicolon and opens no block. -/
def IsPlainToken (t? : Option Token) : Prop := ∃ t, t? = some t ∧ t.IsPlain

theorem isPlain_of_single? {t : Token} (h : single? c = some t) (hc : c ∉ hidingChars) : t.IsPlain := by
  unfold single? at h
  split at h <;> cases h <;> first | exact ⟨rfl, rfl⟩ | exact absurd (by decide) hc

theorem isPlain_of_operator? {t : Token} (h : operator? c = some t) : t.IsPlain := by
  unfold operator? at h
  split at h <;> cases h <;> exact ⟨rfl, rfl⟩

/-- A reader that is handed the first character as well takes that character at least. -/
theorem leaves_of_cons {f : List Char → Token × List Char} (h : Leaves f (c :: s) Token.IsPlain)
    (hlen : (f (c :: (s ++ [';']))).2.length ≤ (s ++ [';']).length) :
    Leaves (fun s => (some (f (c :: s)).1, (f (c :: s)).2)) s IsPlainToken := by
  obtain ⟨t, b, ht, hb, hread⟩ := h
  rw [List.cons_append] at hread
  have hleft : b <:+ s := by
    refine (List.suffix_cons_iff.mp hb).resolve_left fun heq => ?_
    rw [hread, heq, List.length_append, List.length_append, List.length_cons] at hlen
    omega
  refine ⟨some t, b, ⟨t, rfl, ht⟩, hleft, ?_⟩
  dsimp only
  rw [hread]

theorem leaves_hashToken (hslash : '\\' ∉ a) : Leaves hashToken a IsPlainToken := by
  by_cases hident : startsIdent (a ++ [';']) = true
  · exact .of_eq (fun n => some (.idHash n)) (leaves_name hslash fun _ => ⟨_, rfl, rfl, rfl⟩) List.suffix_rfl
      (if_pos hident)
  by_cases hname : ((a ++ [';']).head?.any fun d => d.isDigit || d == '-') = true
  · exact .of_eq (fun n => some (.hash n)) (leaves_name hslash fun _ => ⟨_, rfl, rfl, rfl⟩) List.suffix_rfl
      ((if_neg hident).trans (if_pos hname))
  · exact ⟨some (.delim '#'), a, ⟨_, rfl, rfl, rfl⟩, List.suffix_rfl, (if_neg hident).trans (if_neg hname)⟩

theorem leaves_plainToken (hslash : '\\' ∉ c :: s) (hopen : '(' ∉ c :: s) : Leaves (plainToken c) s IsPlainToken := by
  by_cases hident : startsIdent (c :: (s ++ [';'])) = true
  · have hlen := Nat.le_trans (length_identToken_le _) (length_name_le_of_startsIdent hident)
    exact .of_eq id (leaves_of_cons (leaves_identToken hslash hopen) hlen) List.suffix_rfl (if_pos hident)
  · exact ⟨some (.delim c), s, ⟨_, rfl, rfl, rfl⟩, List.suffix_rfl, if_neg hident⟩

theorem leaves_otherToken (h : ∀ d ∈ c :: s, isValueChar d = true) : Leaves (otherToken c) s IsPlainToken := by
  have hnot := fun d (hd : d ∈ hidingChars) => not_mem_of_isValueChar h hd
  have hend := ends_semicolon []
  by_cases hclose : c = '-' ∧ ['-', '>'] <+: s
  · obtain ⟨rfl, rest, rfl⟩ := hclose
    exact ⟨some .closeComment, rest, ⟨_, rfl, rfl, rfl⟩, ⟨['-', '>'], rfl⟩, rfl⟩
  by_cases hopen : c = '<' ∧ ['!', '-', '-'] <+: s
  · obtain ⟨rfl, rest, rfl⟩ := hopen
    exact ⟨some .openComment, rest, ⟨_, rfl, rfl, rfl⟩, ⟨['!', '-', '-'], rfl⟩, rfl⟩
  by_cases hat : c = '@'
  · subst hat
    have hslash : '\\' ∉ s := fun hmem => hnot '\\' (by decide) (List.mem_cons_of_mem _ hmem)
    by_cases hident : startsIdent (s ++ [';']) = true
    · exact .of_eq (fun n => some (.atKeyword n)) (leaves_name hslash fun _ => ⟨_, rfl, rfl, rfl⟩) List.suffix_rfl
        (if_pos hident)
    · exact ⟨some (.delim '@'), s, ⟨_, rfl, rfl, rfl⟩, List.suffix_rfl, if_neg hident⟩
  · refine .of_eq id (leaves_plainToken (hnot _ (by decide)) (hnot _ (by decide))) List.suffix_rfl ?_
    refine otherToken_of_plain (fun _ hstar => ?_) (fun hc hmore => ?_) (fun hc hmore => ?_) hat
    · have hmem := ((prefix_append_iff (by decide) hend s).mp hstar).subset List.mem_cons_self
      exact hnot '*' (by decide) (List.mem_cons_of_mem _ hmem)
    · exact hclose ⟨hc, (prefix_append_iff (by decide) hend s).mp hmore⟩
    · exact hopen ⟨hc, (prefix_append_iff (by decide) hend s).mp hmore⟩

/-- A token of a text that hides no semicolon leaves the end of the text, and the semicolon. -/
theorem leaves_next (h : ∀ d ∈ c :: s, isValueChar d = true) : Leaves (next c) s IsPlainToken := by
  have hnot := fun d (hd : d ∈ hidingChars) => not_mem_of_isValueChar h hd
  have hend := ends_semicolon []
  have hslash : '\\' ∉ s := fun hmem => hnot '\\' (by decide) (List.mem_cons_of_mem _ hmem)
  have hne : ∀ d ∈ hidingChars, c ≠ d := by
    rintro d hd rfl
    exact hnot c hd List.mem_cons_self
  by_cases hblank : isBlank c = true
  · refine ⟨some (.blank (String.ofList ((c :: (s ++ [';'])).takeWhile isBlank))), s.dropWhile isBlank,
      ⟨_, rfl, rfl, rfl⟩, List.dropWhile_suffix _, ?_⟩
    unfold next
    rw [if_pos hblank, dropWhile_append_ends (by decide) hend]
  cases hsingle : single? c with
  | some t =>
    have hc : c ∉ hidingChars := fun hc => hne c hc rfl
    refine ⟨some t, s, ⟨t, rfl, isPlain_of_single? hsingle hc⟩, List.suffix_rfl, ?_⟩
    unfold next
    simp only [if_neg hblank, hsingle]
  | none =>
  have hquote : ¬ (c == '"' || c == '\'') = true := by
    simpa using ⟨hne '"' (by decide), hne '\'' (by decide)⟩
  by_cases hhash : (c == '#') = true
  · obtain rfl : c = '#' := by simpa using hhash
    exact .of_eq id (leaves_hashToken hslash) List.suffix_rfl (next_hash_eq _)
  by_cases hnumber : startsNumber (c :: (s ++ [';'])) = true
  · have hlen := length_numberToken_le_of_startsNumber hnumber
    refine .of_eq id (leaves_of_cons (leaves_numberToken (hnot _ (by decide))) hlen) List.suffix_rfl ?_
    unfold next
    simp only [if_neg hblank, hsingle, if_neg hquote, if_neg hhash, if_pos hnumber]
    rfl
  by_cases hequals : (operator? c).isSome = true ∧ ['='] <+: s
  · obtain ⟨hop, rest, rfl⟩ := hequals
    obtain ⟨t, ht⟩ := Option.isSome_iff_exists.mp hop
    refine ⟨some t, rest, ⟨t, rfl, isPlain_of_operator? ht⟩, List.suffix_cons _ _, ?_⟩
    have hstarts : ¬ startsNumber (c :: (['='] ++ rest ++ [';'])) = true := hnumber
    unfold next
    simp only [if_neg hblank, hsingle, if_neg hquote, if_neg hhash, if_neg hstarts, ht]
    rfl
  · refine .of_eq id (leaves_otherToken h) List.suffix_rfl ?_
    refine next_eq_otherToken hblank hsingle hquote hhash hnumber fun hop hmore => ?_
    exact hequals ⟨hop, (prefix_append_iff (by decide) hend s).mp hmore⟩

/-! ## Whole texts -/

/-- A text that hides no semicolon is whole. -/
theorem isWhole_of_isValueChar (h : ∀ c ∈ a, isValueChar c = true) : isWhole a = true := by
  generalize hlength : a.length = n
  induction n using Nat.strongRecOn generalizing a with
  | ind n ih =>
    cases a with
    | nil => rfl
    | cons c s =>
      obtain ⟨t?, b, ⟨t, rfl, ht⟩, hb, hnext⟩ := leaves_next h
      have hshort : b.length < n := by
        have hlen := hb.length_le
        rw [← hlength, List.length_cons]
        omega
      have hrest : isWhole b = true := ih b.length hshort (fun d hd => h d (List.mem_cons_of_mem _ (hb.subset hd))) rfl
      exact isWhole_cons hnext ht.opens ht.mark hrest

end PageEdit.Css
