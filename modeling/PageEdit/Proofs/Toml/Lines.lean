import Mathlib.Data.List.TakeWhile
import PageEdit.Toml.Reader

/-!
# Lines of TOML

What plain lines are read as: headers and assignments with a bare key, where the value is a word. Such lines
are read one by one, whatever lines stand behind them.

* `scalar?_toString`: a number less than `2^63` is read from its decimal digits.
* `Reads.header`, `Reads.assignment`: one line more gives one statement more.
* `Value.ofText?_of_reads`: the document of a text is that of its statements.
-/

namespace PageEdit.Toml

/-- Characters differ if they differ in some respect. -/
theorem ne_of_holds {p : Char → Bool} {c d : Char} (hc : p c = true) (hd : p d = false) : c ≠ d := by
  rintro rfl
  exact Bool.noConfusion (hc.symm.trans hd)

/-! ## Decimal numbers -/

theorem digitOf?_of_isDigit {c : Char} (h : c.isDigit = true) :
    digitOf? c = some (c.toNat - '0'.toNat) ∧ c.toNat - '0'.toNat < 10 := by
  have hc : '0' ≤ c ∧ c ≤ '9' := by
    simpa [Char.isDigit, Char.le_def] using h
  refine ⟨by simp [digitOf?, hc], ?_⟩
  have hle : c.toNat ≤ '9'.toNat := hc.2
  have hnine : '9'.toNat = '0'.toNat + 9 := rfl
  omega

theorem isDigit_of_charIsDigit {c : Char} (h : c.isDigit = true) : isDigit c = true := by
  obtain ⟨hdigit, hlt⟩ := digitOf?_of_isDigit h
  simpa only [isDigit, isDigitTo, hdigit, Option.any_some] using decide_eq_true hlt

section

variable {s : List Char}

theorem spelled_eq_ofDigitChars (h : ∀ c ∈ s, c.isDigit = true) :
    spelled 10 s = Nat.ofDigitChars 10 s 0 := by
  unfold spelled
  rw [Nat.ofDigitChars_eq_foldl]
  generalize 0 = n
  induction s generalizing n with
  | nil => rfl
  | cons c s ih =>
    obtain ⟨hc, hs⟩ := List.forall_mem_cons.mp h
    simp only [List.foldl_cons, (digitOf?_of_isDigit hc).1, Nat.mul_comm n 10]
    exact ih hs _

variable (h : ∀ c ∈ s, isDigit c = true)

include h

theorem notMem_of_digits {c : Char} (hc : isDigit c = false) : c ∉ s := fun hmem =>
  ne_of_holds (h c hmem) hc rfl

theorem isDigitRun_of_digits (hne : s ≠ []) : isDigitRun 10 s = true := by
  induction s with
  | nil => exact absurd rfl hne
  | cons c s ih =>
    obtain ⟨hc, hs⟩ := List.forall_mem_cons.mp h
    unfold isDigitRun
    split
    · contradiction
    · rename_i heq
      cases heq
      exact hc
    · rename_i heq
      cases heq
      exact absurd List.mem_cons_self (notMem_of_digits hs (c := '_') (by decide))
    · rename_i hsingle _ heq
      cases heq
      rw [ih hs (fun hnil => hsingle (by rw [hnil])), Bool.and_true]
      exact hc

theorem unsigned_of_digits : unsigned s = (false, s) := by
  unfold unsigned
  split
  · exact absurd List.mem_cons_self (notMem_of_digits h (c := '-') (by decide))
  · exact absurd List.mem_cons_self (notMem_of_digits h (c := '+') (by decide))
  · rfl

/-- A date has a dash. -/
theorem afterDate?_of_digits : afterDate? s = none := by
  unfold afterDate?
  split
  · exact absurd (by simp) (notMem_of_digits h (c := '-') (by decide))
  · rfl

/-- A time of day has a colon. -/
theorem afterMinutes?_of_digits : afterMinutes? s = none := by
  unfold afterMinutes?
  split
  · exact absurd (by simp) (notMem_of_digits h (c := ':') (by decide))
  · rfl

theorem isMoment_of_digits : isMoment s = false := by
  simp [isMoment, isTime, afterTime?, afterDate?_of_digits h, afterMinutes?_of_digits h]

theorem ne_of_digits {t : List Char} (c : Char) (hmem : c ∈ t) (hc : isDigit c = false) : s ≠ t := by
  rintro rfl
  exact notMem_of_digits h hc hmem

theorem special?_of_digits : special? s = none := by
  have hinf : s ≠ ['i', 'n', 'f'] := ne_of_digits h 'n' (by simp) (by decide)
  have hnan : s ≠ ['n', 'a', 'n'] := ne_of_digits h 'n' (by simp) (by decide)
  simp [special?, unsigned_of_digits h, hinf, hnan]

/-- A float has a point or an exponent. -/
theorem float?_of_digits : float? s = none := by
  have hall : ∀ c ∈ s, (isDigit c || c == '_') = true := fun c hc => by rw [h c hc, Bool.true_or]
  have hsplit : splitFloat s = (s, []) := by
    simp only [splitFloat, List.takeWhile_eq_self_iff.mpr hall, List.dropWhile_eq_nil_iff.mpr hall]
  simp [float?, unsigned_of_digits h, hsplit]

/-- The mark of a base is a letter. -/
theorem markedInteger?_of_digits : markedInteger? s = none := by
  unfold markedInteger?
  split
  · exact absurd (by simp) (notMem_of_digits h (c := 'x') (by decide))
  · exact absurd (by simp) (notMem_of_digits h (c := 'o') (by decide))
  · exact absurd (by simp) (notMem_of_digits h (c := 'b') (by decide))
  · rfl

theorem scalar?_of_digits (hplain : isPlainDecimal s = true) : scalar? s = small? (spelled 10 s) := by
  have htrue : s ≠ ['t', 'r', 'u', 'e'] := ne_of_digits h 'e' (by simp) (by decide)
  have hfalse : s ≠ ['f', 'a', 'l', 's', 'e'] := ne_of_digits h 'e' (by simp) (by decide)
  simp [scalar?, htrue, hfalse, isMoment_of_digits h, special?_of_digits h,
    float?_of_digits h, markedInteger?_of_digits h, decimalInteger?, unsigned_of_digits h, hplain]

end

theorem isDigit_of_mem_toDigits {n : Nat} {c : Char} (h : c ∈ Nat.toDigits 10 n) : isDigit c = true :=
  isDigit_of_charIsDigit (Nat.isDigit_of_mem_toDigits (by omega) (by omega) h)

theorem head?_toDigits {n : Nat} (h : 0 < n) : (Nat.toDigits 10 n).head? ≠ some '0' := by
  induction n using Nat.strongRecOn with
  | ind n ih =>
    rcases Nat.lt_or_ge n 10 with hlt | hge
    · rw [Nat.toDigits_of_lt_base hlt]
      exact (by decide : ∀ d < 10, 0 < d → [d.digitChar].head? ≠ some '0') n hlt h
    · rw [Nat.toDigits_of_base_le (by omega) hge, List.head?_append,
        Option.or_of_isSome (List.isSome_head?.mpr Nat.toDigits_ne_nil)]
      exact ih (n / 10) (by omega) (by omega)

/-- A number has no leading zero. -/
theorem isPlainDecimal_toDigits (n : Nat) : isPlainDecimal (Nat.toDigits 10 n) = true := by
  rw [isPlainDecimal, isDigitRun_of_digits (fun _ => isDigit_of_mem_toDigits) Nat.toDigits_ne_nil,
    Bool.true_and]
  rcases Nat.eq_zero_or_pos n with rfl | hpos
  · rfl
  · simp [head?_toDigits hpos]

theorem scalar?_toString {n : Nat} (h : n < Nat.pow 2 63) :
    scalar? (toString n).toList = some (.integer n) := by
  have hdigits : ∀ c ∈ Nat.toDigits 10 n, c.isDigit = true := fun c =>
    Nat.isDigit_of_mem_toDigits (by omega) (by omega)
  rw [Nat.toString_eq_repr, Nat.toList_repr,
    scalar?_of_digits (fun _ => isDigit_of_mem_toDigits) (isPlainDecimal_toDigits n),
    spelled_eq_ofDigitChars hdigits, Nat.ofDigitChars_toDigits (by omega) (by omega), small?, if_pos]
  exact h

/-! ## Keys and words -/

section

variable {p : Char → Bool} {s rest : List Char} (h : ∀ c ∈ s, p c = true)
  (hrest : ∀ c ∈ rest.head?, p c = false)

include h hrest

theorem takeWhile_append_stop : (s ++ rest).takeWhile p = s := by
  rw [List.takeWhile_append_of_pos h]
  cases rest with
  | nil => exact List.append_nil s
  | cons c rest => simp [hrest c rfl]

theorem dropWhile_append_stop : (s ++ rest).dropWhile p = rest := by
  rw [List.dropWhile_append_of_pos h]
  cases rest with
  | nil => rfl
  | cons c rest => simp [hrest c rfl]

end

/-- Blanks are skipped up to a character that is none. -/
theorem skipBlanks_of_head {c : Char} {s : List Char} (h : isBlank c = false) :
    skipBlanks (c :: s) = c :: s :=
  List.dropWhile_cons_of_neg (by simp [h])

/-- A key that needs no quotes. -/
def IsBareKey (key : String) : Prop := key.toList ≠ [] ∧ key.toList.all isKeyChar = true

instance (key : String) : Decidable (IsBareKey key) := inferInstanceAs (Decidable (_ ∧ _))

/-- A word that stands for a value. -/
structure IsWord (word : String) (v : Value) : Prop where
  chars : word.toList.all isScalarChar = true
  means : scalar? word.toList = some v

theorem isWord_toString {n : Nat} (h : n < Nat.pow 2 63) : IsWord (toString n) (.integer n) where
  chars := by
    rw [Nat.toString_eq_repr, Nat.toList_repr, List.all_eq_true]
    exact fun c hc => by simp [isScalarChar, isKeyChar, isDigit_of_mem_toDigits hc]
  means := scalar?_toString h

section

variable {key : String} (hkey : IsBareKey key) {rest : List Char}

include hkey

theorem exists_first_of_isBareKey :
    ∃ c s, key.toList = c :: s ∧ isKeyChar c = true ∧ isBlank c = false := by
  obtain ⟨c, s, hcs⟩ := List.exists_cons_of_ne_nil hkey.1
  have hc : isKeyChar c = true := List.all_eq_true.mp hkey.2 c (by simp [hcs])
  have hspace : c ≠ ' ' := ne_of_holds hc (by decide)
  have htab : c ≠ '\t' := ne_of_holds hc (by decide)
  exact ⟨c, s, hcs, hc, by simp [isBlank, hspace, htab]⟩

theorem readSimpleKey_of_bare (hrest : ∀ c ∈ rest.head?, isKeyChar c = false) :
    readSimpleKey (key.toList ++ rest) = some (key, rest) := by
  obtain ⟨c, s, hcs, hc, -⟩ := exists_first_of_isBareKey hkey
  have hall := List.all_eq_true.mp hkey.2
  unfold readSimpleKey
  split
  · rename_i heq
    rw [hcs] at heq
    cases heq
    exact absurd hc (by decide)
  · rename_i heq
    rw [hcs] at heq
    cases heq
    exact absurd hc (by decide)
  · rw [takeWhile_append_stop hall hrest, dropWhile_append_stop hall hrest]
    simp [hkey.1]

/-- A bare key without a dot behind it is a key without a path. -/
theorem readKey_of_bare (hrest : ∀ c ∈ rest.head?, isKeyChar c = false)
    (hdot : ∀ more, skipBlanks rest ≠ '.' :: more) :
    readKey (key.toList ++ rest) = some (([], key), skipBlanks rest) := by
  obtain ⟨c, s, hcs, -, hblank⟩ := exists_first_of_isBareKey hkey
  have hskip : skipBlanks (key.toList ++ rest) = key.toList ++ rest := by
    rw [hcs]
    exact skipBlanks_of_head hblank
  have hkeys : readKeys nestingLimit (key.toList ++ rest) = some ([key], skipBlanks rest) := by
    change readKeys (79 + 1) _ = _
    rw [readKeys, hskip, readSimpleKey_of_bare hkey hrest]
    simp
  rw [readKey, hkeys]
  rfl

end

theorem exists_first_of_isWord {word : String} {v : Value} (h : IsWord word v) :
    ∃ c s, word.toList = c :: s ∧ isScalarChar c = true := by
  obtain ⟨c, s, hcs⟩ : ∃ c s, word.toList = c :: s := by
    refine List.exists_cons_of_ne_nil fun hnil => ?_
    have hmeans := h.means
    rw [hnil, (by decide : scalar? [] = none)] at hmeans
    exact absurd hmeans nofun
  exact ⟨c, s, hcs, List.all_eq_true.mp h.chars c (by simp [hcs])⟩

/-- A word up to the end of its line. -/
theorem readValue_of_word {word : String} {v : Value} (h : IsWord word v) (fuel depth : Nat)
    (rest : List Char) :
    readValue (fuel + 1) depth (word.toList ++ '\n' :: rest) = some (v, '\n' :: rest) := by
  have hall := List.all_eq_true.mp h.chars
  have hend : ∀ c ∈ ('\n' :: rest).head?, isScalarChar c = false := by simp; decide
  have hscalar : readScalar (word.toList ++ '\n' :: rest) = some (v, '\n' :: rest) := by
    unfold readScalar
    rw [takeWhile_append_stop hall hend, dropWhile_append_stop hall hend]
    simp [h.means]
  obtain ⟨c, s, hcs, hc⟩ := exists_first_of_isWord h
  rw [← hscalar, hcs, List.cons_append, readValue]
  all_goals
    intro _ heq
    cases heq
    exact absurd hc (by decide)

/-! ## Lines -/

/-- The header of a table. -/
def headerLine (key : String) : String := "[" ++ key ++ "]\n"

/-- The assignment of a word. -/
def valueLine (key word : String) : String := key ++ " = " ++ word ++ "\n"

/-- Where no gap begins, none is skipped. -/
theorem skipGaps_of_head {c : Char} {s : List Char} (hblank : isBlank c = false) (hend : c ≠ '\n')
    (hhash : c ≠ '#') : skipGaps false (c :: s) = c :: s := by
  simp [skipGaps, hblank, hend, hhash]

section

variable {key word : String} {v : Value} (hkey : IsBareKey key) (rest : List Char)

include hkey

theorem readHeader_headerLine :
    readHeader ((headerLine key).toList ++ rest) = some (.header [] key, rest) := by
  have hlist : (headerLine key).toList ++ rest = '[' :: (key.toList ++ ']' :: '\n' :: rest) := by
    simp [headerLine]
  have hread : readKey (key.toList ++ ']' :: '\n' :: rest) = some (([], key), ']' :: '\n' :: rest) :=
    readKey_of_bare hkey (by simp; decide) (by simp [skipBlanks, isBlank])
  obtain ⟨c, s, hcs, hc, -⟩ := exists_first_of_isBareKey hkey
  rw [hlist]
  unfold readHeader
  split
  · rename_i heq
    rw [hcs] at heq
    cases heq
    exact absurd hc (by decide)
  · rename_i heq
    cases heq
    rw [hread]
    rfl
  · rename_i hnot
    exact absurd rfl (hnot _)

theorem readAssignment_valueLine (hword : IsWord word v) :
    readAssignment ((valueLine key word).toList ++ rest) = some (.assign [] key v, rest) := by
  have hlist : (valueLine key word).toList ++ rest =
      key.toList ++ ' ' :: '=' :: ' ' :: (word.toList ++ '\n' :: rest) := by
    simp [valueLine]
  have hread : readKey (key.toList ++ ' ' :: '=' :: ' ' :: (word.toList ++ '\n' :: rest)) =
      some (([], key), '=' :: ' ' :: (word.toList ++ '\n' :: rest)) :=
    readKey_of_bare hkey (by simp; decide) (by simp [skipBlanks, isBlank])
  have hskip : skipBlanks (' ' :: (word.toList ++ '\n' :: rest)) = word.toList ++ '\n' :: rest := by
    obtain ⟨c, s, hcs, hc⟩ := exists_first_of_isWord hword
    have hspace : c ≠ ' ' := ne_of_holds hc (by decide)
    have htab : c ≠ '\t' := ne_of_holds hc (by decide)
    simp [skipBlanks, isBlank, hcs, hspace, htab]
  rw [hlist, readAssignment, hread]
  simp only [Option.bind_eq_bind, Option.bind_some, hskip, readValue_of_word hword]
  rfl

end

/-! ## Texts of several lines -/

/-- Whether a character is neither a part of a line end of two nor the mark of a byte order. -/
def isOrdinary (c : Char) : Bool := c != '\r' && c != '\uFEFF'

theorem isOrdinary_of_isScalarChar {c : Char} (h : isScalarChar c = true) : isOrdinary c = true := by
  have hreturn : c ≠ '\r' := ne_of_holds h (by decide)
  have hmark : c ≠ '\uFEFF' := ne_of_holds h (by decide)
  simp [isOrdinary, hreturn, hmark]

theorem all_isOrdinary {s : List Char} (h : s.all isScalarChar = true) : s.all isOrdinary = true :=
  List.all_eq_true.mpr fun c hc => isOrdinary_of_isScalarChar (List.all_eq_true.mp h c hc)

theorem IsBareKey.all_isOrdinary {key : String} (h : IsBareKey key) : key.toList.all isOrdinary = true :=
  Toml.all_isOrdinary <| List.all_eq_true.mpr fun c hc => by
    simp [isScalarChar, List.all_eq_true.mp h.2 c hc]

/-- A text is read as some statements, given fuel for its characters. -/
structure Reads (text : String) (statements : List Statement) : Prop where
  read : ∀ fuel, text.toList.length < fuel → readStatements fuel text.toList = some statements
  ordinary : text.toList.all isOrdinary = true

theorem reads_empty : Reads "" [] where
  read
    | 0, h => absurd h (Nat.not_lt_zero _)
    | _ + 1, _ => rfl
  ordinary := rfl

section

variable {text key word : String} {v : Value} {statements : List Statement}

/-- An empty line is no statement. -/
theorem Reads.lineEnd (h : Reads text statements) : Reads ("\n" ++ text) statements := by
  have hlist : ("\n" ++ text).toList = '\n' :: text.toList := by simp
  constructor
  case ordinary => simpa [hlist, isOrdinary] using h.ordinary
  rintro (_ | fuel) hfuel
  · exact absurd hfuel (Nat.not_lt_zero _)
  rw [hlist] at hfuel ⊢
  have hgap : skipGaps false ('\n' :: text.toList) = skipGaps false text.toList := by simp [skipGaps]
  rw [← h.read (fuel + 1) (by simp at hfuel; omega), readStatements, readStatements, hgap]

theorem Reads.header (hkey : IsBareKey key) (h : Reads text statements) :
    Reads (headerLine key ++ text) (.header [] key :: statements) := by
  constructor
  case ordinary =>
    simp only [headerLine, String.toList_append, List.all_append, hkey.all_isOrdinary, h.ordinary]
    decide
  rintro (_ | fuel) hfuel
  · exact absurd hfuel (Nat.not_lt_zero _)
  obtain ⟨line, hline⟩ : ∃ line, (headerLine key).toList = '[' :: line := by simp [headerLine]
  have hread := readHeader_headerLine hkey text.toList
  rw [String.toList_append] at hfuel ⊢
  rw [hline] at hread hfuel ⊢
  rw [List.cons_append] at hread ⊢
  have hrest := h.read fuel (by simp at hfuel; omega)
  rw [readStatements, skipGaps_of_head (by decide) (by decide) (by decide)]
  simp [hread, hrest]

theorem Reads.assignment (hkey : IsBareKey key) (hword : IsWord word v) (h : Reads text statements) :
    Reads (valueLine key word ++ text) (.assign [] key v :: statements) := by
  constructor
  case ordinary =>
    simp only [valueLine, String.toList_append, List.all_append, hkey.all_isOrdinary,
      all_isOrdinary hword.chars, h.ordinary]
    decide
  rintro (_ | fuel) hfuel
  · exact absurd hfuel (Nat.not_lt_zero _)
  obtain ⟨c, s, hcs, hc, hblank⟩ := exists_first_of_isBareKey hkey
  obtain ⟨line, hline⟩ : ∃ line, (valueLine key word).toList = c :: line := by simp [valueLine, hcs]
  have hread := readAssignment_valueLine hkey text.toList hword
  rw [String.toList_append] at hfuel ⊢
  rw [hline] at hread hfuel ⊢
  rw [List.cons_append] at hread ⊢
  have hrest := h.read fuel (by simp at hfuel; omega)
  rw [readStatements, skipGaps_of_head hblank (ne_of_holds hc (by decide)) (ne_of_holds hc (by decide))]
  split
  · contradiction
  · rename_i heq
    cases heq
    exact absurd hc (by decide)
  · simp [hread, hrest]

theorem plainLines?_of_ordinary {s : List Char} (h : s.all isOrdinary = true) : plainLines? s = some s := by
  induction s with
  | nil => rfl
  | cons c s ih =>
    rw [List.all_cons, Bool.and_eq_true] at h
    have hreturn : c ≠ '\r' := by
      rintro rfl
      exact absurd h.1 (by decide)
    rw [plainLines?, ih h.2]
    · rfl
    · exact fun _ heq => absurd heq hreturn
    · exact fun heq => absurd heq hreturn

/-- The document of a text is that of its statements. -/
theorem Value.ofText?_of_reads (h : Reads text statements) :
    Value.ofText? text = Value.ofStatements? statements := by
  have hmark : dropMark text.toList = text.toList := by
    unfold dropMark
    split
    · rename_i heq
      have hall := h.ordinary
      rw [heq, List.all_cons, Bool.and_eq_true] at hall
      exact absurd hall.1 (by decide)
    · rfl
  rw [Value.ofText?, hmark, plainLines?_of_ordinary h.ordinary]
  simp [h.read _ (Nat.lt_succ_self _)]

end

end PageEdit.Toml
