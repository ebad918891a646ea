import PageEdit.Css.Ident
import PageEdit.Css.Lexer
import PageEdit.Proofs.Text.Words

/-!
# Names that have been written are read back

A name is written a character at a time, and reading it takes a step for each of them: a name character
stands for itself, and what is escaped stands for itself behind the backslash. Only a line break cannot be
written so, as no escape goes over the end of a line.

The blank behind the code point of a digit belongs to the escape. A selector is trimmed before it is read,
which takes that blank away if the digit is all that comes last; the escape then ends with the text.

* `readName_identChars`: what is read is what has been written, U+0000 apart.
* `spells_identChars`, `spells_trimEnd`: a written name inside a selector and at its end.
* `reads_trimEnd_identChars`: only a name without line breaks, and without a blank at its end, is read back.
-/

namespace PageEdit.Css

open Lexer

variable {c : Char} {cs s rest : List Char}

/-- The character that one in a name is read as. -/
def readAs (c : Char) : Char := if c == '\x00' then '\uFFFD' else c

theorem readAs_of_ne (h : c ≠ '\x00') : readAs c = c := if_neg (by simpa using h)

theorem map_readAs (h : '\x00' ∉ cs) : cs.map readAs = cs := by
  rw [List.map_congr_left fun c hc => readAs_of_ne fun h0 => h (h0 ▸ hc), List.map_id']

/-! ## One character -/

theorem continuesName_eq (c : Char) : continuesName c = isNameChar c := by
  rw [continuesName, isNameChar, Bool.or_right_comm c.isAlphanum]

theorem hexDigit?_eq_none (h : c.isAlphanum = false) : hexDigit? c = none := by
  have hparts : ((c.isUpper || c.isLower) || c.isDigit) = false := h
  rw [Bool.or_eq_false_iff, Bool.or_eq_false_iff] at hparts
  obtain ⟨⟨hupper, hlower⟩, hdigit⟩ := hparts
  have hf : ¬ ('a' ≤ c ∧ c ≤ 'f') := fun hc => by
    have hz : c ≤ 'z' := Char.le_trans hc.2 (by decide)
    have hletter : c.isLower = true := Bool.and_eq_true_iff.mpr ⟨decide_eq_true hc.1, decide_eq_true hz⟩
    rw [hletter] at hlower
    cases hlower
  have hF : ¬ ('A' ≤ c ∧ c ≤ 'F') := fun hc => by
    have hz : c ≤ 'Z' := Char.le_trans hc.2 (by decide)
    have hletter : c.isUpper = true := decide_eq_true ⟨hc.1, hz⟩
    rw [hletter] at hupper
    cases hupper
  simp [hexDigit?, hdigit, hf, hF]

theorem hexDigit?_of_isNameChar (h : ¬ isNameChar c = true) : hexDigit? c = none := by
  simp only [isNameChar, Bool.or_eq_true, not_or, Bool.not_eq_true] at h
  exact hexDigit?_eq_none h.1.1.1

theorem isNewline_of_isNameChar (h : isNameChar c = true) : isNewline c = false := by
  cases hn : isNewline c with
  | false => rfl
  | true =>
    simp only [isNewline, Bool.or_eq_true, beq_iff_eq] at hn
    rcases hn with (rfl | rfl) | rfl <;> exact absurd h (by decide)

/-- A name character stands for itself. -/
theorem readName_nameChar (h : isNameChar c = true) (s : List Char) :
    readName .none (c :: s) = (c :: (readName .none s).1, (readName .none s).2) := by
  have hslash : c ≠ '\\' := fun h' => by rw [h'] at h; exact absurd h (by decide)
  have hnull : c ≠ '\x00' := fun h' => by rw [h'] at h; exact absurd h (by decide)
  simp [readName, Escape.feed, hslash, hnull, continuesName_eq, h]

/-- What is not a hexadecimal digit and no line break stands for itself behind a backslash. -/
theorem readName_escaped (hx : hexDigit? c = none) (h0 : c ≠ '\x00') (hn : isNewline c = false)
    (s : List Char) :
    readName .none ('\\' :: c :: s) = (c :: (readName .none s).1, (readName .none s).2) := by
  simp [readName, Escape.feed, startsNewline, hx, h0, hn]

theorem readName_identChar (hn : isNewline c = false) (s : List Char) :
    readName .none (identChar c ++ s) = (readAs c :: (readName .none s).1, (readName .none s).2) := by
  by_cases h0 : c = '\x00'
  · subst h0
    exact readName_nameChar (by decide) s
  · have h0' : (c == '\x00') = false := by simpa using h0
    rw [readAs_of_ne h0, identChar, h0', if_neg Bool.false_ne_true]
    split
    · next h => exact readName_nameChar h s
    · next h =>
      exact readName_escaped (hexDigit?_of_isNameChar h) h0 hn s

theorem readName_flatMap (h : ∀ c ∈ cs, isNewline c = false) (s : List Char) :
    readName .none (cs.flatMap identChar ++ s) =
      (cs.map readAs ++ (readName .none s).1, (readName .none s).2) := by
  induction cs with
  | nil => rfl
  | cons c cs ih =>
    rw [List.flatMap_cons, List.append_assoc, readName_identChar (h c List.mem_cons_self),
      ih fun d hd => h d (List.mem_cons_of_mem _ hd)]
    rfl

def digitChars : List Char := ['0', '1', '2', '3', '4', '5', '6', '7', '8', '9']

theorem mem_digitChars (h : c.isDigit = true) : c ∈ digitChars := by
  have hdigits : ∀ n < 58, (Char.ofNat n).isDigit = true → Char.ofNat n ∈ digitChars := by decide
  have hc : c.toNat ≤ 57 := by
    rw [Char.isDigit, Bool.and_eq_true, decide_eq_true_iff, decide_eq_true_iff] at h
    exact UInt32.le_iff_toNat_le.mp h.2
  rw [← Char.ofNat_toNat c] at h ⊢
  exact hdigits c.toNat (Nat.lt_succ_of_le hc) h

theorem isBlank_of_isDigit (h : c.isDigit = true) : Text.isBlank c = false := by
  have hdigits : digitChars.all (!Text.isBlank ·) = true := by decide
  simpa using List.all_eq_true.mp hdigits c (mem_digitChars h)

/-- A digit as its code point. -/
def digitEscape (d : Char) : List Char := ['\\', '3', d]

theorem readName_digitEscape (h : c.isDigit = true) (s : List Char) :
    readName .none (digitEscape c ++ ' ' :: s) = (c :: (readName .none s).1, (readName .none s).2) := by
  have hc := mem_digitChars h
  simp only [digitChars, List.mem_cons, List.not_mem_nil, or_false] at hc
  rcases hc with rfl | rfl | rfl | rfl | rfl | rfl | rfl | rfl | rfl | rfl <;> rfl

theorem readName_digitEscape_end (h : c.isDigit = true) : readName .none (digitEscape c) = ([c], []) := by
  have hc := mem_digitChars h
  simp only [digitChars, List.mem_cons, List.not_mem_nil, or_false] at hc
  rcases hc with rfl | rfl | rfl | rfl | rfl | rfl | rfl | rfl | rfl | rfl <;> rfl

/-- Reading a name goes forward. -/
theorem length_readName_le (e : Escape) (s : List Char) : (readName e s).2.length ≤ s.length := by
  induction s generalizing e with
  | nil => exact Nat.le_refl _
  | cons c s ih =>
    have hrest : ∀ e, (readName e s).2.length ≤ (c :: s).length := fun e => Nat.le_succ_of_le (ih e)
    unfold readName
    split
    · exact hrest _
    · split
      · exact hrest _
      · split
        · exact hrest _
        · exact Nat.le_refl _

/-! ## Whole names -/

theorem readName_identStart (h : ∀ c ∈ cs, isNewline c = false) (s : List Char) :
    readName .none (identStart cs ++ s) =
      (cs.map readAs ++ (readName .none s).1, (readName .none s).2) := by
  cases cs with
  | nil => rfl
  | cons c cs =>
    have htail := readName_flatMap (fun d hd => h d (List.mem_cons_of_mem _ hd)) s
    rw [identStart, List.append_assoc]
    split
    · next hd =>
      have h0 : c ≠ '\x00' := fun h' => by rw [h'] at hd; exact absurd hd (by decide)
      refine (readName_digitEscape hd (cs.flatMap identChar ++ s)).trans ?_
      rw [htail, List.map_cons, readAs_of_ne h0]
      rfl
    · rw [readName_identChar (h c List.mem_cons_self), htail]
      rfl

/-- What is read is what has been written, U+0000 apart. -/
theorem readName_identChars (h : ∀ c ∈ cs, isNewline c = false) (s : List Char) :
    readName .none (identChars cs ++ s) =
      (cs.map readAs ++ (readName .none s).1, (readName .none s).2) := by
  unfold identChars
  split
  · exact readName_escaped (by decide) (by decide) (by decide) s
  · rw [List.cons_append, readName_nameChar (by decide),
      readName_identStart (fun d hd => h d (List.mem_cons_of_mem _ hd))]
    rfl
  · exact readName_identStart h s

/-- A name begins with a character of its own, a dash or a backslash. -/
theorem exists_identStart (hn : isNewline c = false) (cs : List Char) :
    ∃ x t, identStart (c :: cs) = x :: t ∧
      (startsName x = true ∧ x ≠ '-' ∨ c = '-' ∧ x = '-' ∨ x = '\\' ∧ ∀ s, startsNewline (t ++ s) = false) := by
  rw [identStart]
  split
  · exact ⟨_, _, rfl, .inr (.inr ⟨rfl, fun _ => rfl⟩)⟩
  · next hd =>
    rw [identChar]
    split
    · exact ⟨_, _, rfl, .inl (by decide)⟩
    · split
      · next h =>
        refine ⟨_, _, rfl, ?_⟩
        by_cases hdash : c = '-'
        · exact .inr (.inl ⟨hdash, hdash⟩)
        · refine .inl ⟨?_, hdash⟩
          simp_all [isNameChar, startsName, Char.isAlphanum]
      · exact ⟨_, _, rfl, .inr (.inr ⟨rfl, fun _ => hn⟩)⟩

theorem startsIdent_of_ne (h : startsName c = true) (hdash : c ≠ '-') (s : List Char) :
    startsIdent (c :: s) = true := by
  have hslash : c ≠ '\\' := fun h' => by rw [h'] at h; exact absurd h (by decide)
  rw [startsIdent]
  · exact h
  · exact fun _ _ h' _ => hdash h'
  · exact fun h' => hslash h'

theorem startsIdent_identChars (hne : cs ≠ []) (h : ∀ c ∈ cs, isNewline c = false) (s : List Char) :
    startsIdent (identChars cs ++ s) = true := by
  have hstart : ∀ c cs, isNewline c = false → c ≠ '-' → startsIdent (identStart (c :: cs) ++ s) = true := by
    intro c cs hn hdash
    obtain ⟨x, t, heq, ⟨hx, hx'⟩ | ⟨hc, -⟩ | ⟨rfl, ht⟩⟩ := exists_identStart hn cs
    · exact heq ▸ startsIdent_of_ne hx hx' _
    · exact absurd hc hdash
    · rw [heq, List.cons_append, startsIdent, ht, Bool.not_false]
  unfold identChars
  split
  · rfl
  · next cs hcs =>
    obtain ⟨c, cs, rfl⟩ := List.exists_cons_of_ne_nil fun h' : cs = [] => hcs (by rw [h'])
    obtain ⟨x, t, heq, ⟨hx, -⟩ | ⟨-, rfl⟩ | ⟨rfl, -⟩⟩ := exists_identStart (h c (by simp)) cs
    · rw [heq, List.cons_append, List.cons_append, startsIdent, hx, Bool.true_or, Bool.true_or]
    · rw [heq]; rfl
    · rw [heq]; rfl
  · next hdash =>
    obtain ⟨c, cs, rfl⟩ := List.exists_cons_of_ne_nil hne
    exact hstart c cs (h c List.mem_cons_self) fun h' => hdash cs (by rw [h'])

/-- What may follow a name: nothing that would go on with it or make it another kind of token. -/
structure EndsName (s : List Char) : Prop where
  reads : readName .none s = ([], s)
  head : ∀ x ∈ s.head?, x ≠ '(' ∧ x ≠ '>'

theorem endsName_nil : EndsName [] := ⟨rfl, fun _ h => nomatch h⟩

/-- Characters that are read as a name up to where it ends. -/
structure Spells (s cs rest : List Char) : Prop where
  ne : s ≠ []
  starts : startsIdent (s ++ rest) = true
  reads : readName .none (s ++ rest) = (cs, rest)

/-- A written name is read up to what ends a name. -/
theorem spells_identChars (hne : cs ≠ []) (h : ∀ c ∈ cs, isNewline c = false)
    (hend : EndsName rest) : Spells (identChars cs) (cs.map readAs) rest :=
  ⟨fun hnil => absurd (startsIdent_identChars hne h []) (by rw [hnil]; exact Bool.false_ne_true),
    startsIdent_identChars hne h rest, by rw [readName_identChars h, hend.reads, List.append_nil]⟩

/-! ## Trimmed names -/

/-- A name ends as its last character does, if that is not a digit where none may stand. -/
theorem identChars_concat (pre : List Char) (c : Char) :
    (∃ s, identChars (pre ++ [c]) = s ++ identChar c) ∨
      c.isDigit = true ∧ (pre = [] ∨ pre = ['-']) ∧
        identChars (pre ++ [c]) = pre ++ digitEscape c ++ [' '] := by
  have hone : (∃ s, identStart [c] = s ++ identChar c) ∨
      c.isDigit = true ∧ identStart [c] = digitEscape c ++ [' '] := by
    rw [identStart]
    split
    · next hd => exact .inr ⟨hd, rfl⟩
    · exact .inl ⟨[], by simp⟩
  have hmore : ∀ x xs, ∃ s, identStart (x :: (xs ++ [c])) = s ++ identChar c := fun x xs =>
    ⟨identStart (x :: xs), by simp [identStart, List.append_assoc]⟩
  -- a digit may not stand first, nor second behind a dash
  match pre with
  | [] =>
    by_cases hc : c = '-'
    · exact .inl ⟨['\\'], by rw [hc]; rfl⟩
    · have heq : identChars ([] ++ [c]) = identStart [c] := by
        rw [List.nil_append, identChars] <;> simp [hc]
      rw [heq]
      exact hone.imp id fun ⟨hd, h⟩ => ⟨hd, .inl rfl, h⟩
  | x :: xs =>
    by_cases hx : x = '-'
    · subst hx
      cases xs with
      | nil =>
        have heq : identChars (['-'] ++ [c]) = '-' :: identStart [c] := by
          rw [List.singleton_append, identChars]
          simp
        rw [heq]
        exact hone.imp (fun ⟨s, h⟩ => ⟨'-' :: s, by rw [h]; rfl⟩) fun ⟨hd, h⟩ => ⟨hd, .inr rfl, by rw [h]; rfl⟩
      | cons y ys =>
        have heq : identChars ('-' :: y :: ys ++ [c]) = '-' :: identStart (y :: (ys ++ [c])) := by
          rw [List.cons_append, identChars]
          · rfl
          · simp
        obtain ⟨s, hs⟩ := hmore y ys
        exact .inl ⟨'-' :: s, by rw [heq, hs]; rfl⟩
    · have heq : identChars (x :: xs ++ [c]) = identStart (x :: (xs ++ [c])) := by
        rw [List.cons_append, identChars] <;> simp [hx]
      rw [heq]
      exact .inl (hmore x xs)

theorem trimEnd_identChar (h : Text.isBlank c = false) (s : List Char) :
    Text.trimEnd (s ++ identChar c) = s ++ identChar c := by
  rw [identChar]
  split
  · exact Text.trimEnd_concat (by decide) s
  · split
    · exact Text.trimEnd_concat h s
    · exact List.append_assoc s ['\\'] [c] ▸ Text.trimEnd_concat h (s ++ ['\\'])

/-- A written name that does not end in a blank is read whole also if it is trimmed. -/
theorem spells_trimEnd (hne : cs ≠ []) (h : ∀ c ∈ cs, isNewline c = false)
    (hlast : ∀ c ∈ cs.getLast?, Text.isBlank c = false) :
    Spells (Text.trimEnd (identChars cs)) (cs.map readAs) [] := by
  obtain ⟨pre, c, rfl⟩ : ∃ pre c, cs = pre ++ [c] :=
    ⟨_, _, (List.dropLast_concat_getLast hne).symm⟩
  have hc : Text.isBlank c = false := hlast c (by simp)
  rcases identChars_concat pre c with ⟨s, hs⟩ | ⟨hd, hpre, hs⟩
  · rw [hs, trimEnd_identChar hc, ← hs]
    exact spells_identChars hne h endsName_nil
  · have htrim : Text.trimEnd (pre ++ digitEscape c ++ [' ']) = pre ++ digitEscape c := by
      rw [Text.trimEnd_concat_blank (by decide)]
      exact List.append_assoc pre ['\\', '3'] [c] ▸ Text.trimEnd_concat hc (pre ++ ['\\', '3'])
    have h0 : c ≠ '\x00' := fun h' => by rw [h'] at hd; exact absurd hd (by decide)
    rw [hs, htrim]
    rcases hpre with rfl | rfl
    · exact ⟨List.cons_ne_nil _ _, rfl, by simpa [readAs_of_ne h0] using readName_digitEscape_end hd⟩
    · refine ⟨List.cons_ne_nil _ _, rfl, ?_⟩
      have hread := readName_nameChar (c := '-') (by decide) (digitEscape c)
      rw [readName_digitEscape_end hd] at hread
      simpa [readAs_of_ne h0, show readAs '-' = '-' from rfl] using hread

/-! ## Names that are not read back -/

/-- Whether reading a name stops at a backslash that stands before a line break. -/
def Stops (s : List Char) : Prop :=
  ∃ before n c after, s = before ++ '\\' :: c :: after ∧ isNewline c = true ∧
    readName .none s = (n, '\\' :: c :: after)

/-- Whether the beginning of a name that has been written is read as the name only if it is all of it. The blank
behind a digit may be missing. -/
def ReadsWhole (part cs whole : List Char) : Prop :=
  Stops part ∨ ∃ n, readName .none part = (n, []) ∧
    (n = cs → (∀ c ∈ cs, isNewline c = false) ∧
      (part = whole ∨ part ++ [' '] = whole ∧ ∃ pre d, cs = pre ++ [d] ∧ d.isDigit = true))

/-- What is read as another name. -/
theorem readsWhole_of_ne {part n : List Char} (h : readName .none part = (n, [])) (hne : n ≠ cs)
    (whole : List Char) :
    ReadsWhole part cs whole :=
  .inr ⟨n, h, fun heq => absurd heq hne⟩

/-- One more character before a name. -/
theorem ReadsWhole.cons {part whole : List Char} (h : ReadsWhole part cs whole) (block : List Char)
    (hread : ∀ s, readName .none (block ++ s) = (c :: (readName .none s).1, (readName .none s).2))
    (hn : isNewline c = false) : ReadsWhole (block ++ part) (c :: cs) (block ++ whole) := by
  rcases h with ⟨before, n, d, after, rfl, hd, hreads⟩ | ⟨n, hreads, h⟩
  · exact .inl ⟨block ++ before, c :: n, d, after, (List.append_assoc ..).symm, hd, by rw [hread, hreads]⟩
  · refine .inr ⟨c :: n, by rw [hread, hreads], fun heq => ?_⟩
    obtain ⟨hline, hwhole⟩ := h (List.cons.inj heq).2
    refine ⟨List.forall_mem_cons.mpr ⟨hn, hline⟩, hwhole.imp (fun h => by rw [h]) ?_⟩
    rintro ⟨rfl, pre, d, rfl, hd⟩
    exact ⟨List.append_assoc .., c :: pre, d, rfl, hd⟩

theorem readsWhole_identChar {whole : List Char} (h0 : c ≠ '\x00') {q : List Char}
    (hq : q <+: identChar c ++ whole) (ih : ∀ part, part <+: whole → ReadsWhole part cs whole) :
    ReadsWhole q (c :: cs) (identChar c ++ whole) := by
  have h0' : (c == '\x00') = false := by simpa using h0
  rw [identChar, h0', if_neg Bool.false_ne_true] at hq ⊢
  split
  · next hname =>
    rw [if_pos hname, List.singleton_append, List.prefix_cons_iff] at hq
    rcases hq with rfl | ⟨part, rfl, hpart⟩
    · exact readsWhole_of_ne readName_nil (List.cons_ne_nil _ _).symm _
    · exact (ih part hpart).cons [c] (readName_nameChar hname) (isNewline_of_isNameChar hname)
  · next hname =>
    rw [if_neg hname, List.cons_append, List.singleton_append, List.prefix_cons_iff] at hq
    rcases hq with rfl | ⟨q, rfl, hq⟩
    · exact readsWhole_of_ne readName_nil (List.cons_ne_nil _ _).symm _
    · rw [List.prefix_cons_iff] at hq
      rcases hq with rfl | ⟨part, rfl, hpart⟩
      · -- a backslash at the end is read as U+FFFD, which is never behind one
        refine readsWhole_of_ne (n := ['\uFFFD']) rfl (fun heq => hname ?_) _
        rw [← (List.cons.inj heq).1]
        decide
      · cases hn : isNewline c with
        | true =>
          refine .inl ⟨[], [], c, part, rfl, hn, ?_⟩
          simp [readName, Escape.feed, startsNewline, hn, continuesName]
        | false =>
          exact (ih part hpart).cons ['\\', c] (readName_escaped (hexDigit?_of_isNameChar hname) h0 hn) hn

theorem readsWhole_flatMap (h0 : '\x00' ∉ cs) (part : List Char) (h : part <+: cs.flatMap identChar) :
    ReadsWhole part cs (cs.flatMap identChar) := by
  induction cs generalizing part with
  | nil =>
    obtain rfl := List.prefix_nil.mp h
    exact .inr ⟨[], rfl, fun _ => ⟨by simp, .inl rfl⟩⟩
  | cons c cs ih =>
    rw [List.mem_cons, not_or] at h0
    rw [List.flatMap_cons] at h ⊢
    exact readsWhole_identChar (Ne.symm h0.1) h (ih h0.2)

theorem readsWhole_identStart (h0 : '\x00' ∉ cs) (part : List Char) (h : part <+: identStart cs) :
    ReadsWhole part cs (identStart cs) := by
  cases cs with
  | nil => exact readsWhole_flatMap h0 part h
  | cons c cs =>
    rw [List.mem_cons, not_or] at h0
    have ih := readsWhole_flatMap h0.2
    rw [identStart] at h ⊢
    split
    · next hd =>
      have hn : isNewline c = false := isNewline_of_isNameChar (by rw [isNameChar, Char.isAlphanum, hd]; simp)
      have hshort : ∀ {part n : List Char}, readName .none part = (n, []) → (∀ more, n ≠ c :: more) →
          ReadsWhole part (c :: cs) (['\\', '3', c, ' '] ++ cs.flatMap identChar) := fun hread hne =>
        readsWhole_of_ne hread (hne cs) _
      rw [if_pos hd] at h
      simp only [List.cons_append, List.nil_append, List.prefix_cons_iff] at h
      -- what is left of an escape cut short is another character, until only its blank is missing
      rcases h with rfl | ⟨_, rfl, rfl | ⟨_, rfl, rfl | ⟨_, rfl, rfl | ⟨part, rfl, hpart⟩⟩⟩⟩
      · exact hshort readName_nil fun _ h => nomatch h
      · refine hshort (n := ['\uFFFD']) rfl fun _ h => ?_
        rw [← (List.cons.inj h).1] at hd
        exact absurd hd (by decide)
      · refine hshort (n := ['\x03']) rfl fun _ h => ?_
        rw [← (List.cons.inj h).1] at hd
        exact absurd hd (by decide)
      · refine .inr ⟨[c], readName_digitEscape_end hd, fun heq => ?_⟩
        obtain rfl : cs = [] := (List.cons.inj heq).2.symm
        exact ⟨by simpa using hn, .inr ⟨rfl, [], c, rfl, hd⟩⟩
      · exact (ih part hpart).cons ['\\', '3', c, ' '] (readName_digitEscape hd) hn
    · next hd =>
      rw [if_neg hd] at h
      exact readsWhole_identChar (Ne.symm h0.1) h ih

theorem readsWhole_identChars (h0 : '\x00' ∉ cs) {part : List Char} (h : part <+: identChars cs) :
    ReadsWhole part cs (identChars cs) := by
  revert h
  unfold identChars
  split
  · simp only [List.prefix_cons_iff, List.prefix_nil]
    rintro (rfl | ⟨_, rfl, rfl | ⟨_, rfl, rfl⟩⟩)
    · exact readsWhole_of_ne readName_nil (List.cons_ne_nil _ _).symm _
    · exact readsWhole_of_ne (n := ['\uFFFD']) rfl (by decide) _
    · exact .inr ⟨['-'], rfl, fun _ => ⟨List.forall_mem_singleton.mpr (by decide), .inl rfl⟩⟩
  · rw [List.prefix_cons_iff]
    rintro (rfl | ⟨part, rfl, hpart⟩)
    · exact readsWhole_of_ne readName_nil (List.cons_ne_nil _ _).symm _
    · exact (readsWhole_identStart (fun h => h0 (List.mem_cons_of_mem _ h)) part hpart).cons ['-']
        (readName_nameChar (by decide)) (by decide)
  · exact readsWhole_identStart h0 part

/-- A name of which a blank has been trimmed, or with a line break in it, is not read back. -/
theorem reads_trimEnd_identChars (hne : cs ≠ []) (h0 : '\x00' ∉ cs) :
    Stops (Text.trimEnd (identChars cs)) ∨ ∃ n, readName .none (Text.trimEnd (identChars cs)) = (n, []) ∧
      (n = cs → (∀ c ∈ cs, isNewline c = false) ∧ ∀ c ∈ cs.getLast?, Text.isBlank c = false) := by
  refine (readsWhole_identChars h0 (Text.trimEnd_prefix _)).imp_right ?_
  rintro ⟨n, hreads, h⟩
  refine ⟨n, hreads, fun heq => ?_⟩
  obtain ⟨hline, hwhole | ⟨-, pre, d, rfl, hd⟩⟩ := h heq
  · refine ⟨hline, fun c hc => ?_⟩
    obtain ⟨pre, rfl⟩ := List.getLast?_eq_some_iff.mp hc
    rcases identChars_concat pre c with ⟨s, hs⟩ | ⟨hd, -⟩
    · have hlast : ∃ s, identChar c = s ++ [c] := by
        have hc0 : (c == '\x00') = false := by
          rw [beq_eq_false_iff_ne]
          exact fun h => h0 (by simp [h])
        rw [identChar, hc0, if_neg Bool.false_ne_true]
        split
        · exact ⟨[], rfl⟩
        · exact ⟨['\\'], rfl⟩
      obtain ⟨s', hs'⟩ := hlast
      rw [hs, hs', ← List.append_assoc] at hwhole
      -- the last character stands last as it is written, and trimming has not taken it
      cases hblank : Text.isBlank c with
      | false => rfl
      | true =>
        have hlen := (Text.trimEnd_prefix (s ++ s')).length_le
        rw [← Text.trimEnd_concat_blank hblank, hwhole, List.length_append, List.length_singleton] at hlen
        omega
    · exact isBlank_of_isDigit hd
  · refine ⟨hline, fun c hc => ?_⟩
    rw [List.getLast?_append, List.getLast?_singleton, Option.some_or, Option.mem_some_iff] at hc
    exact hc ▸ isBlank_of_isDigit hd

end PageEdit.Css
