import PageEdit.Proofs.Css.Tokens

/-!
# Identifiers

What a name is, told by rules and not by a machine: characters are taken from the beginning of a text one by
one, each as it is or behind a backslash, as a character or as a code point, as long as there is one to take.
The machine that reads names keeps to these rules, so they leave nothing open: a text begins with one name, the
longest.

A written name is an identifier by these rules, at the end of a text as well as before a class, and stands for
what it was written for. So two texts that are written alike are the same.

* `names_iff`: the names of the rules are those that are read.
* `idents_are_read_back`: written names.
-/

namespace PageEdit.Css

open Lexer

/-! ## The rules -/

/-- Whether some characters are the digits of a code point that stands before `rest`: up to six, and as many as
there are. -/
structure IsCode (ds rest : List Char) : Prop where
  ne : ds ≠ []
  short : ds.length ≤ 6
  digits : ∀ d ∈ ds, (hexDigit? d).isSome
  longest : ds.length = 6 ∨ ∀ c ∈ rest.head?, hexDigit? c = none

/-- The number that hexadecimal digits stand for, behind others that stand for `n`. -/
def hexValue (n : Nat) (ds : List Char) : Nat := ds.foldl (fun n d => 16 * n + (hexDigit? d).getD 0) n

/-- What follows the blank that may end a code point. A carriage return and a line feed are one blank. -/
def afterBlank : List Char → List Char
  | [] => []
  | '\r' :: '\n' :: s => s
  | c :: s => if isBlank c then s else c :: s

/-- The character of a name that the beginning of a text stands for, and the rest of the text. -/
inductive NameChar : List Char → Char → List Char → Prop
  | plain {c : Char} (s : List Char) (h : continuesName c = true) : NameChar (c :: s) c s
  | null (s : List Char) : NameChar ('\x00' :: s) '\uFFFD' s
  | escaped {c : Char} (s : List Char) (hx : hexDigit? c = none) (hn : isNewline c = false) :
      NameChar ('\\' :: c :: s) (readAs c) s
  | code {ds rest : List Char} (h : IsCode ds rest) :
      NameChar ('\\' :: (ds ++ rest)) (codePoint (hexValue 0 ds)) (afterBlank rest)
  /-- A backslash at the end of the text. -/
  | cut : NameChar ['\\'] '\uFFFD' []

/-- The name at the beginning of a text, and the rest of the text, where no further character can be taken. -/
inductive Names : List Char → List Char → List Char → Prop
  | stop {s : List Char} (h : ∀ c t, ¬ NameChar s c t) : Names s [] s
  | more {s t name rest : List Char} {c : Char} (h : NameChar s c t) (hmore : Names t name rest) :
      Names s (c :: name) rest

variable {c : Char} {s t ds rest name : List Char}

/-! ## Code points -/

theorem length_afterBlank_le (s : List Char) : (afterBlank s).length ≤ s.length := by
  unfold afterBlank
  split
  · exact Nat.le_refl _
  · exact Nat.le_succ_of_le (Nat.le_succ _)
  · split
    · exact Nat.le_succ _
    · exact Nat.le_refl _

/-- After an escape that a carriage return has ended, a line feed still belongs to it. -/
theorem readName_ended (s : List Char) : readName .ended s = readName .none (afterBlank ('\r' :: s)) := by
  cases s with
  | nil => rfl
  | cons c s =>
    by_cases hc : c = '\n'
    · subst hc
      simp [readName, Escape.feed, afterBlank]
    · have hblank : afterBlank ('\r' :: c :: s) = c :: s := by
        simp [afterBlank, hc, isBlank, isNewline]
      rw [hblank]
      simp [readName, Escape.feed, hc]

/-- Where the digits end, the blank after them is taken. -/
theorem readName_hex_end {k n : Nat} (h : k = 6 ∨ ∀ c ∈ rest.head?, hexDigit? c = none) :
    readName (.hex k n) rest =
      (codePoint n :: (readName .none (afterBlank rest)).1, (readName .none (afterBlank rest)).2) := by
  cases rest with
  | nil => rfl
  | cons c rest =>
    have hdigit : (if k < 6 then hexDigit? c else none) = none := by
      rcases h with rfl | h
      · rfl
      · rw [h c rfl, ite_self]
    by_cases hcr : c = '\r'
    · subst hcr
      simp [readName, Escape.feed, hdigit, readName_ended]
    · have hafter : afterBlank (c :: rest) = if isBlank c then rest else c :: rest := by
        rw [afterBlank]
        exact fun _ h' _ => hcr h'
      rw [hafter]
      cases hblank : isBlank c with
      | true => simp [readName, Escape.feed, hdigit, hcr, hblank]
      | false =>
        -- what is not taken is read on as what follows a name that is empty so far
        simp only [readName, Escape.feed, hdigit, hcr, hblank, beq_iff_eq, Bool.false_eq_true, if_false]
        split
        · rfl
        · split <;> rfl

theorem readName_hex {k n : Nat} (hshort : k + ds.length ≤ 6) (hdigits : ∀ d ∈ ds, (hexDigit? d).isSome)
    (hlongest : k + ds.length = 6 ∨ ∀ c ∈ rest.head?, hexDigit? c = none) :
    readName (.hex k n) (ds ++ rest) =
      (codePoint (hexValue n ds) :: (readName .none (afterBlank rest)).1,
        (readName .none (afterBlank rest)).2) := by
  induction ds generalizing k n with
  | nil => exact readName_hex_end hlongest
  | cons d ds ih =>
    obtain ⟨hd, hds⟩ := List.forall_mem_cons.mp hdigits
    obtain ⟨x, hx⟩ := Option.isSome_iff_exists.mp hd
    rw [List.length_cons, ← Nat.add_assoc, Nat.add_right_comm] at hshort hlongest
    have hk : k < 6 := by omega
    have hrest := ih (k := k + 1) (n := 16 * n + x) hshort hds hlongest
    rw [List.cons_append, readName]
    simp only [Escape.feed, hk, if_true, hx, hrest, List.nil_append]
    simp [hexValue, hx]

/-- Behind a backslash, a digit begins a code point. -/
theorem exists_isCode (h : (hexDigit? c).isSome) (s : List Char) :
    ∃ ds rest, c :: s = ds ++ rest ∧ IsCode ds rest := by
  have hupTo : ∀ (k : Nat) (s : List Char), ∃ ds rest, s = ds ++ rest ∧ ds.length ≤ k ∧
      (∀ d ∈ ds, (hexDigit? d).isSome) ∧ (ds.length = k ∨ ∀ c ∈ rest.head?, hexDigit? c = none) := by
    intro k
    induction k with
    | zero => exact fun s => ⟨[], s, rfl, Nat.le_refl 0, by simp, .inl rfl⟩
    | succ k ih =>
      intro s
      cases s with
      | nil => exact ⟨[], [], rfl, Nat.zero_le _, by simp, .inr (by simp)⟩
      | cons d s =>
        cases hd : hexDigit? d with
        | none => exact ⟨[], d :: s, rfl, Nat.zero_le _, by simp, .inr (by simpa using hd)⟩
        | some x =>
          obtain ⟨ds, rest, rfl, hlen, hdigits, hlongest⟩ := ih s
          exact ⟨d :: ds, rest, rfl, Nat.succ_le_succ hlen, List.forall_mem_cons.mpr ⟨by rw [hd]; rfl, hdigits⟩,
            hlongest.imp_left (congrArg Nat.succ)⟩
  obtain ⟨ds, rest, rfl, hlen, hdigits, hlongest⟩ := hupTo 5 s
  exact ⟨c :: ds, rest, rfl, List.cons_ne_nil _ _, Nat.succ_le_succ hlen,
    List.forall_mem_cons.mpr ⟨h, hdigits⟩, hlongest.imp_left (congrArg Nat.succ)⟩

/-! ## The machine keeps to the rules -/

theorem readName_of_nameChar (h : NameChar s c t) :
    readName .none s = (c :: (readName .none t).1, (readName .none t).2) := by
  cases h with
  | plain _ h => exact readName_nameChar (continuesName_eq c ▸ h) _
  | null => simp [readName, Escape.feed, startsNewline]
  | @escaped c s hx hn => simp [readName, Escape.feed, startsNewline, hx, hn, readAs]
  | @code ds rest h =>
    obtain ⟨d, ds, rfl⟩ := List.exists_cons_of_ne_nil h.ne
    obtain ⟨hd, hds⟩ := List.forall_mem_cons.mp h.digits
    obtain ⟨x, hx⟩ := Option.isSome_iff_exists.mp hd
    have hnewline : isNewline d = false := by
      cases hn : isNewline d with
      | false => rfl
      | true =>
        simp only [isNewline, Bool.or_eq_true, beq_iff_eq] at hn
        rcases hn with (rfl | rfl) | rfl <;> exact absurd hd (by decide)
    have hlongest := h.longest
    have hshort := h.short
    rw [List.length_cons, Nat.add_comm] at hlongest hshort
    have hread := readName_hex (n := x) hshort hds hlongest
    simp [readName, Escape.feed, startsNewline, hnewline, hx, hread, hexValue]
  | cut => rfl

theorem readName_of_stop (h : ∀ c t, ¬ NameChar s c t) : readName .none s = ([], s) := by
  cases s with
  | nil => rfl
  | cons c s =>
    have hnull : c ≠ '\x00' := fun h' => h _ _ (h' ▸ NameChar.null s)
    have hname : continuesName c = false := Bool.eq_false_iff.mpr fun h' => h _ _ (.plain s h')
    by_cases hslash : c = '\\'
    · subst hslash
      cases s with
      | nil => exact absurd .cut (h _ _)
      | cons d s =>
        have hn : isNewline d = true := by
          rw [← Bool.not_eq_false]
          intro hn
          cases hx : hexDigit? d with
          | none => exact h _ _ (.escaped s hx hn)
          | some x =>
            obtain ⟨ds, rest, heq, hcode⟩ := exists_isCode (by rw [hx]; rfl) s
            have hchar := NameChar.code hcode
            rw [← heq] at hchar
            exact h _ _ hchar
        simp [readName, Escape.feed, startsNewline, hn, hname]
    · exact readName_stop s hslash hnull hname

theorem NameChar.length_lt (h : NameChar s c t) : t.length < s.length := by
  cases h with
  | plain | null => exact Nat.lt_succ_self _
  | escaped => exact Nat.lt_succ_of_lt (Nat.lt_succ_self _)
  | @code ds rest h =>
    have hle := length_afterBlank_le rest
    rw [List.length_cons, List.length_append]
    omega
  | cut => exact Nat.one_pos

theorem names_readName (s : List Char) : Names s (readName .none s).1 (readName .none s).2 := by
  by_cases h : ∃ c t, NameChar s c t
  · obtain ⟨c, t, h⟩ := h
    have := h.length_lt
    rw [readName_of_nameChar h]
    exact .more h (names_readName t)
  · have hstop : ∀ c t, ¬ NameChar s c t := fun c t hc => h ⟨c, t, hc⟩
    rw [readName_of_stop hstop]
    exact .stop hstop
termination_by s.length

/-- The names of the rules are those that are read. -/
theorem names_iff : Names s name rest ↔ readName .none s = (name, rest) := by
  constructor
  · intro h
    induction h with
    | stop h => exact readName_of_stop h
    | more h _ ih => rw [readName_of_nameChar h, ih]
  · intro h
    have hnames := names_readName s
    rwa [h] at hnames

/-! ## Written names -/

/-- Whether the beginning of a text, before `rest`, is an identifier and stands for `name`. -/
structure IsIdentifier (s name rest : List Char) : Prop where
  starts : startsIdent (s ++ rest) = true
  names_iff : ∀ n left, Names (s ++ rest) n left ↔ n = name ∧ left = rest

theorem Spells.isIdentifier (h : Spells s name rest) : IsIdentifier s name rest := by
  refine ⟨h.starts, fun n left => ?_⟩
  rw [names_iff, h.reads, Prod.mk.injEq]
  exact ⟨fun ⟨hn, hleft⟩ => ⟨hn.symm, hleft.symm⟩, fun ⟨hn, hleft⟩ => ⟨hn.symm, hleft.symm⟩⟩

theorem endsName_of_dot (h : ∀ c ∈ rest.head?, c = '.') : EndsName rest := by
  cases rest with
  | nil => exact endsName_nil
  | cons c rest =>
    obtain rfl : c = '.' := h c rfl
    exact endsName_dot rest

/-- A text without line breaks is written as an identifier that stands for it, U+0000 becoming U+FFFD, at the end
of a text and before a class. Texts without U+0000 that are written alike are the same. -/
theorem idents_are_read_back {v : String} (hne : v ≠ "") (hline : ∀ c ∈ v.toList, isNewline c = false) :
    (∀ rest, (∀ c ∈ rest.head?, c = '.') → IsIdentifier (ident v).toList (v.toList.map readAs) rest) ∧
      ∀ w, w ≠ "" → (∀ c ∈ w.toList, isNewline c = false) → '\x00' ∉ v.toList → '\x00' ∉ w.toList →
        ident v = ident w → v = w := by
  have hspells : ∀ {u : String} {rest : List Char}, u ≠ "" → (∀ c ∈ u.toList, isNewline c = false) →
      EndsName rest → Spells (ident u).toList (u.toList.map readAs) rest := by
    intro u rest hne hline hend
    rw [ident, String.toList_ofList]
    exact spells_identChars (fun h => hne (String.toList_eq_nil_iff.mp h)) hline hend
  refine ⟨fun rest hrest => (hspells hne hline (endsName_of_dot hrest)).isIdentifier, ?_⟩
  intro w hne' hline' hv hw heq
  have hreads := (hspells hne hline endsName_nil).reads
  rw [heq, (hspells hne' hline' endsName_nil).reads, map_readAs hv, map_readAs hw] at hreads
  exact (String.toList_inj.mp (Prod.mk.inj hreads).1).symm

/-- A digit behind a dash is written as a code point, with a blank before what follows it. -/
theorem idents_are_read_back_behind_dash :
    (ident "-2\x00 é").toList = ['-', '\\', '3', '2', ' ', '\uFFFD', '\\', ' ', 'é'] ∧
      IsIdentifier (ident "-2\x00 é").toList ['-', '2', '\uFFFD', ' ', 'é'] ['.', 'a'] := by
  have hall : "-2\x00 é".toList.all (!isNewline ·) = true := by decide
  have hline : ∀ c ∈ "-2\x00 é".toList, isNewline c = false := by simpa using hall
  exact ⟨by decide, (idents_are_read_back (by decide) hline).1 ['.', 'a'] (by simp)⟩

end PageEdit.Css
