import PageEdit.Proofs.Css.Tokens

/-!
# What the lexer leaves of a text

Each token takes at least one character, so that a text has at most as many tokens as characters.

* `numberToken_eq`: a number is read part by part.
* `length_next_le`: what a token leaves.
* `tokensWithin_eq_of_le`: more steps than there are characters make no difference.
-/

namespace PageEdit.Css

open Lexer

variable {c : Char} {s : List Char}

/-! ## Strings, addresses and names -/

theorem length_readQuoted_le (quote : Char) (e : Escape) (s : List Char) :
    (readQuoted quote e s).2.1.length ≤ s.length := by
  fun_induction readQuoted quote e s <;> simp_all <;> omega

theorem length_readBadUrl_le (escaped : Bool) (s : List Char) : (readBadUrl escaped s).2.length ≤ s.length := by
  fun_induction readBadUrl escaped s <;> simp_all <;> omega

theorem length_afterComment_le (s : List Char) : (afterComment s).length ≤ s.length := by
  fun_induction afterComment s <;> simp_all <;> omega

/-- The address that has been read, if it is not broken, and what is left of the text. -/
def readingOf : Except (List Char) (List Char × List Char) → Option (List Char) × List Char
  | .ok (url, rest) => (some url, rest)
  | .error left => (none, left)

theorem readingOf_map (x : Except (List Char) (List Char × List Char)) (f : List Char → List Char) :
    readingOf (x.map fun p => (f p.1, p.2)) = ((readingOf x).1.map f, (readingOf x).2) := by
  cases x <;> rfl

theorem length_afterUrl_le (url s : List Char) :
    (readingOf ((afterUrl s).map (url, ·))).2.length ≤ s.length := by
  fun_induction afterUrl s with
  | case1 => exact Nat.le_refl _
  | case2 | case4 => exact Nat.le_succ _
  | case3 c cs _ _ ih => exact Nat.le_succ_of_le ih

theorem length_readUrl_le (e : Escape) (s : List Char) : (readingOf (readUrl e s)).2.length ≤ s.length := by
  fun_induction readUrl e s with
  | case1 => exact Nat.le_refl _
  | case2 e c cs out e' _ ih =>
    rw [readingOf_map _ (out ++ ·)]
    exact Nat.le_succ_of_le ih
  | case3 | case5 | case6 => exact Nat.le_succ _
  | case4 => exact Nat.le_succ_of_le (length_afterUrl_le _ _)
  | case7 e c cs out =>
    next ih =>
    rw [readingOf_map _ (out ++ ·)]
    exact Nat.le_succ_of_le ih
  | case8 e c cs out =>
    next ih =>
    rw [readingOf_map _ (out ++ (if c == '\x00' then '\uFFFD' else c) :: ·)]
    exact Nat.le_succ_of_le ih

theorem length_urlToken_le (name : String) (s : List Char) : (urlToken name s).2.length ≤ s.length := by
  have hread := length_readUrl_le .none (s.dropWhile isBlank)
  have hinner := (List.dropWhile_suffix (l := s) isBlank).length_le
  unfold urlToken
  dsimp only
  split
  · exact Nat.le_refl _
  · exact Nat.le_refl _
  · split
    · next url rest hurl =>
      rw [hurl] at hread
      exact Nat.le_trans hread hinner
    · next left hurl =>
      rw [hurl] at hread
      exact Nat.le_trans (length_readBadUrl_le false left) (Nat.le_trans hread hinner)

theorem length_identToken_le (s : List Char) : (identToken s).2.length ≤ (name s).2.length := by
  unfold identToken
  split
  · next n rest hread =>
    rw [hread]
    split
    · exact Nat.le_succ_of_le (length_urlToken_le n rest)
    · exact Nat.le_succ _
  · next hread => exact Nat.le_of_eq (by rw [hread])

/-- A name that begins has a character. -/
theorem length_name_le_of_startsIdent (h : startsIdent (c :: s) = true) : (name (c :: s)).2.length ≤ s.length := by
  have hchar : ∀ {d : Char}, continuesName d = true ∨ d = '\x00' → d ≠ '\\' →
      (name (d :: s)).2.length ≤ s.length := by
    intro d hd hne
    have hread : readName .none (d :: s) =
        ((if d == '\x00' then '\uFFFD' else d) :: (readName .none s).1, (readName .none s).2) := by
      simp [readName, Escape.feed, hne, hd]
    rw [name, hread]
    exact length_readName_le .none s
  rcases startsIdent_cases h with hc | rfl | ⟨rfl, -⟩
  · refine hchar ?_ (ne_of_startsName hc _ (by decide))
    simp only [startsName, Bool.or_eq_true, beq_iff_eq] at hc
    simp only [continuesName, Char.isAlphanum, Bool.or_eq_true, beq_iff_eq]
    rcases hc with ((hc | hc) | hc) | hc
    · exact .inl (.inl (.inl (.inl (.inl hc))))
    · exact .inl (.inl (.inl (.inr hc)))
    · exact .inr hc
    · exact .inl (.inr hc)
  · have hread : readName .none ('\\' :: s) = readName .begun s := by
      have hline : startsNewline s = false := by simpa [startsIdent] using h
      simp [readName, Escape.feed, hline]
    rw [name, hread]
    exact length_readName_le .begun s
  · exact hchar (.inl rfl) (by decide)

/-! ## Numbers -/

theorem length_sign_le (s : List Char) : (sign s).2.2.length ≤ s.length := by
  unfold sign
  split
  · exact Nat.le_succ _
  · exact Nat.le_succ _
  · exact Nat.le_refl _

theorem length_digits_le (s : List Char) : (digits s).2.length ≤ s.length :=
  (List.dropWhile_suffix _).length_le

theorem length_exponent?_le {p : Float × List Char} (h : exponent? s = some p) : p.2.length ≤ s.length := by
  have hexponent : ∀ rest : List Char, (digits (sign rest).2.2).2.length ≤ rest.length := fun rest =>
    Nat.le_trans (length_digits_le _) (length_sign_le rest)
  unfold exponent? at h
  split at h
  · next rest =>
    dsimp only at h
    split at h
    · obtain rfl := Option.some.inj h
      exact Nat.le_succ_of_le (hexponent rest)
    · cases h
  · next rest =>
    dsimp only at h
    split at h
    · obtain rfl := Option.some.inj h
      exact Nat.le_succ_of_le (hexponent rest)
    · cases h
  · cases h

/-- The digits after a point, if some follow it. -/
def fraction (s : List Char) : Option (List Nat) × List Char :=
  match s with
  | '.' :: more => if startsDigit more then (some (digits more).1, (digits more).2) else (none, s)
  | _ => (none, s)

/-- The value of a number in parts. What stands behind its exponent does not count. -/
def valueOf (factor : Float) (whole : List Nat) (point : Option (List Nat)) (exponent : Option (Float × List Char)) :
    Float :=
  let value := factor * (wholeValue whole + fractionValue (point.getD []))
  match exponent with
  | some (p, _) => value * p
  | none => value

/-- The value of a number in parts, if it has neither a point nor an exponent. -/
def intOf (factor : Float) (whole : List Nat) (point : Option (List Nat)) (exponent : Option (Float × List Char)) :
    Option Int :=
  if point.isNone && exponent.isNone then
    some (saturate (factor < 0) (whole.foldl (fun n d => 10 * n + d) 0))
  else none

/-- The token of a number, given its sign, value and integer, and what stands behind it. -/
def withUnit (signed : Bool) (value : Float) (int? : Option Int) (s : List Char) : Token × List Char :=
  match s with
  | '%' :: rest => (.percentage ⟨signed, (value / 100).toFloat32, int?⟩, rest)
  | _ =>
    if startsIdent s then (.dimension ⟨signed, value.toFloat32, int?⟩ (name s).1, (name s).2)
    else (.number ⟨signed, value.toFloat32, int?⟩, s)

/-- A number is read part by part. -/
theorem numberToken_eq {s t u v : List Char} {signed : Bool} {factor : Float} {whole : List Nat}
    {point : Option (List Nat)} (hsign : sign s = (signed, factor, t)) (hwhole : digits t = (whole, u))
    (hpoint : fraction u = (point, v)) :
    numberToken s = withUnit signed (valueOf factor whole point (exponent? v)) (intOf factor whole point (exponent? v))
      (((exponent? v).map (·.2)).getD v) := by
  have hparts : numberToken s = withUnit (sign s).1
      (valueOf (sign s).2.1 (digits (sign s).2.2).1 (fraction (digits (sign s).2.2).2).1
        (exponent? (fraction (digits (sign s).2.2).2).2))
      (intOf (sign s).2.1 (digits (sign s).2.2).1 (fraction (digits (sign s).2.2).2).1
        (exponent? (fraction (digits (sign s).2.2).2).2))
      (((exponent? (fraction (digits (sign s).2.2).2).2).map (·.2)).getD (fraction (digits (sign s).2.2).2).2) := rfl
  rw [hparts, hsign, hwhole, hpoint]

theorem length_fraction_le (s : List Char) : (fraction s).2.length ≤ s.length := by
  unfold fraction
  split
  · next more =>
    split
    · exact Nat.le_succ_of_le (length_digits_le more)
    · exact Nat.le_refl _
  · exact Nat.le_refl _

theorem length_withUnit_le (signed : Bool) (value : Float) (int? : Option Int) (s : List Char) :
    (withUnit signed value int? s).2.length ≤ s.length := by
  unfold withUnit
  split
  · exact Nat.le_succ _
  · split
    · exact length_readName_le .none s
    · exact Nat.le_refl _

theorem length_numberToken_le {t u v : List Char} {signed : Bool} {factor : Float} {whole : List Nat}
    {point : Option (List Nat)} (hsign : sign s = (signed, factor, t)) (hwhole : digits t = (whole, u))
    (hpoint : fraction u = (point, v)) : (numberToken s).2.length ≤ v.length := by
  rw [numberToken_eq hsign hwhole hpoint]
  refine Nat.le_trans (length_withUnit_le _ _ _ _) ?_
  cases hexponent : exponent? v with
  | none => exact Nat.le_refl _
  | some p => exact length_exponent?_le hexponent

theorem sign_of_ne (hminus : c ≠ '-') (hplus : c ≠ '+') : sign (c :: s) = (false, 1, c :: s) := by
  unfold sign
  split
  · next heq => exact absurd (List.cons.inj heq).1 hminus
  · next heq => exact absurd (List.cons.inj heq).1 hplus
  · rfl

/-- A number that begins has a character. -/
theorem length_numberToken_le_of_startsNumber (h : startsNumber (c :: s) = true) :
    (numberToken (c :: s)).2.length ≤ s.length := by
  rcases hsign : sign (c :: s) with ⟨signed, factor, t⟩
  rcases hwhole : digits t with ⟨whole, u⟩
  rcases hpoint : fraction u with ⟨point, v⟩
  refine Nat.le_trans (length_numberToken_le hsign hwhole hpoint) ?_
  have hu : u.length ≤ t.length := by simpa [hwhole] using length_digits_le t
  have hv : v.length ≤ u.length := by simpa [hpoint] using length_fraction_le u
  by_cases hplus : c = '+'
  · subst hplus
    cases hsign
    exact Nat.le_trans hv hu
  by_cases hminus : c = '-'
  · subst hminus
    cases hsign
    exact Nat.le_trans hv hu
  rw [sign_of_ne hminus hplus] at hsign
  cases hsign
  by_cases hdot : c = '.'
  · subst hdot
    have hdigit : startsDigit s = true := h
    cases hwhole
    have hread : fraction ('.' :: s) = (some (digits s).1, (digits s).2) := if_pos hdigit
    rw [← show (digits s).2 = v from congrArg Prod.snd (hread.symm.trans hpoint)]
    exact length_digits_le s
  · have hdigit : c.isDigit = true := by
      unfold startsNumber at h
      split at h <;> simp_all [startsDigit]
    have hrest : u = (digits s).2 := by
      rw [← show (digits (c :: s)).2 = u from congrArg Prod.snd hwhole, digits, List.dropWhile_cons_of_pos hdigit]
      rfl
    exact Nat.le_trans hv (hrest ▸ length_digits_le s)

/-! ## Tokens -/

/-- What a token leaves is no longer than what there was behind its first character. -/
theorem length_next_le (c : Char) (s : List Char) : (next c s).2.length ≤ s.length := by
  have hname : (name s).2.length ≤ s.length := length_readName_le .none s
  unfold next
  dsimp only
  split
  · exact (List.dropWhile_suffix _).length_le
  split
  · exact Nat.le_refl _
  split
  · exact length_readQuoted_le c .none s
  split
  · split
    · exact hname
    · split
      · split
        · exact hname
        · exact Nat.le_refl _
      · exact Nat.le_refl _
  split
  · next h => exact length_numberToken_le_of_startsNumber h
  split
  · exact Nat.le_succ _
  split
  · exact Nat.le_trans (length_afterComment_le _) (Nat.le_succ _)
  · simp; omega
  · simp; omega
  · split
    · exact hname
    · exact Nat.le_refl _
  · split
    · next h => exact Nat.le_trans (length_identToken_le _) (length_name_le_of_startsIdent h)
    · exact Nat.le_refl _

theorem tokensWithin_eq_of_le {n m : Nat} (hn : s.length ≤ n) (hm : s.length ≤ m) :
    tokensWithin n s = tokensWithin m s := by
  induction n generalizing s m with
  | zero =>
    obtain rfl : s = [] := List.length_eq_zero_iff.mp (Nat.le_zero.mp hn)
    cases m <;> rfl
  | succ n ih =>
    cases s with
    | nil => cases m <;> rfl
    | cons c s =>
      cases m with
      | zero => cases hm
      | succ m =>
        have hlen := length_next_le c s
        have hrest : tokensWithin n (next c s).2 = tokensWithin m (next c s).2 :=
          ih (Nat.le_trans hlen (Nat.le_of_succ_le_succ hn)) (Nat.le_trans hlen (Nat.le_of_succ_le_succ hm))
        rw [tokensWithin, tokensWithin]
        split
        · next h =>
          rw [h] at hrest
          exact congrArg _ hrest
        · next h =>
          rw [h] at hrest
          exact hrest

end PageEdit.Css
