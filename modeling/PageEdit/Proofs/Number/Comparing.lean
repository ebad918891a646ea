import Mathlib
import PageEdit.Number.TotalOrder

/-!
# How doubles compare

The bits of a double are its sign, its exponent and its fraction, in falling weight. So doubles compare as the
naturals that these bits are, the negative ones turned round. Two kinds stand apart: what is no number compares
with nothing, and minus zero compares equal to zero, though it stands before it. All other doubles compare as
they stand in the total order, and so the greater of two is one of them that no other of the two exceeds.

* `stands_rank`: where a double stands, told by what it stands for.
* `lt_iff_rank_lt`, `le_iff_rank_le`, `eq_of_rank_eq`: comparing such doubles is comparing places.
-/

namespace PageEdit.Number

open Float.Model (Format UnpackedFloat)
open Float.Model.UnpackedFloat (Sign unpack unpackSign unpackSign_def unpackExponent unpackExponent_def unpackMantissa
  unpackMantissa_def)

/-- Whether a double is a number other than minus zero. -/
def IsOrdinary (x : Float) : Prop := x.isNaN = false ∧ x ≠ -0.0

instance (x : Float) : Decidable (IsOrdinary x) := inferInstanceAs (Decidable (_ ∧ _))

/-! ## Places of what doubles stand for -/

/-- Whether a mantissa and an exponent are those of a double: the highest bit is there, or the exponent is the
lowest one. -/
def Fits (m : Nat) (e : Int) : Prop :=
  m < 2 ^ 53 ∧ -1074 ≤ e ∧ e ≤ 971 ∧ (-1074 < e → 2 ^ 52 ≤ m)

/-- Whether a number, minus zero apart, has this place in the total order. -/
inductive Stands : UnpackedFloat → Int → Prop
  | infinity : Stands (.infinity .positive) (2047 * 2 ^ 52)
  | minusInfinity : Stands (.infinity .negative) (-1 - 2047 * 2 ^ 52)
  | zero : Stands (.zero .positive) 0
  | positive {m : Nat} {e : Int} (pos : 0 < m) (fits : Fits m e) :
      Stands (.finite .positive m e pos) ((e + 1074) * 2 ^ 52 + m)
  | negative {m : Nat} {e : Int} (pos : 0 < m) (fits : Fits m e) :
      Stands (.finite .negative m e pos) (-1 - ((e + 1074) * 2 ^ 52 + m))

/-- The exponent decides, and the mantissa where the exponents are equal. -/
theorem compare_fields {m₁ m₂ : Nat} {e₁ e₂ : Int} (h₁ : Fits m₁ e₁) (h₂ : Fits m₂ e₂) :
    (compare e₁ e₂).then (compare m₁ m₂) =
      compare ((e₁ + 1074) * 2 ^ 52 + (m₁ : Int)) ((e₂ + 1074) * 2 ^ 52 + m₂) := by
  obtain ⟨hm₁, he₁, -, hn₁⟩ := h₁
  obtain ⟨hm₂, he₂, -, hn₂⟩ := h₂
  rcases Int.lt_trichotomy e₁ e₂ with he | rfl | he
  · rw [Int.compare_eq_lt.mpr he, Int.compare_eq_lt.mpr (by omega)]
    rfl
  · rw [Int.compare_eq_eq.mpr rfl]
    rcases Nat.lt_trichotomy m₁ m₂ with hm | rfl | hm
    · rw [Nat.compare_eq_lt.mpr hm, Int.compare_eq_lt.mpr (by omega)]
      rfl
    · rw [Nat.compare_eq_eq.mpr rfl, Int.compare_eq_eq.mpr rfl]
      rfl
    · rw [Nat.compare_eq_gt.mpr hm, Int.compare_eq_gt.mpr (by omega)]
      rfl
  · rw [Int.compare_eq_gt.mpr he, Int.compare_eq_gt.mpr (by omega)]
    rfl

theorem compare_negated (i j : Int) : compare (-1 - i) (-1 - j) = (compare i j).swap := by
  rcases Int.lt_trichotomy i j with h | rfl | h
  · rw [Int.compare_eq_lt.mpr h, Int.compare_eq_gt.mpr (by omega)]
    rfl
  · rw [Int.compare_eq_eq.mpr rfl, Int.compare_eq_eq.mpr rfl]
    rfl
  · rw [Int.compare_eq_gt.mpr h, Int.compare_eq_lt.mpr (by omega)]
    rfl

theorem Fits.bounds {m : Nat} {e : Int} (h : Fits m e) (pos : 0 < m) :
    0 < (e + 1074) * 2 ^ 52 + (m : Int) ∧ (e + 1074) * 2 ^ 52 + (m : Int) < 2047 * 2 ^ 52 := by
  obtain ⟨hm, he, htop, hn⟩ := h
  omega

/-- What doubles stand for compares as their places. -/
theorem Stands.compare_eq {a b : UnpackedFloat} {i j : Int} (ha : Stands a i) (hb : Stands b j) :
    a.compare b = some (compare i j) := by
  have hlt : ∀ {i j : Int}, i < j → some Ordering.lt = some (compare i j) :=
    fun h => congrArg some (Int.compare_eq_lt.mpr h).symm
  have hgt : ∀ {i j : Int}, j < i → some Ordering.gt = some (compare i j) :=
    fun h => congrArg some (Int.compare_eq_gt.mpr h).symm
  cases ha with
  | infinity =>
    cases hb with
    | infinity => rfl
    | minusInfinity => rfl
    | zero => rfl
    | positive pos fits => exact hgt (fits.bounds pos).2
    | negative pos fits => exact hgt (by have := fits.bounds pos; omega)
  | minusInfinity =>
    cases hb with
    | infinity => rfl
    | minusInfinity => rfl
    | zero => rfl
    | positive pos fits => exact hlt (by have := fits.bounds pos; omega)
    | negative pos fits => exact hlt (by have := fits.bounds pos; omega)
  | zero =>
    cases hb with
    | infinity => rfl
    | minusInfinity => rfl
    | zero => rfl
    | positive pos fits => exact hlt (fits.bounds pos).1
    | negative pos fits => exact hgt (by have := fits.bounds pos; omega)
  | positive pos fits =>
    cases hb with
    | infinity => exact hlt (fits.bounds pos).2
    | minusInfinity => exact hgt (by have := fits.bounds pos; omega)
    | zero => exact hgt (fits.bounds pos).1
    | positive pos' fits' => exact congrArg some (compare_fields fits fits')
    | negative pos' fits' =>
      exact hgt (by have := fits.bounds pos; have := fits'.bounds pos'; omega)
  | negative pos fits =>
    cases hb with
    | infinity => exact hlt (by have := fits.bounds pos; omega)
    | minusInfinity => exact hgt (by have := fits.bounds pos; omega)
    | zero => exact hlt (by have := fits.bounds pos; omega)
    | positive pos' fits' =>
      exact hlt (by have := fits.bounds pos; have := fits'.bounds pos'; omega)
    | negative pos' fits' =>
      rw [compare_negated, ← compare_fields fits fits']
      rfl

/-! ## Places of doubles -/

section Fields

variable (b : BitVec Format.binary64.numBits)

theorem toNat_unpackExponent : (unpackExponent b).toNat = b.toNat / 2 ^ 52 % 2 ^ 11 := by
  rw [unpackExponent_def, BitVec.extractLsb'_toNat, Nat.shiftRight_eq_div_pow]

theorem toNat_unpackMantissa : (unpackMantissa b).toNat = b.toNat % 2 ^ 52 := by
  rw [unpackMantissa_def, BitVec.extractLsb'_toNat, Nat.shiftRight_zero]

theorem sign_of_unpackSign :
    Sign.ofBitVec (unpackSign b) = if b.toNat < 2 ^ 63 then .positive else .negative := by
  have hsign : (unpackSign b).toNat = b.toNat / 2 ^ 63 % 2 := by
    rw [unpackSign_def, BitVec.extractLsb'_toNat, Nat.shiftRight_eq_div_pow]
    rfl
  have hb : b.toNat < 2 ^ 64 := b.isLt
  by_cases hlow : b.toNat < 2 ^ 63
  · have hzero : unpackSign b = 0#1 := BitVec.eq_of_toNat_eq (hsign.trans (by simp; omega))
    rw [Sign.ofBitVec, if_pos hzero, if_pos hlow]
  · have hone : unpackSign b ≠ 0#1 := by
      intro h
      rw [h, BitVec.toNat_ofNat] at hsign
      omega
    rw [Sign.ofBitVec, if_neg hone, if_neg hlow]

end Fields

theorem eq_of_toBits_eq {x y : Float} (h : x.toBits.toNat = y.toBits.toNat) : x = y :=
  Float.toBits_inj.mp (UInt64.toNat_inj.mp h)

/-- The place with a sign, given the one without. -/
def signed (sign : Sign) (k : Int) : Int :=
  match sign with
  | .positive => k
  | .negative => -1 - k

theorem stands_finite (sign : Sign) {m : Nat} {e : Int} (pos : 0 < m) (fits : Fits m e) :
    Stands (.finite sign m e pos) (signed sign ((e + 1074) * 2 ^ 52 + m)) := by
  cases sign with
  | positive => exact .positive pos fits
  | negative => exact .negative pos fits

/-- What the bits of a double spell stands where its exponent and fraction say, as one number. -/
theorem stands_unpack {b : BitVec Format.binary64.numBits} (hnan : (unpack .binary64 b).isNaN = false)
    (hzero : b.toNat ≠ 2 ^ 63) : Stands (unpack .binary64 b)
      (signed (Sign.ofBitVec (unpackSign b)) ((unpackExponent b).toNat * 2 ^ 52 + (unpackMantissa b).toNat)) := by
  have hE : (unpackExponent b).toNat < 2 ^ 11 := (unpackExponent b).isLt
  have hM : (unpackMantissa b).toNat < 2 ^ 52 := (unpackMantissa b).isLt
  have hbias : (Format.binary64.exponentBias : Int) = 1023 := rfl
  unfold unpack at hnan ⊢
  dsimp only at hnan ⊢
  rw [hbias]
  split at hnan
  · next hones =>
    split at hnan
    · next hnone =>
      rw [if_pos hones, if_pos hnone, hones, hnone]
      cases Sign.ofBitVec (unpackSign b) with
      | positive => exact .infinity
      | negative => exact .minusInfinity
    · cases hnan
  · next hones =>
    have htop : (unpackExponent b).toNat ≠ 2047 := fun h => hones (BitVec.eq_of_toNat_eq h)
    rw [if_neg hones]
    split
    · next hlow =>
      have hlow : (unpackExponent b).toNat = 0 := congrArg BitVec.toNat hlow
      split
      · next hnone =>
        have hnone : (unpackMantissa b).toNat = 0 := congrArg BitVec.toNat hnone
        have hpos : b.toNat < 2 ^ 63 := by
          rw [toNat_unpackExponent] at hlow
          rw [toNat_unpackMantissa] at hnone
          have hb : b.toNat < 2 ^ 64 := b.isLt
          omega
        rw [hlow, hnone, sign_of_unpackSign, if_pos hpos]
        exact .zero
      · next hsome =>
        have hpos : (unpackMantissa b).toNat ≠ 0 := fun h => hsome (BitVec.eq_of_toNat_eq h)
        have hplace : ((unpackExponent b).toNat * 2 ^ 52 + (unpackMantissa b).toNat : Int) =
            (((unpackExponent b).toNat - (1023 + (52 : Nat)) + 1 : Int) + 1074) * 2 ^ 52 +
              (unpackMantissa b).toNat := by omega
        rw [hplace]
        exact stands_finite _ _ ⟨by omega, by omega, by omega, by omega⟩
    · next hlow =>
      have hlow : (unpackExponent b).toNat ≠ 0 := fun h => hlow (BitVec.eq_of_toNat_eq h)
      have hbit : (1#1 ++ unpackMantissa b).toNat = 2 ^ 52 + (unpackMantissa b).toNat := by
        rw [BitVec.toNat_append]
        exact (Nat.two_pow_add_eq_or_of_lt hM 1).symm
      have hplace : ((unpackExponent b).toNat * 2 ^ 52 + (unpackMantissa b).toNat : Int) =
          (((unpackExponent b).toNat - (1023 + (52 : Nat)) : Int) + 1074) * 2 ^ 52 +
            (1#1 ++ unpackMantissa b).toNat := by omega
      rw [hplace]
      exact stands_finite _ _ ⟨by omega, by omega, by omega, by omega⟩

theorem rank_eq (x : Float) : rank x = if x.toBits.toNat < 2 ^ 63 then (x.toBits.toNat : Int)
    else -1 - ((x.toBits.toNat - 2 ^ 63 : Nat) : Int) := rfl

/-- An ordinary double stands where the number stands that its bits spell. -/
theorem stands_rank {x : Float} (h : IsOrdinary x) : Stands x.toModel.unpack (rank x) := by
  have hzero : x.toBits.toBitVec.toNat ≠ 2 ^ 63 := fun h' => h.2 (eq_of_toBits_eq h')
  have hbits : x.toBits.toNat < 2 ^ 64 := x.toBits.toNat_lt
  have hplace : signed (if x.toBits.toNat < 2 ^ 63 then .positive else .negative)
      ((x.toBits.toNat / 2 ^ 52 % 2 ^ 11 : Nat) * 2 ^ 52 + (x.toBits.toNat % 2 ^ 52 : Nat)) = rank x := by
    rw [rank_eq]
    split <;> simp only [signed] <;> omega
  have hstands := stands_unpack h.1 hzero
  rw [toNat_unpackExponent, toNat_unpackMantissa, sign_of_unpackSign] at hstands
  exact hplace ▸ hstands

/-- No two doubles stand at one place. -/
theorem eq_of_rank_eq {x y : Float} (h : rank x = rank y) : x = y := by
  apply eq_of_toBits_eq
  rw [rank_eq, rank_eq] at h
  split at h <;> split at h <;> omega

/-! ## Comparing -/

section

variable {x y : Float}

theorem compare_eq_rank (hx : IsOrdinary x) (hy : IsOrdinary y) :
    x.toModel.unpack.compare y.toModel.unpack = some (compare (rank x) (rank y)) :=
  (stands_rank hx).compare_eq (stands_rank hy)

theorem lt_iff_rank_lt (hx : IsOrdinary x) (hy : IsOrdinary y) : x < y ↔ rank x < rank y := by
  show decide ((x.toModel.unpack.compare y.toModel.unpack == some .lt) = true) = true ↔ _
  rw [decide_eq_true_eq, beq_iff_eq, compare_eq_rank hx hy, Option.some.injEq, Int.compare_eq_lt]

theorem le_iff_rank_le (hx : IsOrdinary x) (hy : IsOrdinary y) : x ≤ y ↔ rank x ≤ rank y := by
  show decide ((x.toModel.unpack.compare y.toModel.unpack).any (·.isLE) = true) = true ↔ _
  rw [decide_eq_true_eq, compare_eq_rank hx hy, Option.any_some, Int.isLE_compare]

namespace IsOrdinary

theorem le_refl (hx : IsOrdinary x) : x ≤ x := (le_iff_rank_le hx hx).mpr (Int.le_refl _)

theorem le_trans {z : Float} (hx : IsOrdinary x) (hy : IsOrdinary y) (hz : IsOrdinary z) (hxy : x ≤ y)
    (hyz : y ≤ z) : x ≤ z :=
  (le_iff_rank_le hx hz).mpr (Int.le_trans ((le_iff_rank_le hx hy).mp hxy) ((le_iff_rank_le hy hz).mp hyz))

theorem le_antisymm (hx : IsOrdinary x) (hy : IsOrdinary y) (hxy : x ≤ y) (hyx : y ≤ x) : x = y :=
  eq_of_rank_eq (Int.le_antisymm ((le_iff_rank_le hx hy).mp hxy) ((le_iff_rank_le hy hx).mp hyx))

end IsOrdinary

theorem greater_eq_or (x y : Float) : greater x y = x ∨ greater x y = y := by
  unfold greater
  split
  · exact .inr rfl
  · split
    · exact .inr rfl
    · exact .inl rfl

theorem le_greater (hx : IsOrdinary x) (hy : IsOrdinary y) : x ≤ greater x y ∧ y ≤ greater x y := by
  rw [greater, hx.1, if_neg Bool.false_ne_true]
  split
  · next hlt =>
    rw [lt_iff_rank_lt hx hy] at hlt
    exact ⟨(le_iff_rank_le hx hy).mpr (Int.le_of_lt hlt), hy.le_refl⟩
  · next hle =>
    rw [lt_iff_rank_lt hx hy, Int.not_lt] at hle
    exact ⟨hx.le_refl, (le_iff_rank_le hy hx).mpr hle⟩

end

end PageEdit.Number
