/-!
# The fewest digits that read back

A finite binary number is `m · 2^q`. The reals that round to it form an interval around it; its ends
belong to it exactly if `m` is even. For one digit, two digits and so on, the two neighbours of the
number on the grid of decimals with that many digits are tried: the first grid with a neighbour in the
interval gives the digits, and of two neighbours the nearer wins.

All arithmetic is on naturals. `Decimal` is the result: `digits · 10^exponent`.
-/

namespace PageEdit.Number

/-- The decimal number `digits · 10^exponent`. -/
structure Decimal where
  digits : Nat
  exponent : Int
  deriving DecidableEq, Repr

/-- A positive binary number `mantissa · 2^exponent`. At the bottom of a binade the numbers below lie
twice as close as those above. -/
structure Binary where
  mantissa : Nat
  exponent : Int
  bottom : Bool
  deriving DecidableEq, Repr

/-- The quotient of two naturals, both sides of a comparison being kept whole. -/
structure Ratio where
  num : Nat
  den : Nat

/-- `n · 2^k` as a ratio. -/
def Ratio.scale2 (n : Nat) (k : Int) : Ratio :=
  if 0 ≤ k then ⟨n * Nat.pow 2 k.toNat, 1⟩ else ⟨n, Nat.pow 2 (-k).toNat⟩

/-- `n · 10^k` as a ratio. -/
def Ratio.scale10 (n : Nat) (k : Int) : Ratio :=
  if 0 ≤ k then ⟨n * Nat.pow 10 k.toNat, 1⟩ else ⟨n, Nat.pow 10 (-k).toNat⟩

/-- Whether `a < b`. -/
def Ratio.lt (a b : Ratio) : Bool := a.num * b.den < b.num * a.den

/-- Whether `a ≤ b`. -/
def Ratio.le (a b : Ratio) : Bool := a.num * b.den ≤ b.num * a.den

/-- The number itself. -/
def Binary.value (b : Binary) : Ratio := .scale2 (4 * b.mantissa) (b.exponent - 2)

/-- The least real that rounds to the number. -/
def Binary.low (b : Binary) : Ratio :=
  .scale2 (4 * b.mantissa - (if b.bottom then 1 else 2)) (b.exponent - 2)

/-- The greatest real that rounds to the number. -/
def Binary.high (b : Binary) : Ratio := .scale2 (4 * b.mantissa + 2) (b.exponent - 2)

/-- Whether a real rounds to the number. -/
def Binary.holds (b : Binary) (r : Ratio) : Bool :=
  if b.mantissa % 2 == 0 then b.low.le r && r.le b.high else b.low.lt r && r.lt b.high

/-- The number of decimal digits of a natural. -/
def digitCount (n : Nat) : Nat := (Nat.toDigits 10 n).length

/-- The power of ten at the first digit of a positive ratio. -/
def Ratio.magnitude (r : Ratio) : Int :=
  let guess := (digitCount r.num : Int) - digitCount r.den
  if (Ratio.scale10 1 guess).le r then guess else guess - 1

/-- The best decimal with steps of `10^step` that rounds to the number, if there is one. -/
def Binary.onGrid (b : Binary) (step : Int) : Option Decimal :=
  let v := b.value
  let below :=
    if 0 ≤ step then v.num / (v.den * Nat.pow 10 step.toNat) else v.num * Nat.pow 10 (-step).toNat / v.den
  let lower := Ratio.scale10 below step
  let upper := Ratio.scale10 (below + 1) step
  match b.holds lower, b.holds upper with
  | false, false => none
  | true, false => some ⟨below, step⟩
  | false, true => some ⟨below + 1, step⟩
  | true, true =>
    -- `lower + upper` against twice the value, over one denominator
    let sum := (lower.num + upper.num) * v.den
    let twice := 2 * v.num * lower.den
    if twice < sum then some ⟨below, step⟩
    else if sum < twice then some ⟨below + 1, step⟩
    else if below % 2 == 0 then some ⟨below, step⟩ else some ⟨below + 1, step⟩

/-- A decimal without zeros at the end of its digits. -/
def Decimal.strip : Nat → Decimal → Decimal
  | 0, d => d
  | fuel + 1, d =>
    if d.digits != 0 && d.digits % 10 == 0 then Decimal.strip fuel ⟨d.digits / 10, d.exponent + 1⟩
    else d

/-- The shortest decimal that rounds to the number, with at most `limit` digits. -/
def Binary.shortest (b : Binary) (limit : Nat) : Decimal :=
  let top := b.value.magnitude
  let hit := (List.range limit).findSome? fun (n : Nat) => b.onGrid (top - (n : Int))
  match hit with
  | some d => d.strip limit
  | none => ⟨0, 0⟩

/-- Finite numbers, infinities and what is no number, with their sign. -/
inductive Parts where
  | finite (negative : Bool) (size : Binary)
  | zero (negative : Bool)
  | infinite (negative : Bool)
  | nan
  deriving Repr

/-- The parts of a bit pattern with `width` bits of mantissa and the given exponent bias. -/
def Parts.ofBits (mantissaBits exponentBits : Nat) (bits : Nat) : Parts :=
  let fraction := bits % Nat.pow 2 mantissaBits
  let exponent := bits / Nat.pow 2 mantissaBits % Nat.pow 2 exponentBits
  let negative := bits / Nat.pow 2 (mantissaBits + exponentBits) % 2 == 1
  let bias : Int := (Nat.pow 2 (exponentBits - 1) - 1 + mantissaBits : Nat)
  if exponent == Nat.pow 2 exponentBits - 1 then
    if fraction == 0 then .infinite negative else .nan
  else if exponent == 0 then
    if fraction == 0 then .zero negative else .finite negative ⟨fraction, 1 - bias, false⟩
  else
    .finite negative ⟨fraction + Nat.pow 2 mantissaBits, exponent - bias, fraction == 0 && exponent != 1⟩

/-- The parts of a double. -/
def Parts.ofFloat (x : Float) : Parts := .ofBits 52 11 x.toBits.toNat

/-- The parts of a single. -/
def Parts.ofFloat32 (x : Float32) : Parts := .ofBits 23 8 x.toBits.toNat

/-- The shortest decimal of a double's size. -/
def Binary.decimal64 (b : Binary) : Decimal := b.shortest 17

/-- The shortest decimal of a single's size. -/
def Binary.decimal32 (b : Binary) : Decimal := b.shortest 9

end PageEdit.Number
