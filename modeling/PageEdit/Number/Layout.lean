import PageEdit.Number.Shortest

/-!
# How a number is written

A `Layout` says where positional writing ends, whether a whole number keeps a point, and how an
exponent is marked.
-/

namespace PageEdit.Number

/-- The decisions of a written form for numbers. -/
structure Layout where
  /-- The exponents, in scientific writing, that are written out by place. -/
  leastPlain : Option Int
  greatestPlain : Option Int
  /-- Whether a whole number written by place ends in `.0`. -/
  keepsPoint : Bool
  /-- Whether a positive exponent has a sign. -/
  plusExponent : Bool

/-- A run of `n` zeros. -/
def zeros (n : Nat) : String := String.ofList (List.replicate n '0')

/-- A decimal written by place. -/
def Decimal.plain (d : Decimal) (keepsPoint : Bool) : String :=
  let digits := toString d.digits
  if 0 ≤ d.exponent then
    digits ++ zeros d.exponent.toNat ++ (if keepsPoint then ".0" else "")
  else
    let places := (-d.exponent).toNat
    if places < digits.length then
      String.ofList (digits.toList.take (digits.length - places)) ++ "." ++
        String.ofList (digits.toList.drop (digits.length - places))
    else "0." ++ zeros (places - digits.length) ++ digits

/-- A decimal with its point after the first digit and an exponent. -/
def Decimal.scientific (d : Decimal) (plusExponent : Bool) : String :=
  let digits := toString d.digits
  let power := d.exponent + (digits.length - 1 : Nat)
  let rest := String.ofList (digits.toList.drop 1)
  String.ofList (digits.toList.take 1) ++ (if rest.isEmpty then "" else "." ++ rest) ++ "e" ++
    (if plusExponent && 0 ≤ power then "+" else "") ++ toString power

/-- A decimal in the form that the layout asks for. -/
def Layout.write (l : Layout) (d : Decimal) : String :=
  let power := d.exponent + (digitCount d.digits - 1 : Nat)
  let plain := l.leastPlain.all (· ≤ power) && l.greatestPlain.all (power ≤ ·)
  if plain then d.plain l.keepsPoint else d.scientific l.plusExponent

/-- A number in a layout, given how many digits suffice for its kind. -/
def Layout.text (l : Layout) (digits : Binary → Decimal) : Parts → String
  | .finite negative size => (if negative then "-" else "") ++ l.write (digits size)
  | .zero negative => (if negative then "-" else "") ++ (if l.keepsPoint then "0.0" else "0")
  | .infinite negative => if negative then "-inf" else "inf"
  | .nan => "NaN"

end PageEdit.Number
