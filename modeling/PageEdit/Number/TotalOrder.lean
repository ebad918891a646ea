/-!
# The total order of doubles

Doubles in the order of their bits: minus infinity first, minus zero just before zero, and what is no
number after infinity. Sorting by it is never in doubt, whatever the scores are.

* `atMost_total`, `atMost_trans`: it is a total preorder.
-/

namespace PageEdit.Number

/-- The place of a double in the total order. -/
def rank (x : Float) : Int :=
  let bits := x.toBits.toNat
  if bits < Nat.pow 2 63 then bits else -1 - ((bits - Nat.pow 2 63 : Nat) : Int)

/-- Whether a double stands before another in the total order, or at the same place. -/
def atMost (x y : Float) : Bool := rank x ≤ rank y

theorem atMost_total (x y : Float) : atMost x y = true ∨ atMost y x = true := by
  simp only [atMost, decide_eq_true_eq]
  omega

theorem atMost_trans (x y z : Float) (h₁ : atMost x y = true) (h₂ : atMost y z = true) :
    atMost x z = true := by
  simp only [atMost, decide_eq_true_eq] at *
  omega

/-- The greater of two doubles, the first if they compare equal. What is no number gives way. -/
def greater (x y : Float) : Float := if x.isNaN then y else if x < y then y else x

end PageEdit.Number
