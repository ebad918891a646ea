/-!
# Totals

The total of some naturals.

* `le_total`: none of them is greater.
* `total_le_of_sublist`: the total of a part is not greater.
-/

namespace PageEdit.Number

/-- The total of some naturals. -/
def total : List Nat → Nat
  | [] => 0
  | n :: rest => n + total rest

theorem total_append (a b : List Nat) : total (a ++ b) = total a + total b := by
  induction a with
  | nil => simp [total]
  | cons n rest ih => simp [total, ih, Nat.add_assoc]

theorem total_le_of_sublist {a b : List Nat} (h : a.Sublist b) : total a ≤ total b := by
  induction h with
  | slnil => exact Nat.le_refl _
  | cons n _ ih => exact Nat.le_trans ih (Nat.le_add_left _ _)
  | cons_cons n _ ih => exact Nat.add_le_add_left ih n

theorem le_total {l : List Nat} {n : Nat} (h : n ∈ l) : n ≤ total l := by
  induction l with
  | nil => simp at h
  | cons m rest ih =>
    simp only [total]
    rcases List.mem_cons.1 h with rfl | h
    · omega
    · exact Nat.le_trans (ih h) (Nat.le_add_left _ _)

end PageEdit.Number
