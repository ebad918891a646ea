/-!
# Tables of character ranges

A property of characters is kept as the list of its ranges, ends included.
-/

namespace PageEdit.Text

/-- Whether a code point lies in one of the ranges. -/
def inRanges (table : List (Nat × Nat)) (n : Nat) : Bool :=
  table.any fun (first, last) => first ≤ n && n ≤ last

end PageEdit.Text
