import PageEdit.Text.CaseRanges

/-!
# Lower case

The full lower-case mapping of Unicode. Two characters do not follow the table of single mappings:
the dotted capital I becomes two characters, and a capital sigma depends on its neighbours.
-/

namespace PageEdit.Text

/-- Whether the property Cased holds. -/
def isCased (c : Char) : Bool := inRanges casedRanges c.toNat

/-- Whether the property Case_Ignorable holds. -/
def isCaseIgnorable (c : Char) : Bool := inRanges caseIgnorableRanges c.toNat

/-- The shift from a character to its lower case, if it has one beyond ASCII. -/
def lowerShift (n : Nat) : Int :=
  match lowerRuns.find? fun r => r.first ≤ n && n ≤ r.last && (n - r.first) % r.step == 0 with
  | some r => r.shift
  | none => 0

/-- The lower case of a character regardless of its neighbours. -/
def lowerChar (c : Char) : List Char :=
  if c.toNat < 0x80 then [c.toLower]
  else if c.toNat == 0x130 then ['i', '\u0307']
  else [Char.ofNat ((c.toNat : Int) + lowerShift c.toNat).toNat]

/-- Whether the first character that counts for case is a cased one. -/
def meetsCased (s : List Char) : Bool :=
  match s.dropWhile isCaseIgnorable with
  | c :: _ => isCased c
  | [] => false

/-- Lower case, given the characters before, the nearest first. A sigma that ends a word is `ς`. -/
def lowerFrom (before : List Char) : List Char → List Char
  | [] => []
  | c :: cs =>
    let here :=
      if c == 'Σ' then (if meetsCased before && !meetsCased cs then ['ς'] else ['σ'])
      else lowerChar c
    here ++ lowerFrom (c :: before) cs

/-- A text in lower case. -/
def lower (s : String) : String := String.ofList (lowerFrom [] s.toList)

end PageEdit.Text
