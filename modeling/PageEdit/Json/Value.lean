import PageEdit.Number.Layout

/-!
# JSON values

Numbers are kept in the three forms that reading tells apart: naturals and negative integers of 64 bits,
and doubles. The members of an object that has been read are in the order of their keys.
-/

namespace PageEdit.Json

/-- A number: a natural below `2^64`, the negative of a number up to `2^63`, or a double. -/
inductive Number where
  | natural (n : Nat)
  | negative (n : Nat)
  | float (x : Float)
  deriving Repr, Inhabited

/-- A value. -/
inductive Value where
  | null
  | bool (b : Bool)
  | number (n : Number)
  | text (s : String)
  | list (items : List Value)
  | object (members : List (String × Value))
  deriving Repr, Inhabited

/-- The double nearest to a number. -/
def Number.toFloat : Number → Float
  | .natural n => Float.ofNat n
  | .negative n => -Float.ofNat n
  | .float x => x

/-! ## Members in the order of keys -/

/-- The members with `value` under `key`, in the place that the order of keys gives it. -/
def put (key : String) (value : Value) : List (String × Value) → List (String × Value)
  | [] => [(key, value)]
  | (k, v) :: rest =>
    if key == k then (key, value) :: rest
    else if key < k then (key, value) :: (k, v) :: rest
    else (k, v) :: put key value rest

/-- The value under a key. -/
def find? (key : String) (members : List (String × Value)) : Option Value :=
  (members.find? (·.1 == key)).map (·.2)

/-- The object with the given members, the last of equal keys standing. -/
def Value.ofMembers (members : List (String × Value)) : Value :=
  .object (members.foldl (fun acc (k, v) => put k v acc) [])

/-- The member of an object under a key. -/
def Value.get? (v : Value) (key : String) : Option Value :=
  match v with
  | .object members => find? key members
  | _ => none

/-- The text that a value is. -/
def Value.asText? : Value → Option String
  | .text s => some s
  | _ => none

end PageEdit.Json
