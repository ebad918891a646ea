/-!
# TOML values

Numbers with a fraction or an exponent and moments of time are kept as they are written. A table keeps its
members in the order in which they were given.
-/

namespace PageEdit.Toml

/-- A value. -/
inductive Value where
  | text (s : String)
  | integer (n : Int)
  | float (written : String)
  | bool (b : Bool)
  /-- A date, a time of day or both. -/
  | moment (written : String)
  | list (items : List Value)
  | table (members : List (String × Value))
  deriving Repr, Inhabited

namespace Value

/-- The natural number that a value is. -/
def asNatural? : Value → Option Nat
  | .integer n => if 0 ≤ n then some n.toNat else none
  | _ => none

/-- The truth value that a value is. -/
def asBool? : Value → Option Bool
  | .bool b => some b
  | _ => none

/-- A field of a record, by its name in a table or by its place in a list. A moment is a record with no
fields of interest; no other value is a record. -/
def field? (v : Value) (name : String) (place : Nat) : Option (Option Value) :=
  match v with
  | .table members => some ((members.find? (·.1 == name)).map (·.2))
  | .list items => some items[place]?
  | .moment _ => some none
  | _ => none

/-- What a field of a record stands for, or what stands in for a field that is not there. -/
def readField {α : Type} (v : Value) (name : String) (place : Nat) (read : Value → Option α)
    (standing : α) : Option α := do
  match ← v.field? name place with
  | some w => read w
  | none => return standing

end Value

end PageEdit.Toml
