import PageEdit.Json.Fault

/-!
# Taking values apart

A decoder turns a value into what it stands for, or says how it mismatches. A record is read from an
object, whose members come in the order of their keys and of which unknown ones are passed over, or from a
list of its fields in order. The first mismatch met is the one reported.
-/

namespace PageEdit.Json

/-- A reader of values. -/
abbrev Decoder (α : Type) := Value → Except Mismatch α

namespace Decoder

/-- The mismatch of a value that is not `expected`. -/
def refuse {α : Type} (v : Value) (expected : String) : Except Mismatch α :=
  .error (.wrongType v.found expected)

/-- A text. -/
def text : Decoder String
  | .text s => .ok s
  | v => refuse v "a string"

/-- A truth value. -/
def bool : Decoder Bool
  | .bool b => .ok b
  | v => refuse v "a boolean"

/-- A natural of 64 bits. -/
def natural : Decoder Nat
  | .number (.natural n) => .ok n
  | .number (.negative n) => .error (.wrongValue (.number (.negative n)) "usize")
  | v => refuse v "usize"

/-- A number as a double. -/
def float : Decoder Float
  | .number n => .ok n.toFloat
  | v => refuse v "f64"

/-- A value that may be null. -/
def optional {α : Type} (d : Decoder α) : Decoder (Option α)
  | .null => .ok none
  | v => (d v).map some

/-- A list of values of one kind. -/
def list {α : Type} (d : Decoder α) : Decoder (List α)
  | .list items => items.mapM d
  | v => refuse v "a sequence"

/-- The members of an object, all of one kind. -/
def members {α : Type} (d : Decoder α) : Decoder (List (String × α))
  | .object ms => ms.mapM fun (k, v) => (d v).map ((k, ·))
  | v => refuse v "a map"

/-- One of the named variants, alone or as the only key of an object over null. -/
def variant {α : Type} (names : List (String × α)) : Decoder α := fun v => do
  let pick (name : String) : Except Mismatch α :=
    match names.find? (·.1 == name) with
    | some (_, a) => .ok a
    | none => .error (.unknownVariant name (names.map (·.1)))
  match v with
  | .text name => pick name
  | .object [(name, inner)] =>
    let a ← pick name
    match inner with
    | .null => return a
    | _ => refuse inner "unit"
  | .object _ => .error (.wrongValue .object "map with a single key")
  | _ => refuse v "string or map"

/-! ## Records -/

/-- How one field is taken from its value into the record read so far, and what stands in for it. -/
structure Field (α : Type) where
  name : String
  read : Value → α → Except Mismatch α
  /-- Whether the record can do without the field. -/
  required : Bool

/-- A field that must be there. -/
def Field.need {α β : Type} (name : String) (d : Decoder β) (set : β → α → α) : Field α :=
  ⟨name, fun v a => (d v).map (set · a), true⟩

/-- A field that may be absent. -/
def Field.mayHave {α β : Type} (name : String) (d : Decoder β) (set : β → α → α) : Field α :=
  ⟨name, fun v a => (d v).map (set · a), false⟩

/-- A record, read into `start`, with the wording for what it is. -/
def record {α : Type} (expected : String) (fields : List (Field α)) (start : α) : Decoder α
  | .object ms => do
    let a ← ms.foldlM (fun a (k, v) =>
      match fields.find? (·.name == k) with
      | some f => f.read v a
      | none => .ok a) start
    match fields.find? fun f => f.required && !ms.any (·.1 == f.name) with
    | some f => .error (.missingField f.name)
    | none => return a
  | .list items => do
    let a ← (fields.zip items).foldlM (fun a (f, v) => f.read v a) start
    match (fields.drop items.length).findIdx? (·.required) with
    | some i =>
      .error (.wrongLength (items.length + i)
        ("struct " ++ expected ++ " with " ++ toString fields.length ++
          if fields.length == 1 then " element" else " elements"))
    | none =>
      if fields.length < items.length then
        .error (.wrongLength items.length "fewer elements in array")
      else return a
  | v => refuse v ("struct " ++ expected)

end Decoder

end PageEdit.Json
