import PageEdit.Toml.Value

/-!
# Building tables

A document is a table that headers and assignments build up one by one. Nothing can be given twice: a table
can have one header, and a table that an assignment made by a dotted key takes no header at all. A header
may still give a table that only headers of tables in it have made.
-/

namespace PageEdit.Toml

/-- How a table came about. -/
inductive Origin where
  /-- It has a header of its own. -/
  | header
  /-- A header names a table in it. -/
  | around
  /-- An assignment has a path through it. -/
  | dotted
  deriving Repr, DecidableEq

/-- A member of a table under construction. -/
inductive Item where
  | leaf (v : Value)
  | table (origin : Origin) (members : List (String × Item))
  /-- Tables that share a header, the last one being open. -/
  | tables (done : List (List (String × Item))) (last : List (String × Item))
  deriving Inhabited

/-- The members of a table under construction. -/
abbrev Members := List (String × Item)

/-- The members with the one under a key changed, or added if there is none. -/
def alter (key : String) (f : Option Item → Option Item) : Members → Option Members
  | [] => (f none).map fun item => [(key, item)]
  | (k, item) :: rest =>
    if k = key then (f (some item)).map fun item => (k, item) :: rest
    else (alter key f rest).map ((k, item) :: ·)

/-- Gives a new member. -/
def give (key : String) (item : Item) : Members → Option Members :=
  alter key fun
    | none => some item
    | some _ => none

/-- Gives a value to the key at the end of a path. -/
def assign (key : String) (v : Value) : List String → Members → Option Members
  | [] => give key (.leaf v)
  | step :: path => alter step fun
    | none => (assign key v path []).map (.table .dotted)
    | some (.leaf _) => none
    | some (.table .header _) => none
    | some (.table origin members) =>
      if path.isEmpty && origin != .dotted then none
      else (assign key v path members).map (.table origin)
    | some (.tables done last) =>
      if path.isEmpty then none else (assign key v path last).map (.tables done)

/-- Changes the table at the end of a path of headers. -/
def inside (f : Members → Option Members) : List String → Members → Option Members
  | [] => f
  | step :: path => alter step fun
    | none => (inside f path []).map (.table .around)
    | some (.leaf _) => none
    | some (.table origin members) => (inside f path members).map (.table origin)
    | some (.tables done last) => (inside f path last).map (.tables done)

/-- Gives the header of a table. -/
def openTable (key : String) : Members → Option Members :=
  alter key fun
    | none => some (.table .header [])
    | some (.table .around members) => some (.table .header members)
    | some _ => none

/-- Gives the header of one more table of several. -/
def openNext (key : String) : Members → Option Members :=
  alter key fun
    | none => some (.tables [] [])
    | some (.tables done last) => some (.tables (done ++ [last]) [])
    | some _ => none

/-! ## Finished tables -/

mutual

/-- The value of a member. -/
def Item.value : Item → Value
  | .leaf v => v
  | .table _ members => .table (valuesOf members)
  | .tables done last => .list (tablesOf done ++ [.table (valuesOf last)])

/-- The values of the members of a table. -/
def valuesOf : List (String × Item) → List (String × Value)
  | [] => []
  | (k, item) :: rest => (k, item.value) :: valuesOf rest

/-- The values of some tables. -/
def tablesOf : List (List (String × Item)) → List Value
  | [] => []
  | members :: rest => .table (valuesOf members) :: tablesOf rest

end

/-- The table of some assignments, each to the last key of its path. -/
def tableOf? (pairs : List (List String × String × Value)) : Option Value := do
  let members ← pairs.foldlM (fun members (path, key, v) => assign key v path members) []
  return .table (valuesOf members)

/-! ## Documents -/

/-- A line of a document that is not empty. -/
inductive Statement where
  | assign (path : List String) (key : String) (v : Value)
  | header (path : List String) (key : String)
  /-- The header of one more table of several. -/
  | nextHeader (path : List String) (key : String)
  deriving Repr

/-- A document under construction. -/
structure Draft where
  root : Members
  /-- The path of the open table. -/
  current : List String

/-- A document with one more statement. -/
def Draft.add (d : Draft) : Statement → Option Draft
  | .assign path key v => do
    return { d with root := ← inside (Toml.assign key v path) d.current d.root }
  | .header path key => do
    return ⟨← inside (openTable key) path d.root, path ++ [key]⟩
  | .nextHeader path key => do
    return ⟨← inside (openNext key) path d.root, path ++ [key]⟩

/-- The table that some statements give, if they agree. -/
def Value.ofStatements? (statements : List Statement) : Option Value := do
  let d ← statements.foldlM Draft.add ⟨[], []⟩
  return .table (valuesOf d.root)

end PageEdit.Toml
