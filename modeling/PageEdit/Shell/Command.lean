import PageEdit.Shell.Arguments

/-!
# Commands

What can be asked for on a command line: an outline, a ranking, a context, the application of an answer, and
the settings. Every command takes the options for what is logged, which change nothing that is printed.

* `Command.ofArguments`: the command of a command line.
-/

namespace PageEdit.Shell

/-- A command. -/
inductive Command where
  /-- Shows the outline of a page. -/
  | outline (file : String) (asJson : Bool)
  /-- Ranks the sections of a page. -/
  | relevant (file request : String) (limit : Option Nat) (asListing : Bool)
  /-- Shows the context for a request. -/
  | context (file request : String) (budget : Option Nat) (noParents withSiblings : Bool)
  /-- Applies an answer to a page. -/
  | apply (file response : String) (out : Option String) (allOrNothing : Bool)
      (rollback : Option String)
  /-- Writes the standard settings. -/
  | initSettings
  /-- Shows the settings. -/
  | showSettings
  deriving Repr, DecidableEq

/-- A natural number of 64 bits, which a plus may precede. -/
def natural? (s : String) : Option Nat :=
  let digits := match s.toList with
    | '+' :: rest => rest
    | s => s
  if digits.isEmpty || !digits.all Char.isDigit then none
  else
    let n := digits.foldl (fun n c => n * 10 + (c.toNat - '0'.toNat)) 0
    if n < Nat.pow 2 64 then some n else none

namespace Form

/-- An option without a value. -/
def switch (name : String) : Form := ⟨name, none, .nothing⟩

/-- An option with a text. -/
def text (name : String) (letter : Option Char) : Form := ⟨name, letter, .value fun _ => true⟩

/-- An option with the name of a file. -/
def file (name : String) (letter : Option Char) : Form := ⟨name, letter, .value fun s => !s.isEmpty⟩

/-- An option with a number. -/
def number (name : String) : Form := ⟨name, none, .value fun s => (natural? s).isSome⟩

/-- The options for what is logged. -/
def logging : List Form :=
  [⟨"log-format", none, .value fun s => s == "text" || s == "json"⟩,
   ⟨"verbose", some 'v', .nothingAgain⟩]

/-- The options in front of a command. -/
def main : List Form := ⟨"version", some 'V', .nothingMore⟩ :: logging

/-- The options for an outline. -/
def outline : List Form := switch "json" :: logging

/-- The options for a ranking. -/
def relevant : List Form :=
  [text "request" (some 'r'), number "max", switch "render"] ++ logging

/-- The options for a context. -/
def context : List Form :=
  [text "request" (some 'r'), number "budget", switch "no-parents", switch "siblings"] ++ logging

/-- The options for an answer. -/
def apply : List Form :=
  [file "response" none, file "out" (some 'o'), switch "atomic", file "rollback" none] ++ logging

end Form

namespace Given

/-- The only operand, the name of a file. -/
def file (g : Given) : Except Halt String :=
  match g.operands with
  | [s] => if s.isEmpty then .error .usage else .ok s
  | _ => .error .usage

/-- The value of an option that has to be there. -/
def need (g : Given) (name : String) : Except Halt String :=
  match g.value? name with
  | some s => .ok s
  | none => .error .usage

/-- The number that an option is given. -/
def number? (g : Given) (name : String) : Option Nat := g.value? name >>= natural?

end Given

/-- Reads all that follows a command. -/
def readAll (forms : List Form) (args : List String) : Except Halt Given :=
  (read forms false .nothing args).map (·.1)

/-- Reads what follows the word for settings. -/
def settingsCommand (args : List String) : Except Halt Command := do
  match (← read Form.logging true .nothing args).2 with
  | name :: rest =>
    let g ← readAll Form.logging rest
    if !g.operands.isEmpty then .error .usage
    else if name == "init" then return .initSettings
    else if name == "show" then return .showSettings
    else .error .usage
  | [] => .error .usage

/-- The command of a command line. -/
def Command.ofArguments (args : List String) : Except Halt Command := do
  match (← read Form.main true .nothing args).2 with
  | "parse" :: rest =>
    let g ← readAll Form.outline rest
    return .outline (← g.file) (g.has "json")
  | "relevant" :: rest =>
    let g ← readAll Form.relevant rest
    return .relevant (← g.file) (← g.need "request") (g.number? "max") (g.has "render")
  | "context" :: rest =>
    let g ← readAll Form.context rest
    return .context (← g.file) (← g.need "request") (g.number? "budget") (g.has "no-parents")
      (g.has "siblings")
  | "apply" :: rest =>
    let g ← readAll Form.apply rest
    return .apply (← g.file) (← g.need "response") (g.value? "out") (g.has "atomic")
      (g.value? "rollback")
  | "config" :: rest => settingsCommand rest
  | _ => .error .usage

end PageEdit.Shell
