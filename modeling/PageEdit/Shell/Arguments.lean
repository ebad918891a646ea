/-!
# Command lines

Options stand under a long name or a letter, letters may share a hyphen, and a value may follow its option
in the same argument or in the next one. A value of its own argument never begins with a hyphen, unless it
is nothing else. After two hyphens everything is an operand.
-/

namespace PageEdit.Shell

/-- What an option takes. -/
inductive Takes where
  /-- Nothing, and it is given once at most. -/
  | nothing
  /-- Nothing, and it may be given again. -/
  | nothingAgain
  /-- A value that passes a test. -/
  | value (passes : String → Bool)
  /-- Nothing, and the rest of the line does not matter. -/
  | nothingMore

/-- An option. -/
structure Form where
  name : String
  letter : Option Char
  takes : Takes

/-- Why a command line is not carried out. -/
inductive Halt where
  /-- It is not understood. -/
  | usage
  /-- It asks for the version. -/
  | version
  deriving Repr, DecidableEq

/-- What a command line gives. -/
structure Given where
  /-- The options without a value. -/
  switches : List String
  values : List (String × String)
  operands : List String
  deriving Repr, DecidableEq

namespace Given

/-- Nothing. -/
def nothing : Given := ⟨[], [], []⟩

/-- Whether an option without a value is given. -/
def has (g : Given) (name : String) : Bool := g.switches.contains name

/-- The value of an option. -/
def value? (g : Given) (name : String) : Option String :=
  (g.values.find? (·.1 == name)).map (·.2)

/-- One more option without a value. -/
def switch (g : Given) (form : Form) : Except Halt Given :=
  match form.takes with
  | .nothing =>
    if g.has form.name then .error .usage else .ok { g with switches := g.switches ++ [form.name] }
  | .nothingAgain => .ok { g with switches := g.switches ++ [form.name] }
  | .nothingMore => .error .version
  | .value _ => .error .usage

/-- One more option with its value. -/
def set (g : Given) (form : Form) (value : String) : Except Halt Given :=
  match form.takes with
  | .value passes =>
    if (g.value? form.name).isSome || !passes value then .error .usage
    else .ok { g with values := g.values ++ [(form.name, value)] }
  | _ => .error .usage

/-- One more operand. -/
def operand (g : Given) (s : String) : Given := { g with operands := g.operands ++ [s] }

end Given

/-- What an argument comes to. -/
inductive Argument where
  /-- All is given. -/
  | whole (g : Given)
  /-- The value of the option comes next. -/
  | awaits (g : Given) (form : Form)

/-- Whether an option takes a value. -/
def Form.takesValue (form : Form) : Bool :=
  match form.takes with
  | .value _ => true
  | _ => false

/-- Reads what follows the two hyphens of a long option. -/
def readLong (forms : List Form) (g : Given) (s : List Char) : Except Halt Argument :=
  let name := String.ofList (s.takeWhile (· != '='))
  match forms.find? (·.name == name), s.dropWhile (· != '=') with
  | none, _ => .error .usage
  | some form, _ :: value => (g.set form (String.ofList value)).map .whole
  | some form, [] => if form.takesValue then .ok (.awaits g form) else (g.switch form).map .whole

/-- Reads what follows the hyphen of letters. -/
def readLetters (forms : List Form) (g : Given) : List Char → Except Halt Argument
  | [] => .ok (.whole g)
  | c :: rest => do
    match forms.find? (·.letter == some c) with
    | none => .error .usage
    | some form =>
      if form.takesValue then
        match rest with
        | [] => return .awaits g form
        | '=' :: value => return .whole (← g.set form (String.ofList value))
        | value => return .whole (← g.set form (String.ofList value))
      else readLetters forms (← g.switch form) rest

/-- Whether an argument looks like an option. -/
def looksLikeOption (s : String) : Bool :=
  match s.toList with
  | '-' :: _ :: _ => true
  | _ => false

/-- Reads an argument that looks like an option. -/
def readOption (forms : List Form) (g : Given) (s : String) : Except Halt Argument :=
  match s.toList with
  | '-' :: '-' :: rest => readLong forms g rest
  | '-' :: rest => readLetters forms g rest
  | _ => .error .usage

/-- Reads a command line. If it is to stop at the first operand, that one and what follows are left over. -/
def read (forms : List Form) (stops : Bool) (g : Given) : List String → Except Halt (Given × List String)
  | [] => .ok (g, [])
  | s :: rest =>
    if s == "--" then
      if stops then .error .usage else .ok (rest.foldl Given.operand g, [])
    else if looksLikeOption s then
      match readOption forms g s with
      | .error halt => .error halt
      | .ok (.whole g) => read forms stops g rest
      | .ok (.awaits g form) =>
        match rest with
        | [] => .error .usage
        | value :: rest =>
          if looksLikeOption value then .error .usage
          else match g.set form value with
            | .error halt => .error halt
            | .ok g => read forms stops g rest
    else if stops then .ok (g, s :: rest)
    else read forms stops (g.operand s) rest

end PageEdit.Shell
