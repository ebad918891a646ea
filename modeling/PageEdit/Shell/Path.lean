import PageEdit.Text.Blank

/-!
# Paths

A path is a row of steps with slashes between them. Empty steps and single dots lead nowhere.
-/

namespace PageEdit.Shell.Path

/-- The steps of a path as they stand between slashes. -/
def pieces (path : String) : List String :=
  (Text.pieces (· == '/') path.toList).map String.ofList

/-- Whether a step leads nowhere. -/
def isIdle (step : String) : Bool := step.isEmpty || step == "."

/-- The steps that lead somewhere. -/
def steps (path : String) : List String := (pieces path).filter (!isIdle ·)

/-- The name of the file that a path leads to. -/
def fileName? (path : String) : Option String := (steps path).getLast?.filter (· != "..")

/-- Steps without those at the end that lead nowhere. -/
def trimIdle (steps : List String) : List String := (steps.reverse.dropWhile isIdle).reverse

/-- Whether a path begins at the root of all files. -/
def isAbsolute (path : String) : Bool := path.toList.head? == some '/'

/-- The way to the directory that a path leads into, as it is written, with its last slash. -/
def directory (path : String) : String :=
  let absolute := isAbsolute path
  let around := (trimIdle (if absolute then (pieces path).tail else pieces path)).dropLast
  let written := match trimIdle around with
    | [] => if !absolute && around.head? == some "." then ["."] else []
    | steps => steps
  (if absolute then "/" else "") ++ String.join (written.map (· ++ "/"))

/-- The path of another file in the same directory. -/
def sibling (path name : String) : String := directory path ++ name

end PageEdit.Shell.Path
