import PageEdit.Shell.Run

/-!
# The program

Runs a command line on the files of the machine.
-/

namespace PageEdit

open Shell (FileFault Host Result)

/-- The fault that an error stands for. The code of an error may come with its sign turned. -/
def faultOf : IO.Error → FileFault
  | .noFileOrDirectory .. => .missing
  | .alreadyExists .. => .exists
  | .resourceBusy .. => .busy
  | .inappropriateType _ code _ => if min code (0 - code) == 20 then .notDirectory else .isDirectory
  | e => .other (toString e)

/-- Does something with a file. -/
def attempt {α : Type} (x : IO α) : IO (Except FileFault α) := do
  try
    return .ok (← x)
  catch e =>
    return .error (faultOf e)

/-- The machine. -/
def machine (home : String) : Host IO where
  home
  read path := attempt do return (← IO.FS.readBinFile path).toList
  write path text := attempt (IO.FS.writeFile path text)
  rename old new := attempt (IO.FS.rename old new)
  makeDirectory path := attempt (IO.FS.createDirAll path)

/-- The causes of a failure, numbered. -/
def failureText (causes : List String) : String :=
  "Error:\n" ++ String.join (causes.zipIdx.map fun (cause, i) => "   " ++ toString i ++ ": " ++ cause ++ "\n")

/-- Runs a command line and gives the code that it ends with. -/
def runHere (args : List String) : IO UInt32 := do
  let home := (← IO.getEnv "HOME").getD ""
  let result ← Shell.run (machine home) args
  match result with
  | .done printed =>
    IO.eprint printed.notes
    IO.print printed.out
  | .failed causes printed =>
    IO.eprint printed.notes
    IO.eprint (failureText causes)
  | .usage => IO.eprintln "error: the command line is not understood"
  return UInt32.ofNat result.code

end PageEdit

def main (args : List String) : IO UInt32 := PageEdit.runHere args
