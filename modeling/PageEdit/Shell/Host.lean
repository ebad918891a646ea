import PageEdit.Text.Utf8

/-!
# Hosts

What a command needs of the machine that it runs on: to read, write and rename files and to make
directories. Everything else that a command does is decided by what these give.
-/

namespace PageEdit.Shell

/-- Why a file cannot be used. -/
inductive FileFault where
  | missing
  | exists
  | busy
  | notDirectory
  | isDirectory
  /-- The bytes of the file are not UTF-8. -/
  | notText
  | other (text : String)
  deriving Repr, DecidableEq

/-- The wording of a fault. -/
def FileFault.message : FileFault → String
  | .missing => "No such file or directory (os error 2)"
  | .busy => "Device or resource busy (os error 16)"
  | .exists => "File exists (os error 17)"
  | .notDirectory => "Not a directory (os error 20)"
  | .isDirectory => "Is a directory (os error 21)"
  | .notText => "stream did not contain valid UTF-8"
  | .other text => text

/-- A machine with files. -/
structure Host (m : Type → Type) where
  /-- The directory of the user. -/
  home : String
  read : String → m (Except FileFault (List UInt8))
  write : String → String → m (Except FileFault Unit)
  /-- Gives a file another name, in place of any file of that name. -/
  rename : String → String → m (Except FileFault Unit)
  /-- Makes a directory and those around it, as far as they are missing. -/
  makeDirectory : String → m (Except FileFault Unit)

/-- Reads the text of a file. -/
def Host.readText {m : Type → Type} [Monad m] (host : Host m) (path : String) :
    m (Except FileFault String) := do
  match ← host.read path with
  | .error fault => return .error fault
  | .ok bytes =>
    match Text.Utf8.decode bytes with
    | .error _ => return .error .notText
    | .ok text => return .ok text

end PageEdit.Shell
