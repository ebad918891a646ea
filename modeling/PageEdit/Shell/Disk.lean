import PageEdit.Shell.Host
import PageEdit.Shell.Path

/-!
# Files in memory

A disk is a directory with files in it, for commands to run on without a machine. A path is followed step
by step, and every step but the last must lead into a directory. There is nothing above the directory.
-/

namespace PageEdit.Shell

/-- Where a file or a directory is: the names that lead to it. -/
abbrev Location := List String

/-- Files and directories. -/
structure Disk where
  files : List (Location × List UInt8)
  /-- Directories, besides those that files are in. -/
  directories : List Location
  deriving Repr

namespace Disk

/-- A disk with nothing on it. -/
def empty : Disk := ⟨[], []⟩

/-- The bytes of a file. -/
def file? (d : Disk) (at_ : Location) : Option (List UInt8) :=
  (d.files.find? (·.1 == at_)).map (·.2)

/-- Whether there is a directory at a location. -/
def isDirectory (d : Disk) (at_ : Location) : Bool :=
  at_.isEmpty || d.directories.any (at_.isPrefixOf ·) ||
    d.files.any fun f => at_.isPrefixOf f.1 && f.1 != at_

/-- The disk without the file at a location. -/
def erase (d : Disk) (at_ : Location) : Disk := { d with files := d.files.filter (·.1 != at_) }

/-- The disk with a file in place of any at that location. -/
def put (d : Disk) (at_ : Location) (bytes : List UInt8) : Disk :=
  { d.erase at_ with files := (at_, bytes) :: (d.erase at_).files }

/-- Follows the steps of a path. -/
def follow (d : Disk) (at_ : Location) : List String → Except FileFault Location
  | [] => .ok at_
  | step :: rest =>
    if d.isDirectory at_ then
      if Path.isIdle step then d.follow at_ rest
      else if step == ".." then d.follow at_.dropLast rest
      else d.follow (at_ ++ [step]) rest
    else if (d.file? at_).isSome then .error .notDirectory
    else .error .missing

/-- The steps of a path from the directory, which may be called `home`. -/
def stepsFrom (home path : String) : List String :=
  match Path.pieces path with
  | first :: rest => if first == home then rest else first :: rest
  | [] => []

/-- Where a path leads. Nothing is outside of the directory. -/
def locate (d : Disk) (home path : String) : Except FileFault Location :=
  if path.isEmpty || Path.isAbsolute path then .error .missing
  else d.follow [] (stepsFrom home path)

/-- Reads a file. -/
def read (d : Disk) (home path : String) : Except FileFault (List UInt8) := do
  let at_ ← d.locate home path
  if d.isDirectory at_ then .error .isDirectory
  else match d.file? at_ with
    | some bytes => return bytes
    | none => .error .missing

/-- Writes a text. -/
def write (d : Disk) (home path text : String) : Except FileFault Disk := do
  let at_ ← d.locate home path
  if d.isDirectory at_ then .error .isDirectory
  else return d.put at_ (Text.Utf8.encode text)

/-- Gives a file another name. A slash after the name stands for a directory, which a file cannot become. -/
def rename (d : Disk) (home old new : String) : Except FileFault Disk := do
  let source ← d.locate home old
  match d.file? source with
  | none => .error .missing
  | some bytes =>
    if new.isEmpty || Path.isAbsolute new then .error .missing
    else
      let _ ← d.follow [] (stepsFrom home (Path.directory new))
      match (Path.pieces new).getLast? with
      | some "" => .error .notDirectory
      | some "." => .error .busy
      | _ =>
        let target ← d.locate home new
        if d.isDirectory target then .error .isDirectory
        else return (d.erase source).put target bytes

/-- Makes the directories that some steps lead through. -/
def makeSteps (d : Disk) (at_ : Location) : List String → Except FileFault Disk
  | [] => .ok d
  | step :: rest =>
    let next := if Path.isIdle step then at_ else if step == ".." then at_.dropLast else at_ ++ [step]
    if (d.file? next).isSome then .error (if rest.all Path.isIdle then .exists else .notDirectory)
    else makeSteps { d with directories := next :: d.directories } next rest

/-- Makes a directory and those around it. -/
def makeDirectory (d : Disk) (home path : String) : Except FileFault Disk :=
  d.makeSteps [] (stepsFrom home path)

/-- A change of the disk that may fail. -/
def attempt (change : Disk → Except FileFault Disk) : StateM Disk (Except FileFault Unit) := fun d =>
  match change d with
  | .ok d => (.ok (), d)
  | .error fault => (.error fault, d)

/-- The machine that has a disk, with its directory under a name. -/
def host (home : String) : Host (StateM Disk) where
  home
  read path := fun d => (d.read home path, d)
  write path text := attempt fun d => d.write home path text
  rename old new := attempt fun d => d.rename home old new
  makeDirectory path := attempt fun d => d.makeDirectory home path

end Disk

end PageEdit.Shell
