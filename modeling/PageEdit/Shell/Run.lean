import PageEdit.Context.Record
import PageEdit.Context.Search
import PageEdit.Outline.Record
import PageEdit.Patch.Inverse
import PageEdit.Patch.Response
import PageEdit.Patch.Summary
import PageEdit.Settings.Text
import PageEdit.Shell.Command
import PageEdit.Shell.Host
import PageEdit.Shell.Path
import PageEdit.Text.Quoted

/-!
# Running commands

What each command reads, prints and writes. A command that fails says why, the outermost cause first, and
prints nothing but its notes. Files are written under another name first and then renamed, so that none is
left half written.
-/

namespace PageEdit.Shell

/-- The version of the program. -/
def version : String := "pagewright 0.1.0"

/-- Where settings are kept below the directory of the user. -/
def settingsDirectory : String := ".pagewright"

/-- The file of the settings in its directory. -/
def settingsFile : String := "pagewright.toml"

/-- What a command has printed. -/
structure Printed where
  out : String
  /-- What it has noted beside. -/
  notes : String
  deriving Repr, DecidableEq

/-- The causes of a failure, the outermost first. -/
abbrev Causes := List String

/-- A command at work. -/
abbrev Work (m : Type → Type) := ExceptT Causes (StateT Printed m)

section

variable {m : Type → Type} [Monad m]

/-- Prints a text. -/
def print (s : String) : Work m Unit := modify fun p => { p with out := p.out ++ s }

/-- Notes a line. -/
def note (s : String) : Work m Unit := modify fun p => { p with notes := p.notes ++ s ++ "\n" }

/-- Does something with a file. Its failure is the cause of another one. -/
def onFile {α : Type} (whatFails : String) (x : m (Except FileFault α)) : Work m α := do
  match ← (x : m (Except FileFault α)) with
  | .ok a => return a
  | .error fault => throw [whatFails, fault.message]

/-- Reads the bytes of a file. -/
def readBytes (host : Host m) (path : String) : Work m (List UInt8) :=
  onFile ("reading " ++ path) (host.read path)

/-- Reads a page. -/
def readPage (host : Host m) (path : String) : Work m String := do
  match Text.Utf8.decode (← readBytes host path) with
  | .ok html => return html
  | .error fault => throw [path ++ " is not valid UTF-8: " ++ fault.message]

/-- Puts a text in place of a file. -/
def replaceFile (host : Host m) (path text : String) : Work m Unit :=
  match Path.fileName? path with
  | none => throw ["output path '" ++ path ++ "' has no file name"]
  | some name => do
    let draft := Path.sibling path ("." ++ name ++ ".tmp")
    onFile ("writing " ++ draft) (host.write draft text)
    onFile ("replacing " ++ path) (host.rename draft path)

/-! ## Settings -/

/-- The directory of the settings. -/
def Host.settingsDirectory (host : Host m) : String := host.home ++ "/" ++ Shell.settingsDirectory

/-- The path of the settings. -/
def Host.settingsPath (host : Host m) : String := host.settingsDirectory ++ "/" ++ settingsFile

/-- The failure to use a file for settings. -/
def settingsFailure {α : Type} (path : String) (fault : FileFault) : Work m α :=
  throw ["I/O error at " ++ Text.quoted path ++ ": " ++ fault.message, fault.message]

/-- The settings of the user, or the standard ones if there are none. -/
def readSettings (host : Host m) : Work m Settings := do
  match ← (host.readText host.settingsPath : m (Except FileFault String)) with
  | .error .missing | .error .notDirectory => return .standard
  | .error fault => settingsFailure host.settingsPath fault
  | .ok text =>
    match Settings.load text with
    | .ok s => return s
    | .error fault => throw [fault.message host.settingsPath]

/-- The settings of the user with those of the command line in their place. -/
def settingsWith (host : Host m) (change : Settings → Settings) : Work m Settings := do
  match (change (← readSettings host)).check with
  | .ok s => return s
  | .error fault => throw ["config error: " ++ fault.message]

/-! ## Outlines -/

/-- A section on a line of its own. -/
def sectionLine (s : Outline.Section) : String :=
  "    - " ++ Text.padRight 20 s.id ++ " " ++ Text.padLeft 6 (toString s.size) ++ " bytes  " ++
    s.preview ++ "\n"

/-- What an outline comes to. -/
def outlineText (o : Outline) : String :=
  "\n  Elements:   " ++ toString o.entries.length ++
    "\n  Text nodes: " ++ toString o.runs.length ++
    "\n  Sections:   " ++ toString o.sectionIndex.length ++
    "\n  HTML size:  " ++ toString o.size ++ " bytes\n" ++
    String.join (o.sections.map sectionLine) ++ "\n"

/-- Shows the outline of a page. -/
def showOutline (host : Host m) (file : String) (asJson : Bool) : Work m Unit := do
  match Outline.ofBytes (← readBytes host file) with
  | .error fault => throw ["decode error: document is not valid UTF-8: " ++ fault.message]
  | .ok o => print (if asJson then o.toJson.pretty ++ "\n" else outlineText o)

/-! ## Rankings and contexts -/

/-- A score with one decimal. -/
def scoreText (s : Relevance.Score) : String :=
  toString (s.tenths / 10) ++ "." ++ toString (s.tenths % 10)

/-- A section of a ranking on a line of its own. -/
def rankLine (place : Nat) (x : Relevance.Excerpt) : String :=
  Text.padLeft 2 (toString place) ++ ". " ++ Text.padRight 20 x.id ++ " score " ++
    Text.padLeft 5 (scoreText x.score) ++ "  " ++ toString x.markup.utf8ByteSize ++ " bytes\n"

/-- A ranking, one section to a line. -/
def rankingText (excerpts : List Relevance.Excerpt) : String :=
  if excerpts.isEmpty then "No relevant sections.\n"
  else String.join (excerpts.zipIdx.map fun (x, i) => rankLine (i + 1) x)

/-- Ranks the sections of a page. -/
def showRanking (host : Host m) (file request : String) (limit : Option Nat) (asListing : Bool) :
    Work m Unit := do
  let settings ← settingsWith host fun s => { s with sectionLimit := limit.getD s.sectionLimit }
  let excerpts := Relevance.rank (← readPage host file) request settings.sectionLimit
  print (if asListing then Relevance.listing excerpts ++ "\n" else rankingText excerpts)

/-- The limits of a context with those of the command line in their place. -/
def limitsWith (budget : Option Nat) (noParents withSiblings : Bool) (l : ContextLimits) :
    ContextLimits :=
  { budget := budget.getD l.budget
    withParents := l.withParents && !noParents
    withSiblings := l.withSiblings || withSiblings }

/-- Shows the context for a request. -/
def showContext (host : Host m) (file request : String) (budget : Option Nat)
    (noParents withSiblings : Bool) : Work m Unit := do
  let settings ← settingsWith host fun s =>
    { s with context := limitsWith budget noParents withSiblings s.context }
  let html ← readPage host file
  let lookup := (Snapshot.ofOutline (.ofHtml html) html).toLookup
  print ((prepare lookup request settings).toJson.pretty ++ "\n")

/-! ## Answers -/

/-- What is noted about patches. -/
def patchNotes (batch : Batch) (report : Report) (reverted : Bool) : List String :=
  batch.summary.toList.map ("  " ++ ·) ++
    (appliedPatches batch.patches report).map (fun p => "  ✓ " ++ p.summary) ++
    report.failures.map (fun f => "  ✗ " ++ f.selector ++ " (" ++ f.fault.report ++ ")") ++
    batch.rejected.map (fun r =>
      "  ✗ patch #" ++ toString r.index ++ " rejected: " ++ r.cause.message) ++
    if reverted then ["  Atomic apply: original document kept."] else []

/-- The patches that take an answer back. -/
def inverseOf (html : String) (batch : Batch) (report : Report) (reverted : Bool) : List Patch :=
  if reverted then [] else rollback html (appliedPatches batch.patches report)

/-- Applies an answer to a page. -/
def applyAnswer (host : Host m) (file response : String) (out : Option String) (allOrNothing : Bool)
    (rollback : Option String) : Work m Unit := do
  let html ← readPage host file
  let answer ← onFile ("reading " ++ response) (host.readText response)
  let outcome := respond html answer allOrNothing
  match outcome with
  | .replaced _ => note "  Response replaced the whole document."
  | .patched batch report _ reverted =>
    if let some fault := batch.fault then
      throw ["generator response unusable: " ++ fault.message]
    for line in patchNotes batch report reverted do note line
    if let some path := rollback then
      let inverse := inverseOf html batch report reverted
      replaceFile host path (Json.Value.list (inverse.map Patch.toJson)).pretty
  match out with
  | some path => replaceFile host path outcome.html
  | none => print outcome.html

/-! ## All commands -/

/-- Writes the standard settings. -/
def initSettings (host : Host m) : Work m Unit := do
  match ← (host.makeDirectory host.settingsDirectory : m (Except FileFault Unit)) with
  | .error fault => settingsFailure host.settingsDirectory fault
  | .ok () =>
    match ← (host.write host.settingsPath Settings.standard.toText : m (Except FileFault Unit)) with
    | .error fault => settingsFailure host.settingsPath fault
    | .ok () => print ("Config initialized at: " ++ host.settingsPath ++ "\n")

/-- Carries out a command. -/
def work (host : Host m) : Command → Work m Unit
  | .outline file asJson => showOutline host file asJson
  | .relevant file request limit asListing => showRanking host file request limit asListing
  | .context file request budget noParents withSiblings =>
    showContext host file request budget noParents withSiblings
  | .apply file response out allOrNothing rollback =>
    applyAnswer host file response out allOrNothing rollback
  | .initSettings => initSettings host
  | .showSettings => do print ((← readSettings host).toText ++ "\n")

/-- What has come of a command line. -/
inductive Result where
  | done (printed : Printed)
  | failed (causes : Causes) (printed : Printed)
  /-- The command line is not understood. -/
  | usage
  deriving Repr, DecidableEq

/-- The code that a result ends the program with. -/
def Result.code : Result → Nat
  | .done _ => 0
  | .failed .. => 1
  | .usage => 2

/-- Carries out a command line. -/
def run (host : Host m) (args : List String) : m Result := do
  match Command.ofArguments args with
  | .error .usage => return .usage
  | .error .version => return .done ⟨version ++ "\n", ""⟩
  | .ok command =>
    match ← ((work host command).run.run ⟨"", ""⟩ : m (Except Causes Unit × Printed)) with
    | (.ok (), printed) => return .done printed
    | (.error causes, printed) => return .failed causes printed

end

end PageEdit.Shell
