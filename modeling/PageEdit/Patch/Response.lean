import PageEdit.Json.Skip
import PageEdit.Patch.Apply
import PageEdit.Patch.Batch

/-!
# Answers of a generator

An answer is either an object with a list of patches or a page to put in place of the old one. A code fence
around it is taken off first. What is neither, or an object that cannot be read, is an empty batch that
says why.

* `respond_html_of_reverted`: an answer that is taken back leaves the page as it was.
* `respond_html_of_kept`: an answer that is kept leaves the page that its patches have left.
-/

namespace PageEdit

open Json (Fault Value)

/-! ## The envelope -/

/-- The members that have been read of an envelope. -/
structure Envelope where
  patches : Option (List Value)
  summary : Option (Option String)

namespace Envelope

/-- A mismatch of the value at the beginning of a text. Lists and objects are not read for it. -/
def mismatched {α : Type} (expected : String) (s : List Char) : Except Fault α :=
  match s with
  | [] => .error (.at .endInValue [])
  | c :: rest =>
    if c == '[' then .error (.before (.mismatch (.wrongType .list expected)) s)
    else if c == '\x7b' then .error (.before (.mismatch (.wrongType .object expected)) s)
    else do
      let (v, rest) ← Json.readScalar c rest
      .error (.before (.mismatch (.wrongType v.found expected)) rest)

/-- Reads the list of patches. -/
def readPatches (fuel : Nat) (s : List Char) : Except Fault (List Value × List Char) :=
  match Json.skipBlanks s with
  | '[' :: rest => do
    let (items, rest) ← Json.readItems fuel (Json.nestingLimit - 2) true [] rest
    return (items, ← Json.endList rest)
  | s => mismatched "a sequence" s

/-- Reads the summary. -/
def readSummary (s : List Char) : Except Fault (Option String × List Char) :=
  match Json.skipBlanks s with
  | 'n' :: rest => do return (none, ← Json.readLetters ['u', 'l', 'l'] rest)
  | '"' :: rest => do
    let (text, rest) ← Json.readText [] rest
    return (some text, rest)
  | s => mismatched "a string" s

/-- The fault of a member that comes twice, found when its key has been read. -/
def repeated {α : Type} (key : String) (s : List Char) : Except Fault α :=
  let rest := Json.skipBlanks s
  let rest := if Json.next (· == '\x7d') rest then rest.drop 1 else rest
  .error (.before (.mismatch (.duplicateField key)) rest)

/-- Reads the members of an envelope and its end. -/
def readMembers (fuel : Nat) (first : Bool) (e : Envelope) (s : List Char) :
    Except Fault ((List Value × Option String) × List Char) :=
  match fuel with
  | 0 => .error (.at .endInObject [])
  | fuel + 1 => do
    match ← Json.nextKey first s with
    | none =>
      let rest ← Json.endObject s
      match e.patches with
      | some patches => return ((patches, e.summary.getD none), rest)
      | none => .error (.before (.mismatch (.missingField "patches")) rest)
    | some s =>
      let (key, s) ← Json.readText [] s
      if key == "patches" then
        if e.patches.isSome then repeated key s
        else
          let (patches, s) ← readPatches fuel (← Json.readColon s)
          readMembers fuel false { e with patches := some patches } s
      else if key == "summary" then
        if e.summary.isSome then repeated key s
        else
          let (summary, s) ← readSummary (← Json.readColon s)
          readMembers fuel false { e with summary := some summary } s
      else readMembers fuel false e (← Json.skipValue fuel (← Json.readColon s))

/-- The patches and the summary of an envelope, given what follows its opening brace. -/
def read (s : List Char) : Except Fault (List Value × Option String) := do
  let (content, rest) ← readMembers (Json.enough s) true ⟨none, none⟩ s
  Json.readEnd rest
  return content

end Envelope

/-! ## Answers -/

/-- Why an answer is neither patches nor a page. -/
inductive ResponseFault where
  | badEnvelope (fault : Fault) (text : String)
  | unknownForm

/-- The wording of a fault. -/
def ResponseFault.message : ResponseFault → String
  | .badEnvelope fault text => "invalid patch envelope: " ++ fault.message text
  | .unknownForm => "response is neither a patch envelope nor an HTML document"

/-- The patches of an answer. -/
structure Batch where
  patches : List Patch
  rejected : List Rejection
  /-- What the generator says of its change. -/
  summary : Option String
  /-- Why the answer could not be read. -/
  fault : Option ResponseFault

/-- What an answer turns out to be. -/
inductive Response where
  | patches (batch : Batch)
  | page (html : String)

/-- The three backticks of a code fence. -/
def fence : List Char := ['\x60', '\x60', '\x60']

/-- A text without the fence at its end. -/
def dropClosingFence (s : List Char) : List Char :=
  let s' := Text.trimEnd s
  if fence.isSuffixOf s' then s'.take (s'.length - 3) else s

/-- A text without the code fence around it and the blanks at its ends. -/
def unfence (s : List Char) : List Char :=
  let s := Text.trimChars s
  if fence.isPrefixOf s then
    let rest := s.drop 3
    let rest := match Text.cutAt '\n' rest with
      | some (_, rest) => rest
      | none => rest
    Text.trimChars (dropClosingFence rest)
  else s

/-- What an answer turns out to be. -/
def Response.ofText (text : String) : Response :=
  let body := unfence text.toList
  match body with
  | '\x7b' :: rest =>
    match Envelope.read rest with
    | .ok (items, summary) =>
      let (accepted, rejected) := validateBatch items
      .patches ⟨accepted, rejected, summary.filter (!Text.isBlankText ·), none⟩
    | .error fault => .patches ⟨[], [], none, some (.badEnvelope fault (String.ofList body))⟩
  | '<' :: _ => .page (String.ofList body)
  | _ => .patches ⟨[], [], none, some .unknownForm⟩

/-! ## Applying an answer -/

/-- What an answer does to a page. -/
inductive Outcome where
  /-- The patches, what came of them, the page, and whether it is as it was because some failed. -/
  | patched (batch : Batch) (report : Report) (html : String) (reverted : Bool)
  | replaced (html : String)

/-- The page after an answer. -/
def Outcome.html : Outcome → String
  | .patched _ _ html _ => html
  | .replaced html => html

/-- Applies an answer to a page. If it is to be all or nothing, a rejected or failed patch leaves the page
as it was. -/
def respond (html text : String) (allOrNothing : Bool) : Outcome :=
  match Response.ofText text with
  | .page page => .replaced page
  | .patches batch =>
    let report := applyAll html batch.patches
    let reverted := allOrNothing && (!report.isComplete || !batch.rejected.isEmpty)
    .patched batch report (if reverted then html else report.html) reverted

theorem respond_html_of_reverted {html text page : String} {allOrNothing : Bool} {batch : Batch}
    {report : Report} (h : respond html text allOrNothing = .patched batch report page true) :
    page = html := by
  unfold respond at h
  split at h
  · cases h
  · injection h with _ _ hpage hreverted
    rw [hreverted] at hpage
    exact hpage.symm

theorem respond_html_of_kept {html text page : String} {allOrNothing : Bool} {batch : Batch}
    {report : Report} (h : respond html text allOrNothing = .patched batch report page false) :
    report = applyAll html batch.patches ∧ page = report.html := by
  unfold respond at h
  split at h
  · cases h
  · injection h with hbatch hreport hpage hreverted
    subst hbatch
    rw [hreverted] at hpage
    exact ⟨hreport.symm, hpage.symm.trans (congrArg Report.html hreport)⟩

end PageEdit
