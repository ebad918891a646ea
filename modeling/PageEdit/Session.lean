import PageEdit.Context.Search
import PageEdit.Patch.Inverse
import PageEdit.Patch.Response

/-!
# Sessions

A session stands for the program that keeps a page between edits. It asks for the context of a request, gives
the answer of a generator to the page, and takes edits back, in any order. What it does on a page are the
functions `applyAll`, `rollback`, `respond` and `Outline.ofHtml`, each called once and with what is known of the
page at that time. So a session holds the page, an outline that may be older than the page, and for each edit
the patches that take it back.
-/

namespace PageEdit

/-- A session. -/
structure Session where
  page : String
  /-- The outline of the page as it was when it was last read. -/
  outline : Outline
  /-- What takes the edits back, the newest first. -/
  inverses : List (List Patch)

namespace Session

/-- A session on a page. -/
def start (page : String) : Session := ⟨page, .ofHtml page, []⟩

/-- Applies one patch that is not to be taken back. -/
def patch (s : Session) (p : Patch) : Except PatchFault Session := do
  return { s with page := ← p.apply s.page }

/-- Applies patches. -/
def patchAll (s : Session) (patches : List Patch) : Session × Report :=
  let report := applyAll s.page patches
  ({ s with page := report.html, inverses := rollback s.page patches :: s.inverses }, report)

/-- Applies the answer of a generator. A page put in place of the old one is not to be taken back. -/
def respond (s : Session) (text : String) (allOrNothing : Bool) : Session × Outcome :=
  let outcome := PageEdit.respond s.page text allOrNothing
  let inverses := match outcome with
    | .patched batch report _ false =>
      rollback s.page (appliedPatches batch.patches report) :: s.inverses
    | _ => s.inverses
  ({ s with page := outcome.html, inverses }, outcome)

/-- Takes the newest edit back, if there is one. -/
def undo (s : Session) : Option (Session × List Patch × Report) :=
  match s.inverses with
  | [] => none
  | inverse :: rest =>
    let report := applyAll s.page inverse
    some ({ s with page := report.html, inverses := rest }, inverse, report)

/-- Reads the page again. -/
def reread (s : Session) : Session := { s with outline := .ofHtml s.page }

/-- What is known of the page. -/
def lookup (s : Session) : Lookup := (Snapshot.ofOutline s.outline s.page).toLookup

end Session

end PageEdit
