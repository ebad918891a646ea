import PageEdit.Session
import PageEdit.Proofs.Patch.Rollback

/-!
# Taking the edits of a session back

Each edit of a session leaves on its stack what takes it back on the page as it was then. Edits that are taken
back newest first have the effect of one rollback of all their patches, since the rollback of a list in parts is
that of the later parts before that of the earlier ones. What is known of a rollback is so known of a session.

* `Session.undo_patchAll`: one step back is one rollback.
* `Session.respond_eq`: an answer that is neither a page nor taken back is an edit by its patches.
* `Session.undoTimes_patchEach`: as many steps back as there were edits are one rollback.
* `Session.shape_undoTimes_patchEach`: the shape of the page comes back if the patches are reversible.
-/

namespace PageEdit

open Html

namespace Session

variable (s : Session)

/-- An edit is taken back by the rollback of its patches, on whatever page the session has come to. -/
theorem undo_patchAll (patches : List Patch) (page : String) :
    let inverse := rollback s.page patches
    let back := applyAll page inverse
    ({ (s.patchAll patches).1 with page } : Session).undo = some ({ s with page := back.html }, inverse, back) :=
  rfl

/-- An answer puts a page in place of the old one, does nothing, or is an edit by its patches. Those that fail
leave nothing to be taken back. -/
theorem respond_eq (text : String) (allOrNothing : Bool) :
    (s.respond text allOrNothing).1 =
      match PageEdit.respond s.page text allOrNothing with
      | .replaced page => { s with page }
      | .patched _ _ _ true => s
      | .patched batch _ _ false => (s.patchAll batch.patches).1 := by
  rw [Session.respond]
  cases houtcome : PageEdit.respond s.page text allOrNothing with
  | replaced page => rfl
  | patched batch report page reverted =>
    cases reverted with
    | true =>
      obtain rfl := respond_html_of_reverted houtcome
      rfl
    | false =>
      obtain ⟨rfl, rfl⟩ := respond_html_of_kept houtcome
      have hinverse : rollback s.page (appliedPatches batch.patches (applyAll s.page batch.patches)) =
          rollback s.page batch.patches := rollback_effective s.page batch.patches
      simp only [hinverse, Outcome.html, patchAll]

/-! ## Several edits -/

/-- Edits a session by one list of patches after the other. -/
def patchEach (s : Session) : List (List Patch) → Session
  | [] => s
  | patches :: rest => (s.patchAll patches).1.patchEach rest

/-- A session with its newest edit taken back, if there is one. -/
def undone : Session := (s.undo.map (·.1)).getD s

/-- Takes the newest edits back, as many as are asked for. -/
def undoTimes (s : Session) : Nat → Session
  | 0 => s
  | n + 1 => (s.undoTimes n).undone

/-- Taking back as many edits as were made is one rollback of all their patches, in their order, on the page
that all of them have left. What was on the stack before stays there. -/
theorem undoTimes_patchEach (lists : List (List Patch)) :
    let patches := lists.flatten
    (s.patchEach lists).undoTimes lists.length =
      { s with page := (applyAll (applyAll s.page patches).html (rollback s.page patches)).html } := by
  intro patches
  induction lists generalizing s with
  | nil => rfl
  | cons first rest ih =>
    -- all edits but the first are taken back first, and they leave what takes back the first on the stack
    have hpage : (s.patchAll first).1.page = (applyAll s.page first).html := rfl
    rw [patchEach, List.length_cons, undoTimes, ih, undone, undo_patchAll, hpage]
    simp only [patches, List.flatten_cons, applyAll_append_eq, rollback_append, Report.html_followedBy]
    rfl

/-- If the patches of all edits are reversible one after the other, taking the edits back leaves a page of the
same shape. -/
theorem shape_undoTimes_patchEach {lists : List (List Patch)} (h : Reversible s.page lists.flatten) :
    let t := (s.patchEach lists).undoTimes lists.length
    (Document.ofHtml t.page).shape = (Document.ofHtml s.page).shape ∧ t.inverses = s.inverses := by
  rw [undoTimes_patchEach]
  exact ⟨(shape_of_reversible h).2, rfl⟩

end Session

end PageEdit
