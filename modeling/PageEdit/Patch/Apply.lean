import PageEdit.Css.Matches
import PageEdit.Html.Build.Reader
import PageEdit.Patch.Edit

/-!
# Applying patches

A patch reads the page, revises the elements that its selector picks, and writes the page back. Patches are
applied one after the other, each to what the ones before it have left; one that fails leaves the page as it
is.

* `applyAll_append`: applying a list of patches is applying its parts in turn.
-/

namespace PageEdit

open Html

/-- The revisions of some elements by their numbers. -/
def editTable (change : Change) (elements : List Element) : List (Nat × Revision) :=
  elements.filterMap fun e => (change.revision? e).map fun r => (e.id, r)

/-- The table as a function. -/
def lookupEdit (table : List (Nat × Revision)) : Revisions := fun id =>
  (table.find? (·.1 == id)).map (·.2)

/-- The elements of a document that some selectors pick. -/
def pickedElements (selectors : List Css.Selector) (doc : Document) : List Element :=
  (Css.select selectors doc).filterMap Place.element?

namespace Patch

/-- The document as a plan leaves it. -/
def applyPlan (p : Patch) (plan : Plan) (doc : Document) : Except PatchFault String :=
  let elements := pickedElements plan.selectors doc
  if elements.isEmpty then .error (.noMatch p.selector)
  else
    let table := editTable plan.change elements
    if table.isEmpty then .error (.voidOnly p.action)
    else .ok (doc.write (lookupEdit table))

/-- The page as a patch leaves it, or why it does nothing. -/
def apply (html : String) (p : Patch) : Except PatchFault String := do
  p.applyPlan (← p.plan) (.ofHtml html)

end Patch

/-- A patch that did nothing. -/
structure Failure where
  /-- Its place in the list. -/
  index : Nat
  selector : String
  fault : PatchFault

/-- What has come of a list of patches. -/
structure Report where
  html : String
  /-- The places of the patches that applied. -/
  applied : List Nat
  failures : List Failure

namespace Report

/-- The report before the first patch. -/
def start (html : String) : Report := ⟨html, [], []⟩

/-- Whether all patches applied. -/
def isComplete (r : Report) : Bool := r.failures.isEmpty

/-- The report after one more patch, the `index`th. -/
def step (r : Report) (index : Nat) (p : Patch) : Report :=
  match p.apply r.html with
  | .ok html => { r with html, applied := r.applied ++ [index] }
  | .error fault => { r with failures := r.failures ++ [⟨index, p.selector, fault⟩] }

/-- The report after some more patches, the first being the `index`th. -/
def run (r : Report) (index : Nat) : List Patch → Report
  | [] => r
  | p :: rest => run (r.step index p) (index + 1) rest

end Report

/-- Applies patches in order. -/
def applyAll (html : String) (patches : List Patch) : Report := (Report.start html).run 0 patches

/-- The patches that applied. -/
def appliedPatches (patches : List Patch) (report : Report) : List Patch :=
  report.applied.filterMap (patches[·]?)

theorem Report.run_append (r : Report) (index : Nat) (p q : List Patch) :
    r.run index (p ++ q) = (r.run index p).run (index + p.length) q := by
  induction p generalizing r index with
  | nil => simp [Report.run]
  | cons x rest ih =>
    simp only [List.cons_append, Report.run, ih, List.length_cons]
    congr 1
    omega

theorem applyAll_append (html : String) (p q : List Patch) :
    applyAll html (p ++ q) = (applyAll html p).run p.length q := by
  simp [applyAll, Report.run_append]

end PageEdit
