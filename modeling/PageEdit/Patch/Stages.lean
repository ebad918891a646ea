import PageEdit.Patch.Apply

/-!
# Checking before, applying after

A patch can be checked before there is a page. Nothing that is read for the check is kept: when the patch is
applied, its selector is read a second time, and its payload once more for each element, and what is missing
then counts as empty. Here the two stages stand as they follow each other in time. `Patch.check` and
`Patch.apply` read each text only once, for the plan of the patch.

* `Patch.validate`: the first stage.
* `Patch.elementEdit`: what the second stage asks for at an element.
* `Patch.applyInStages`: both stages on a page.
-/

namespace PageEdit

open Html

/-- Why one of the stages refuses a patch. -/
inductive StageFault where
  | validation (fault : PatchFault)
  /-- The selector cannot be read the second time. -/
  | parse (selector : String) (fault : Css.Fault)

/-- The wording of a fault with its kind. -/
def StageFault.report : StageFault → String
  | .validation fault => fault.report
  | .parse selector fault => "parse error: " ++ (PatchFault.badSelector selector fault).message

namespace Patch

/-! ## The first stage -/

/-- Whether a text is there and not blank. -/
def requireText (n : Need) : Option String → Except PatchFault Unit
  | some s => if (Text.trim s).isEmpty then .error (.missing n) else .ok ()
  | none => .error (.missing n)

/-- Whether a payload is there and can be read. -/
def requirePairs (p : Patch) (read : String → Except PayloadFault Payload.Pairs) :
    Except PatchFault Unit := do
  let payload ← need (.value p.action) p.payload?
  (readPayload read payload).map fun _ => ()

/-- Whether a patch has the payload that its action needs. -/
def checkPayload (p : Patch) : Except PatchFault Unit :=
  match p.action with
  | .addClass => requireText .added p.added?
  | .removeClass => requireText .removed p.removed?
  | .replaceClass => do
    requireText .oldClasses p.oldValue
    requireText .newClasses p.newValue
  | .setText | .setHtml => (need (.value p.action) p.payload?).map fun _ => ()
  | .setAttribute => p.requirePairs Payload.attributes
  | .removeAttribute => do
    let name ← need .attributeName ((p.value.map Text.trim).filter (!·.isEmpty))
    if Payload.isAttrName name then .ok () else .error (.payload (.badName name))
  | .setStyle => p.requirePairs Payload.styles
  | .removeElement => .ok ()
  | .appendChild | .prependChild => requireText (.markup p.action) p.payload?

/-- Whether a patch has a selector that can be read and the payload that its action needs. -/
def validate (p : Patch) : Except PatchFault Unit :=
  let selector := Text.trim p.selector
  if selector.isEmpty then .error .emptySelector
  else match Css.Selector.parse selector with
    | .ok _ => p.checkPayload
    | .error fault => .error (.badSelector selector fault)

/-! ## The second stage -/

/-- The selectors of a patch, read once more. -/
def compile (p : Patch) : Except StageFault (List Css.Selector) :=
  (Css.Selector.parse (Text.trim p.selector)).mapError (.parse p.selector)

/-- Some classes with those of a text behind them that are new. -/
def addClasses (text : String) (classes : List String) : List String :=
  (Text.splitBlanks text).foldl Order.see classes

/-- Some classes without those of a text. -/
def removeClasses (text : String) (classes : List String) : List String :=
  classes.filter (!(Text.splitBlanks text).contains ·)

/-- The revision that gives an element other attributes. -/
def editAttributes (pairs : Payload.Pairs) : Option Revision := some ⟨false, some pairs, .keep⟩

/-- The revision that gives an element other classes, and takes the attribute away if there are none. -/
def editClasses (e : Element) (classes : List String) : Option Revision :=
  editAttributes (if classes.isEmpty then dropPair "class" e.attributes
    else setPair "class" (String.intercalate " " classes) e.attributes)

/-- The revision of what is in an element, if it can have something in it. -/
def editContent (e : Element) (content : ContentRevision) : Option Revision :=
  if isVoid e.label then none else some ⟨false, none, content⟩

/-- A payload, read once more. -/
def readAgain {α : Type} (read : String → Except PayloadFault α) (payload : String) : Except StageFault α :=
  (readPayload read payload).mapError .validation

/-- The revision that a patch asks for at an element, if it can apply there. -/
def elementEdit (p : Patch) (e : Element) : Except StageFault (Option Revision) :=
  let payload := p.payload?.getD ""
  match p.action with
  | .addClass => .ok (editClasses e (addClasses (p.added?.getD "") e.classes))
  | .removeClass => .ok (editClasses e (removeClasses (p.removed?.getD "") e.classes))
  | .replaceClass =>
    .ok (editClasses e (addClasses (p.newValue.getD "") (removeClasses (p.oldValue.getD "") e.classes)))
  | .setText => .ok (editContent e (.text payload))
  | .setHtml => .ok (editContent e (.markup payload))
  | .appendChild => .ok (editContent e (.append payload))
  | .prependChild => .ok (editContent e (.prepend payload))
  | .setAttribute => do
    let pairs ← readAgain Payload.attributes payload
    return editAttributes (setPairs pairs e.attributes)
  | .removeAttribute =>
    let name := Text.lowerAscii (Text.trim (p.value.getD ""))
    .ok (editAttributes (dropPair name e.attributes))
  | .setStyle => do
    let updates ← readAgain Payload.styles payload
    return editAttributes (withStyle e updates)
  | .removeElement => .ok (some ⟨true, none, .keep⟩)

/-- The revisions that a patch asks for at some elements, by their numbers. The first fault ends it. -/
def elementEdits (p : Patch) : List Element → Except StageFault (List (Nat × Revision))
  | [] => .ok []
  | e :: rest => do
    let edit ← p.elementEdit e
    let edits ← p.elementEdits rest
    return (edit.map fun r => (e.id, r)).toList ++ edits

/-- A document as the second stage leaves it. -/
def applyStaged (p : Patch) (doc : Document) : Except StageFault String := do
  let selectors ← p.compile
  let elements := pickedElements selectors doc
  let edits ← p.elementEdits elements
  if elements.isEmpty then .error (.validation (.noMatch p.selector))
  else if edits.isEmpty then .error (.validation (.voidOnly p.action))
  else .ok (doc.write (lookupEdit edits))

/-- The page as both stages leave it, or why one of them refuses the patch. -/
def applyInStages (html : String) (p : Patch) : Except StageFault String := do
  p.validate.mapError .validation
  p.applyStaged (.ofHtml html)

end Patch

end PageEdit
