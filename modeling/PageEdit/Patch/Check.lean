import PageEdit.Css.Reader
import PageEdit.Patch.Basic
import PageEdit.Patch.Payload

/-!
# What a patch asks for

A patch is sound if its selector can be read and it has the payload that its action needs. A sound patch
comes to a plan, which is all that applying it looks at.

* `Patch.plan_selectors`: the selectors of a plan are those of the patch.
* `Patch.check_eq_ok_iff`, `Patch.check_eq_error_iff`: a patch is checked by its plan.
-/

namespace PageEdit

/-- A payload that an action needs. -/
inductive Need where
  | added
  | removed
  | oldClasses
  | newClasses
  /-- A value, which may be blank. -/
  | value (action : Action)
  | attributeName
  /-- Markup, which may not be blank. -/
  | markup (action : Action)
  deriving Repr, DecidableEq

/-- The wording for a payload that is missing. -/
def Need.message : Need → String
  | .added => "addClass needs newValue (or value)"
  | .removed => "removeClass needs oldValue (or value)"
  | .oldClasses => "replaceClass needs oldValue"
  | .newClasses => "replaceClass needs newValue"
  | .value action => action.name ++ " needs value (or newValue)"
  | .attributeName => "removeAttribute needs the attribute name in value"
  | .markup action => action.name ++ " needs markup in value (or newValue)"

/-- Why a patch does nothing. -/
inductive PatchFault where
  | emptySelector
  | badSelector (selector : String) (fault : Css.Fault)
  | missing (need : Need)
  | payload (fault : PayloadFault)
  /-- The selector picks no element. -/
  | noMatch (selector : String)
  /-- The selector picks void elements only, and the patch is for what is in an element. -/
  | voidOnly (action : Action)

/-- The wording of a fault. -/
def PatchFault.message : PatchFault → String
  | .emptySelector => "selector is empty"
  | .badSelector selector fault => "invalid selector '" ++ selector ++ "': " ++ fault.message
  | .missing need => need.message
  | .payload fault => fault.message
  | .noMatch selector => "selector '" ++ selector ++ "' matched no elements"
  | .voidOnly action => action.name ++ " cannot change content of void elements"

/-- The wording of a fault with its kind. -/
def PatchFault.report (fault : PatchFault) : String := "validation error: " ++ fault.message

/-- What becomes of an element that a patch picks. -/
inductive Change where
  /-- Classes go and others come. -/
  | classes (removed added : List String)
  | setText (text : String)
  | setHtml (markup : String)
  | append (markup : String)
  | prepend (markup : String)
  | setAttributes (pairs : Payload.Pairs)
  | dropAttribute (name : String)
  /-- Style properties are declared, or removed if their value is empty. -/
  | style (declarations : Payload.Pairs)
  | remove
  deriving Repr, DecidableEq

/-- What a sound patch comes to. -/
structure Plan where
  selectors : List Css.Selector
  change : Change

namespace Patch

/-- A text that has to be there. -/
def need (n : Need) : Option String → Except PatchFault String
  | some s => .ok s
  | none => .error (.missing n)

/-- A text that has to be there and not to be blank. -/
def needText (n : Need) (value : Option String) : Except PatchFault String :=
  match value with
  | some s => if Text.isBlankText s then .error (.missing n) else .ok s
  | none => .error (.missing n)

/-- A payload as what it stands for, or why it cannot be read. -/
def readPayload {α : Type} (read : String → Except PayloadFault α) (s : String) :
    Except PatchFault α :=
  match read s with
  | .ok a => .ok a
  | .error fault => .error (.payload fault)

/-- The name of the attribute that a patch removes. -/
def dropName (p : Patch) : Except PatchFault String :=
  match p.value.map Text.trim with
  | some name =>
    if name.isEmpty then .error (.missing .attributeName)
    else if Payload.isAttrName name then .ok (Text.lowerAscii name)
    else .error (.payload (.badName name))
  | none => .error (.missing .attributeName)

/-- What a patch does to an element. -/
def change (p : Patch) : Except PatchFault Change :=
  match p.action with
  | .addClass => do
    return .classes [] (Text.splitBlanks (← needText .added p.added?))
  | .removeClass => do
    return .classes (Text.splitBlanks (← needText .removed p.removed?)) []
  | .replaceClass => do
    let old ← needText .oldClasses p.oldValue
    let new ← needText .newClasses p.newValue
    return .classes (Text.splitBlanks old) (Text.splitBlanks new)
  | .setText => do return .setText (← need (.value .setText) p.payload?)
  | .setHtml => do return .setHtml (← need (.value .setHtml) p.payload?)
  | .setAttribute => do
    return .setAttributes
      (← readPayload Payload.attributes (← need (.value .setAttribute) p.payload?))
  | .removeAttribute => do return .dropAttribute (← p.dropName)
  | .setStyle => do
    return .style (← readPayload Payload.styles (← need (.value .setStyle) p.payload?))
  | .removeElement => .ok .remove
  | .appendChild => do return .append (← needText (.markup .appendChild) p.payload?)
  | .prependChild => do return .prepend (← needText (.markup .prependChild) p.payload?)

/-- The selectors of a patch. -/
def selectors (p : Patch) : Except PatchFault (List Css.Selector) :=
  let selector := Text.trim p.selector
  if selector.isEmpty then .error .emptySelector
  else match Css.Selector.parse selector with
    | .ok selectors => .ok selectors
    | .error fault => .error (.badSelector selector fault)

/-- What a patch comes to if it is sound. -/
def plan (p : Patch) : Except PatchFault Plan := do
  let selectors ← p.selectors
  return ⟨selectors, ← p.change⟩

/-- Whether a patch is sound, or why it is not. -/
def check (p : Patch) : Except PatchFault Unit := p.plan.map fun _ => ()

theorem plan_selectors {p : Patch} {plan : Plan} (h : p.plan = .ok plan) :
    p.selectors = .ok plan.selectors ∧ p.change = .ok plan.change := by
  unfold Patch.plan at h
  cases hs : p.selectors with
  | error e => rw [hs] at h; cases h
  | ok s =>
    rw [hs] at h
    cases hc : p.change with
    | error e => rw [hc] at h; cases h
    | ok c =>
      rw [hc] at h
      cases h
      exact ⟨rfl, rfl⟩

theorem check_eq_ok_iff {p : Patch} : p.check = .ok () ↔ ∃ plan, p.plan = .ok plan := by
  rw [check]
  cases p.plan with
  | error fault => exact ⟨nofun, nofun⟩
  | ok plan => exact ⟨fun _ => ⟨plan, rfl⟩, fun _ => rfl⟩

theorem check_eq_error_iff {p : Patch} {fault : PatchFault} : p.check = .error fault ↔ p.plan = .error fault := by
  rw [check]
  cases p.plan with
  | error other => exact ⟨fun h => congrArg _ (Except.error.inj h), fun h => congrArg _ (Except.error.inj h)⟩
  | ok plan => exact ⟨nofun, nofun⟩

/-- Soundness can be decided though faults cannot be compared. -/
theorem check_of_isOk_plan {p : Patch} (h : p.plan.isOk = true) : p.check = .ok () := by
  rw [check]
  cases hplan : p.plan with
  | error fault =>
    rw [hplan] at h
    cases h
  | ok plan => rfl

end Patch

end PageEdit
