import PageEdit.Json.Decode
import PageEdit.Json.Printer

/-!
# Patches

A patch is one edit of every element that its selector picks. Which of its three texts an action reads
is fixed per action: payloads may stand under either of two names.
-/

namespace PageEdit

/-- What a patch does. -/
inductive Action where
  | addClass
  | removeClass
  | replaceClass
  | setText
  | setHtml
  | setAttribute
  | removeAttribute
  | setStyle
  | removeElement
  | appendChild
  | prependChild
  deriving Repr, DecidableEq, Inhabited

namespace Action

/-- All actions. -/
def all : List Action :=
  [.addClass, .removeClass, .replaceClass, .setText, .setHtml, .setAttribute, .removeAttribute,
   .setStyle, .removeElement, .appendChild, .prependChild]

/-- The name of an action. -/
def name : Action → String
  | .addClass => "addClass"
  | .removeClass => "removeClass"
  | .replaceClass => "replaceClass"
  | .setText => "setText"
  | .setHtml => "setHtml"
  | .setAttribute => "setAttribute"
  | .removeAttribute => "removeAttribute"
  | .setStyle => "setStyle"
  | .removeElement => "removeElement"
  | .appendChild => "appendChild"
  | .prependChild => "prependChild"

/-- The action with a name. -/
def ofName? (name : String) : Option Action := all.find? (·.name == name)

/-- The wording for a name that no action has. -/
def unknownMessage (name : String) : String := "unknown patch action '" ++ name ++ "'"

end Action

/-- A patch. -/
structure Patch where
  selector : String
  action : Action
  oldValue : Option String
  newValue : Option String
  value : Option String
  deriving Repr, DecidableEq, Inhabited

namespace Patch

/-- A patch without payload. -/
def bare (selector : String) (action : Action) : Patch := ⟨selector, action, none, none, none⟩

/-- The payload: the value, or else the new value. -/
def payload? (p : Patch) : Option String := p.value.or p.newValue

/-- The classes that adding adds: the new value, or else the value. -/
def added? (p : Patch) : Option String := p.newValue.or p.value

/-- The classes that removing removes: the old value, or else the value. -/
def removed? (p : Patch) : Option String := p.oldValue.or p.value

/-- Reads a patch. -/
def decode : Json.Decoder Patch :=
  Json.Decoder.record "Patch"
    [.need "selector" .text fun v p => { p with selector := v },
     .need "action" (.variant (Action.all.map fun a => (a.name, a))) fun v p => { p with action := v },
     .mayHave "oldValue" (.optional .text) fun v p => { p with oldValue := v },
     .mayHave "newValue" (.optional .text) fun v p => { p with newValue := v },
     .mayHave "value" (.optional .text) fun v p => { p with value := v }]
    default

/-- A patch as JSON. Values that it does not have are left out. -/
def toJson (p : Patch) : Json.Value :=
  let member := fun (name : String) (v : Option String) => (v.map fun s => (name, Json.Value.text s)).toList
  .object ([("selector", .text p.selector), ("action", .text p.action.name)] ++
    member "oldValue" p.oldValue ++ member "newValue" p.newValue ++ member "value" p.value)

end Patch

end PageEdit
