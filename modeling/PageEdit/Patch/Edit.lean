import PageEdit.Html.Content
import PageEdit.Html.Revision
import PageEdit.Patch.Check

/-!
# What a change does to an element

Changes to attributes and classes give the element a new list of attributes; changes to what is in it need
an element that can have something in it.

* `setPair_find`: an attribute that was set has its value.
* `Change.revision_isSome`: void elements alone resist a change.
-/

namespace PageEdit

open Html

/-- The pairs with a value under a name, in place of the first one there or at the end. -/
def setPair (name value : String) : Payload.Pairs → Payload.Pairs
  | [] => [(name, value)]
  | (k, v) :: rest => if k == name then (k, value) :: rest else (k, v) :: setPair name value rest

/-- The pairs without those under a name. -/
def dropPair (name : String) (pairs : Payload.Pairs) : Payload.Pairs := pairs.filter (·.1 != name)

theorem setPair_find (name value : String) (pairs : Payload.Pairs) :
    (setPair name value pairs).find? (·.1 == name) = some (name, value) := by
  induction pairs with
  | nil => simp [setPair]
  | cons p rest ih =>
    obtain ⟨k, v⟩ := p
    simp only [setPair]
    split
    · rename_i h
      have : k = name := by simpa using h
      simp [this]
    · rename_i h
      simpa [List.find?_cons, h] using ih

/-- The pairs with each of some values set. -/
def setPairs (updates pairs : Payload.Pairs) : Payload.Pairs :=
  updates.foldl (fun acc (k, v) => setPair k v acc) pairs

/-! ## Classes -/

/-- The classes after some have gone and others have come. -/
def changeClasses (removed added classes : List String) : List String :=
  added.foldl (fun acc c => if c ∈ acc then acc else acc ++ [c])
    (classes.filter (!removed.contains ·))

/-- The attributes of an element with a text under a name, or without it if the text is empty. -/
def withOrWithout (e : Element) (name text : String) : Payload.Pairs :=
  if text.isEmpty then dropPair name e.attributes else setPair name text e.attributes

/-- The attributes of an element with other classes. -/
def withClasses (e : Element) (classes : List String) : Payload.Pairs :=
  withOrWithout e "class" (String.intercalate " " classes)

/-! ## Styles -/

/-- The declarations after one more: an empty value removes those of its property. -/
def declare (declarations : Payload.Pairs) (update : String × String) : Payload.Pairs :=
  if update.2.isEmpty then dropPair update.1 declarations
  else setPair update.1 update.2 declarations

/-- The declarations of an element after some more. -/
def mergedStyle (e : Element) (updates : Payload.Pairs) : Payload.Pairs :=
  updates.foldl declare (Payload.inlineStyle ((e.attr? "style").getD ""))

/-- The attributes of an element with some more declarations. -/
def withStyle (e : Element) (updates : Payload.Pairs) : Payload.Pairs :=
  withOrWithout e "style" (Payload.writeStyle (mergedStyle e updates))

/-! ## All changes -/

namespace Change

/-- The attributes that an element has after a change, if the change is for attributes. -/
def attributes? (change : Change) (e : Element) : Option Payload.Pairs :=
  match change with
  | .classes removed added => some (withClasses e (changeClasses removed added e.classes))
  | .setAttributes pairs => some (setPairs pairs e.attributes)
  | .dropAttribute name => some (dropPair name e.attributes)
  | .style declarations => some (withStyle e declarations)
  | _ => none

/-- What is in an element after a change, if the change is for that. -/
def content? : Change → Option ContentRevision
  | .setText text => some (.text text)
  | .setHtml markup => some (.markup markup)
  | .append markup => some (.append markup)
  | .prepend markup => some (.prepend markup)
  | _ => none

/-- The revision that a change asks for, if it can apply to the element. -/
def revision? (change : Change) (e : Element) : Option Revision :=
  match change.content? with
  | some content => if isVoid e.label then none else some ⟨false, none, content⟩
  | none =>
    match change.attributes? e with
    | some attrs => some ⟨false, some attrs, .keep⟩
    | none => some ⟨true, none, .keep⟩

theorem revision_isSome (change : Change) (e : Element) :
    (change.revision? e).isSome = !(change.content?.isSome && isVoid e.label) := by
  unfold revision?
  cases hc : change.content? with
  | some c => cases isVoid e.label <;> simp
  | none => cases change.attributes? e <;> simp

end Change

end PageEdit
