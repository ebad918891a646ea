import PageEdit.Patch.Check

/-!
# Batches of patches

The items of a batch are read and checked each on its own, so that a bad one does not sink the others.

* `validateBatch_length`: every item is either accepted or rejected.
-/

namespace PageEdit

/-- Why an item of a batch is rejected. -/
inductive RejectionCause where
  /-- It is no patch. -/
  | malformed (mismatch : Json.Mismatch)
  /-- It is a patch that does nothing. -/
  | unsound (fault : PatchFault)

/-- The wording of a cause. -/
def RejectionCause.message : RejectionCause → String
  | .malformed mismatch => "malformed patch: " ++ mismatch.message
  | .unsound fault => fault.message

/-- A rejected item. -/
structure Rejection where
  /-- Its place in the batch. -/
  index : Nat
  /-- Its selector, if it has one that is a text. -/
  selector : Option String
  cause : RejectionCause

/-- The patch that an item is, if it is a sound one. -/
def readItem (item : Json.Value) : Except RejectionCause Patch :=
  match Patch.decode item with
  | .error mismatch => .error (.malformed mismatch)
  | .ok p =>
    match p.check with
    | .ok () => .ok p
    | .error fault => .error (.unsound fault)

/-- The patches of a batch and its rejected items, the first being the `index`th. -/
def validateFrom (index : Nat) : List Json.Value → List Patch × List Rejection
  | [] => ([], [])
  | item :: rest =>
    let (accepted, rejected) := validateFrom (index + 1) rest
    match readItem item with
    | .ok p => (p :: accepted, rejected)
    | .error cause =>
      (accepted, ⟨index, (item.get? "selector").bind Json.Value.asText?, cause⟩ :: rejected)

/-- The patches of a batch and its rejected items. -/
def validateBatch (items : List Json.Value) : List Patch × List Rejection := validateFrom 0 items

theorem validateFrom_length (index : Nat) (items : List Json.Value) :
    (validateFrom index items).1.length + (validateFrom index items).2.length = items.length := by
  induction items generalizing index with
  | nil => rfl
  | cons item rest ih =>
    have := ih (index + 1)
    simp only [validateFrom]
    split <;> simp only [List.length_cons] <;> omega

theorem validateBatch_length (items : List Json.Value) :
    (validateBatch items).1.length + (validateBatch items).2.length = items.length :=
  validateFrom_length 0 items

end PageEdit
