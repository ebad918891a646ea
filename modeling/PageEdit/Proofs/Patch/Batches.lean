import PageEdit.Patch.Batch
import PageEdit.Proofs.Patch.Rollback

/-!
# Patches that are sent on

A patch can be written as JSON and read again. It is written with its members in the order of its fields; as a value
it has them in the order of their keys. A batch takes both, and takes every patch that is sound, those of a
rollback among them.

* `Patch.decode_toJson`, `Patch.decode_toValue`: a patch is read back.
* `validateBatch_map`: a batch of sound patches in any form that is read back.
* `sound_patches_survive_json`: rollbacks and sound patches as batches.
-/

namespace PageEdit

open Json

namespace Patch

/-- The members of a patch as it is written, in the order of its fields. -/
def members (p : Patch) : List (String × Value) :=
  match p.toJson with
  | .object members => members
  | _ => []

/-- A patch as a value, with its members in the order of their keys. -/
def toValue (p : Patch) : Value := .ofMembers p.members

theorem decode_action (a : Action) :
    Decoder.variant (Action.all.map fun a => (a.name, a)) (.text a.name) = .ok a := by
  cases a <;> rfl

theorem default_eq_bare : (default : Patch) = bare "" .addClass := rfl

/-- What is read of an object that holds the members of a patch in the order of its fields. -/
theorem decode_toJson (p : Patch) : decode p.toJson = .ok p := by
  obtain ⟨selector, action, oldValue, newValue, value⟩ := p
  -- each value that may be missing is there or not
  cases oldValue <;> cases newValue <;> cases value <;>
    simp [toJson, decode, Decoder.record, Decoder.Field.need, Decoder.Field.mayHave, Decoder.text,
      Decoder.optional, decode_action, default_eq_bare, bare, Except.map, bind, Except.bind, pure, Except.pure]

/-- The members of a patch in the order of their keys. -/
theorem toValue_eq (p : Patch) : p.toValue =
    let member := fun (name : String) (v : Option String) => (v.map fun s => (name, Value.text s)).toList
    .object (("action", .text p.action.name) :: member "newValue" p.newValue ++ member "oldValue" p.oldValue ++
      ("selector", .text p.selector) :: member "value" p.value) := by
  obtain ⟨selector, action, oldValue, newValue, value⟩ := p
  cases oldValue <;> cases newValue <;> cases value <;>
    simp +decide only [toValue, members, toJson, Value.ofMembers, put, Option.map_some, Option.map_none,
      Option.toList_some, Option.toList_none, List.cons_append, List.nil_append, List.append_nil, List.foldl_cons,
      List.foldl_nil, if_true, if_false]

theorem decode_toValue (p : Patch) : decode p.toValue = .ok p := by
  rw [toValue_eq]
  obtain ⟨selector, action, oldValue, newValue, value⟩ := p
  cases oldValue <;> cases newValue <;> cases value <;>
    simp [decode, Decoder.record, Decoder.Field.need, Decoder.Field.mayHave, Decoder.text, Decoder.optional,
      decode_action, default_eq_bare, bare, Except.map, bind, Except.bind, pure, Except.pure]

theorem readItem_of_decode {p : Patch} {item : Value} (hdecode : decode item = .ok p) (hcheck : p.check = .ok ()) :
    readItem item = .ok p := by
  simp [readItem, hdecode, hcheck]

end Patch

/-! ## Batches -/

theorem validateFrom_map {write : Patch → Value} (hwrite : ∀ p, Patch.decode (write p) = .ok p)
    {patches : List Patch} (hsound : ∀ p ∈ patches, p.check = .ok ()) (index : Nat) :
    validateFrom index (patches.map write) = (patches, []) := by
  induction patches generalizing index with
  | nil => rfl
  | cons p rest ih =>
    have hitem := Patch.readItem_of_decode (hwrite p) (hsound p (.head _))
    have hrest := ih (fun q hq => hsound q (.tail _ hq)) (index + 1)
    simp [validateFrom, hitem, hrest]

theorem validateBatch_map {write : Patch → Value} (hwrite : write ∈ [Patch.toJson, Patch.toValue])
    {patches : List Patch} (hsound : ∀ p ∈ patches, p.check = .ok ()) :
    validateBatch (patches.map write) = (patches, []) := by
  have hread : ∀ p, Patch.decode (write p) = .ok p := by
    rcases (by simpa using hwrite : write = Patch.toJson ∨ write = Patch.toValue) with rfl | rfl
    · exact Patch.decode_toJson
    · exact Patch.decode_toValue
  exact validateFrom_map hread hsound 0

theorem check_of_mem_rollback {html : String} {patches : List Patch} {q : Patch}
    (hq : q ∈ rollback html patches) : q.check = .ok () := by
  obtain ⟨hplan, -⟩ := plan_of_mem_rollback html patches q hq
  exact Patch.check_eq_ok_iff.mpr hplan

/-- The patches of every rollback are sound, and as a batch of JSON they are read as they are, with nothing
rejected; so is every list of sound patches. -/
theorem sound_patches_survive_json :
    (∀ html patches, (∀ q ∈ rollback html patches, q.check = .ok ()) ∧
        ∀ write ∈ [Patch.toJson, Patch.toValue],
          validateBatch ((rollback html patches).map write) = (rollback html patches, [])) ∧
      ∀ patches : List Patch, (∀ p ∈ patches, p.check = .ok ()) →
        ∀ write ∈ [Patch.toJson, Patch.toValue], validateBatch (patches.map write) = (patches, []) := by
  refine ⟨fun html patches => ?_, fun patches hsound write hwrite => validateBatch_map hwrite hsound⟩
  have hsound : ∀ q ∈ rollback html patches, q.check = .ok () := fun q hq => check_of_mem_rollback hq
  exact ⟨hsound, fun write hwrite => validateBatch_map hwrite hsound⟩

theorem sound_patches_survive_json_with_quotes :
    let p : Patch := { Patch.bare "#a, .b > p" .setAttribute with value := some "\x7b\"title\": \"\\\"\"\x7d" }
    p.check = .ok () ∧ validateBatch [p.toValue] = ([p], []) := by
  intro p
  have hcheck : p.check = .ok () := by
    have hok : p.check.isOk = true := by decide +kernel
    cases h : p.check with
    | ok => rfl
    | error fault => rw [h] at hok; cases hok
  exact ⟨hcheck, sound_patches_survive_json.2 [p] (by simpa using hcheck) Patch.toValue (by simp)⟩

end PageEdit
