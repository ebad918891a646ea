import Mathlib.Data.List.Nodup
import PageEdit.Proofs.Patch.Rollback

/-!
# Attributes that patches write

A patch for classes, attributes or styles writes a list of attributes for an element. As a list it is looked up
by names in full, and it can be given to the element again, so that more patches write theirs.

* `Patch.attributes?`, `attributesAfter`: what one patch writes, and what some write one after the other.
* `perm_of_valueAt_eq`: lists of attributes with distinct names are told by their look-ups.
-/

namespace PageEdit

open Html

/-! ## Names in a list of attributes -/

section Pairs

variable {name other value : String} {pairs more updates : Payload.Pairs}

/-- The names in a list of attributes. -/
def namesIn (pairs : Payload.Pairs) : List String := pairs.map (·.1)

/-- Two lists of attributes with distinct names that have the same values have the same attributes. -/
theorem perm_of_valueAt_eq (hp : (namesIn pairs).Nodup) (hq : (namesIn more).Nodup)
    (h : ∀ n, valueAt n pairs = valueAt n more) : pairs.Perm more := by
  have hpairs : pairs.Nodup := List.Nodup.of_map _ hp
  have hmore : more.Nodup := List.Nodup.of_map _ hq
  rw [List.perm_ext_iff_of_nodup hpairs hmore]
  rintro ⟨n, v⟩
  rw [← valueAt_eq_some_iff hp, h n, valueAt_eq_some_iff hq]

theorem namesIn_setPair : namesIn (setPair name value pairs) =
    if name ∈ namesIn pairs then namesIn pairs else namesIn pairs ++ [name] := by
  induction pairs with
  | nil => rfl
  | cons p rest ih =>
    obtain ⟨k, v⟩ := p
    rw [setPair]
    by_cases hk : k = name
    · simp [namesIn, hk]
    · have hstep : namesIn ((k, v) :: setPair name value rest) = k :: namesIn (setPair name value rest) := rfl
      rw [if_neg (by simpa using hk), hstep, ih]
      by_cases hmem : name ∈ namesIn rest
      · simp_all [namesIn]
      · simp_all [namesIn, Ne.symm hk]

theorem nodup_setPair (h : (namesIn pairs).Nodup) : (namesIn (setPair name value pairs)).Nodup := by
  rw [namesIn_setPair]
  split
  · exact h
  · next hmem => exact List.nodup_append.mpr ⟨h, List.nodup_singleton _, by simpa using fun a ha => ne_of_mem_of_not_mem ha hmem⟩

theorem setPairs_cons {update : String × String} :
    setPairs (update :: updates) pairs = setPairs updates (setPair update.1 update.2 pairs) :=
  rfl

theorem nodup_setPairs (h : (namesIn pairs).Nodup) :
    (namesIn (setPairs updates pairs)).Nodup := by
  induction updates generalizing pairs with
  | nil => exact h
  | cons u rest ih => exact ih (nodup_setPair h)

theorem nodup_dropPair (h : (namesIn pairs).Nodup) : (namesIn (dropPair name pairs)).Nodup :=
  h.sublist (List.filter_sublist.map _)

theorem nodup_withOrWithout {e : Element} {text : String} (h : (namesIn e.attributes).Nodup) :
    (namesIn (withOrWithout e name text)).Nodup := by
  rw [withOrWithout]
  split
  · exact nodup_dropPair h
  · exact nodup_setPair h

theorem filter_setPair {keep : String × String → Bool} (h : ∀ v, keep (name, v) = false) :
    (setPair name value pairs).filter keep = pairs.filter keep := by
  induction pairs with
  | nil => simp [setPair, h]
  | cons p rest ih =>
    obtain ⟨k, v⟩ := p
    rw [setPair]
    by_cases hk : k = name
    · simp [hk, h]
    · simp [hk, List.filter_cons, ih]

theorem filter_setPairs {keep : String × String → Bool} (h : ∀ u ∈ updates, ∀ v, keep (u.1, v) = false) :
    (setPairs updates pairs).filter keep = pairs.filter keep := by
  induction updates generalizing pairs with
  | nil => rfl
  | cons u rest ih =>
    obtain ⟨hu, hrest⟩ := List.forall_mem_cons.mp h
    exact (ih hrest).trans (filter_setPair hu)

theorem filter_dropPair {keep : String × String → Bool} (h : ∀ v, keep (name, v) = false) :
    (dropPair name pairs).filter keep = pairs.filter keep := by
  rw [dropPair, List.filter_filter]
  refine List.filter_congr fun a _ => ?_
  by_cases ha : a.1 = name
  · rw [← ha] at h
    simp [h a.2]
  · simp [ha]

theorem dropPair_setPair : dropPair name (setPair name value pairs) = dropPair name pairs :=
  filter_setPair fun _ => bne_self_eq_false name

theorem dropPair_dropPair : dropPair name (dropPair name pairs) = dropPair name pairs :=
  filter_dropPair fun _ => bne_self_eq_false name

theorem setPair_setPair : setPair name value (setPair name value pairs) = setPair name value pairs := by
  induction pairs with
  | nil => simp [setPair]
  | cons p rest ih =>
    obtain ⟨k, v⟩ := p
    rw [setPair]
    by_cases hk : k = name
    · simp [hk, setPair]
    · simp [hk, setPair, ih]

theorem dropPair_withOrWithout {e : Element} {text : String} :
    dropPair name (withOrWithout e name text) = dropPair name e.attributes := by
  rw [withOrWithout]
  split
  · exact dropPair_dropPair
  · exact dropPair_setPair

/-! ## All values under a name -/

/-- The values under a name in their order. -/
def valuesAt (name : String) (pairs : Payload.Pairs) : List String := (pairs.filter (·.1 == name)).map (·.2)

/-- The last value under a name. -/
def lastValueAt (name : String) (pairs : Payload.Pairs) : Option String := (valuesAt name pairs).getLast?

theorem valuesAt_cons {p : String × String} :
    valuesAt name (p :: pairs) = if p.1 = name then p.2 :: valuesAt name pairs else valuesAt name pairs := by
  rw [valuesAt, List.filter_cons]
  by_cases hp : p.1 = name
  · rw [if_pos hp, if_pos (by simpa using hp), List.map_cons, valuesAt]
  · rw [if_neg hp, if_neg (by simpa using hp), valuesAt]

theorem valuesAt_setPair_self : valuesAt name (setPair name value pairs) = value :: (valuesAt name pairs).tail := by
  induction pairs with
  | nil => simp [setPair, valuesAt]
  | cons p rest ih =>
    obtain ⟨k, v⟩ := p
    rw [setPair]
    by_cases hk : k = name
    · rw [if_pos (by simpa using hk), valuesAt_cons, if_pos hk, valuesAt_cons, if_pos hk, List.tail_cons]
    · rw [if_neg (by simpa using hk), valuesAt_cons, if_neg hk, ih, valuesAt_cons, if_neg hk]

theorem valuesAt_setPair_of_ne (h : other ≠ name) : valuesAt other (setPair name value pairs) = valuesAt other pairs := by
  have hother : (name == other) = false := beq_false_of_ne (Ne.symm h)
  rw [valuesAt, filter_setPair fun v => hother, valuesAt]

theorem valuesAt_dropPair_self : valuesAt name (dropPair name pairs) = [] := by
  rw [valuesAt, dropPair, List.filter_filter]
  simp

theorem valuesAt_dropPair_of_ne (h : other ≠ name) : valuesAt other (dropPair name pairs) = valuesAt other pairs := by
  have hother : (name == other) = false := beq_false_of_ne (Ne.symm h)
  rw [valuesAt, filter_dropPair fun v => hother, valuesAt]

theorem lastValueAt_cons {p : String × String} :
    lastValueAt name (p :: pairs) = (lastValueAt name pairs).or (if p.1 = name then some p.2 else none) := by
  rw [lastValueAt, lastValueAt, valuesAt_cons]
  by_cases hp : p.1 = name
  · rw [if_pos hp, if_pos hp, List.getLast?_cons]
    cases (valuesAt name pairs).getLast? <;> rfl
  · rw [if_neg hp, if_neg hp, Option.or_none]

theorem isSome_lastValueAt_iff : (lastValueAt name pairs).isSome = true ↔ name ∈ namesIn pairs := by
  rw [lastValueAt, List.getLast?_isSome, valuesAt, namesIn]
  simp

end Pairs

/-! ## What patches write -/

/-- The attributes that a patch writes for an element, if it is sound and does that. -/
def Patch.attributes? (p : Patch) (e : Element) : Option Payload.Pairs := (p.revision? e).bind (·.attributes)

/-- An element with other attributes. Their names in full are those of the list. -/
def Html.Element.withAttributes (e : Element) (pairs : Payload.Pairs) : Element :=
  { e with attrs := pairs.map fun (name, value) => ⟨.plain name, value⟩ }

/-- The attributes of an element when some patches have written theirs, each to what the ones before it have
left. -/
def attributesAfter (e : Element) : List Patch → Option Payload.Pairs
  | [] => some e.attributes
  | p :: rest => (p.attributes? e).bind fun pairs => attributesAfter (e.withAttributes pairs) rest

theorem Html.Element.attributes_withAttributes (e : Element) (pairs : Payload.Pairs) :
    (e.withAttributes pairs).attributes = pairs := by
  rw [withAttributes, attributes, List.map_map]
  exact List.map_id _

theorem Change.bind_revision? (c : Change) (e : Element) : (c.revision? e).bind (·.attributes) = c.attributes? e := by
  cases c with
  | setText | setHtml | append | prepend =>
    simp only [revision?, content?, attributes?]
    split <;> rfl
  | _ => rfl

variable {p : Patch} {plan : Plan} {e : Element}

theorem Patch.attributes?_of_plan (h : p.plan = .ok plan) : p.attributes? e = plan.change.attributes? e := by
  rw [attributes?, revision?_of_plan h, Change.bind_revision?]

/-- Results can be told from each other though faults cannot be compared. -/
theorem eq_ok_of_toOption {ε α : Type} {x : Except ε α} {a : α} (h : x.toOption = some a) : x = .ok a := by
  cases x with
  | error fault => cases h
  | ok b =>
    obtain rfl : b = a := Option.some.inj h
    rfl

theorem Patch.exists_plan_of_change {c : Change} (h : p.plan.toOption.map (·.change) = some c) :
    ∃ plan, p.plan = .ok plan ∧ plan.change = c := by
  obtain ⟨plan, hplan, hchange⟩ := Option.map_eq_some_iff.mp h
  exact ⟨plan, eq_ok_of_toOption hplan, hchange⟩

theorem attributesAfter_cons {pairs : Payload.Pairs} (h : p.attributes? e = some pairs) (rest : List Patch) :
    attributesAfter e (p :: rest) = attributesAfter (e.withAttributes pairs) rest := by
  rw [attributesAfter, h, Option.bind_some]

end PageEdit
