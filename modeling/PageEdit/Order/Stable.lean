/-!
# Stable sorting

Items are put one by one in front of the first that may follow them. Items that may stand in either
order keep the one they had.

* `stableSort_perm`: nothing is lost or added.
* `pairwise_stableSort`: if any two items are comparable and the order is transitive, every item may
  stand before those that follow it.
* `pairwise_stableSort_and`: items that may stand in either order keep the one they had.
* `stableSort_eq_self`, `filter_stableSort`: what is in order stays, and leaving out items does no harm.
* `pairwise_zipIdx`, `stableSort_map`: items with their places, by which the order they had can be said.
-/

namespace PageEdit.Order

variable {α : Type}

/-- Puts an item in front of the first that may follow it. -/
def insert (le : α → α → Bool) (x : α) : List α → List α
  | [] => [x]
  | y :: rest => if le x y then x :: y :: rest else y :: insert le x rest

/-- The items in their order. -/
def stableSort (le : α → α → Bool) : List α → List α
  | [] => []
  | x :: rest => insert le x (stableSort le rest)

theorem insert_perm (le : α → α → Bool) (x : α) (l : List α) : (insert le x l).Perm (x :: l) := by
  induction l with
  | nil => exact .refl _
  | cons y rest ih =>
    simp only [insert]
    split
    · exact .refl _
    · exact (ih.cons y).trans (.swap x y rest)

theorem stableSort_perm (le : α → α → Bool) (l : List α) : (stableSort le l).Perm l := by
  induction l with
  | nil => exact .refl _
  | cons x rest ih => exact (insert_perm le x _).trans (ih.cons x)

section Ordered

variable {le : α → α → Bool} {R : α → α → Prop}

theorem pairwise_insert (total : ∀ a b, le a b = true ∨ le b a = true)
    (trans : ∀ a b c, le a b = true → le b c = true → le a c = true) {x : α} {l : List α}
    (hx : ∀ y ∈ l, R x y) (h : l.Pairwise fun a b => le a b = true ∧ (le b a = true → R a b)) :
    (insert le x l).Pairwise fun a b => le a b = true ∧ (le b a = true → R a b) := by
  induction l with
  | nil => simp [insert]
  | cons y rest ih =>
    simp only [insert]
    obtain ⟨hy, hr⟩ := List.pairwise_cons.1 h
    obtain ⟨hxy, hxr⟩ := List.forall_mem_cons.1 hx
    split
    · rename_i hle
      refine List.pairwise_cons.2 ⟨fun z hz => ?_, h⟩
      rcases List.mem_cons.1 hz with rfl | hz
      · exact ⟨hle, fun _ => hxy⟩
      · exact ⟨trans _ _ _ hle (hy z hz).1, fun _ => hxr z hz⟩
    · rename_i hle
      refine List.pairwise_cons.2 ⟨fun z hz => ?_, ih hxr hr⟩
      rcases List.mem_cons.1 ((insert_perm le x rest).mem_iff.1 hz) with rfl | hz
      · exact ⟨(total z y).resolve_left hle, fun h => absurd h hle⟩
      · exact hy z hz

/-- Items that may stand in either order keep what held of them in the order they had. -/
theorem pairwise_stableSort_and (total : ∀ a b, le a b = true ∨ le b a = true)
    (trans : ∀ a b c, le a b = true → le b c = true → le a c = true) {l : List α} (h : l.Pairwise R) :
    (stableSort le l).Pairwise fun a b => le a b = true ∧ (le b a = true → R a b) := by
  induction l with
  | nil => exact .nil
  | cons x rest ih =>
    obtain ⟨hx, hrest⟩ := List.pairwise_cons.1 h
    exact pairwise_insert total trans
      (fun y hy => hx y ((stableSort_perm le rest).mem_iff.1 hy)) (ih hrest)

theorem pairwise_stableSort (total : ∀ a b, le a b = true ∨ le b a = true)
    (trans : ∀ a b c, le a b = true → le b c = true → le a c = true) (l : List α) :
    (stableSort le l).Pairwise (le · · = true) :=
  (pairwise_stableSort_and (R := fun _ _ => True) total trans (List.pairwise_of_forall fun _ _ => trivial)).imp
    And.left

theorem insert_eq_cons {x : α} {l : List α} (h : ∀ y ∈ l, le x y = true) : insert le x l = x :: l := by
  cases l with
  | nil => rfl
  | cons y rest => rw [insert, if_pos (h y List.mem_cons_self)]

/-- Items that are in order stay as they are. -/
theorem stableSort_eq_self {l : List α} (h : l.Pairwise (le · · = true)) : stableSort le l = l := by
  induction l with
  | nil => rfl
  | cons x rest ih =>
    obtain ⟨hx, hrest⟩ := List.pairwise_cons.mp h
    rw [stableSort, ih hrest, insert_eq_cons hx]

theorem filter_insert (trans : ∀ a b c, le a b = true → le b c = true → le a c = true) (keep : α → Bool) (x : α)
    {l : List α} (h : l.Pairwise (le · · = true)) :
    (insert le x l).filter keep = if keep x then insert le x (l.filter keep) else l.filter keep := by
  induction l with
  | nil => cases hx : keep x <;> simp [insert, hx]
  | cons y rest ih =>
    obtain ⟨hy, hrest⟩ := List.pairwise_cons.mp h
    rw [insert]
    split
    · next hle =>
      have hall : ∀ z ∈ (y :: rest).filter keep, le x z = true := by
        intro z hz
        rcases List.mem_cons.mp (List.mem_filter.mp hz).1 with rfl | hz
        · exact hle
        · exact trans _ _ _ hle (hy z hz)
      rw [insert_eq_cons hall, List.filter_cons]
    · next hle =>
      rw [List.filter_cons, ih hrest, List.filter_cons]
      cases hx : keep x <;> cases hkeep : keep y <;> simp [insert, hle]

/-- Leaving out items does not change the order of the others. -/
theorem filter_stableSort (total : ∀ a b, le a b = true ∨ le b a = true)
    (trans : ∀ a b c, le a b = true → le b c = true → le a c = true) (keep : α → Bool) (l : List α) :
    (stableSort le l).filter keep = stableSort le (l.filter keep) := by
  induction l with
  | nil => rfl
  | cons x rest ih =>
    rw [stableSort, filter_insert trans keep x (pairwise_stableSort total trans rest), ih, List.filter_cons]
    split <;> rfl

end Ordered

/-- Items that are given their places come by these. -/
theorem pairwise_zipIdx (l : List α) : l.zipIdx.Pairwise fun x y => x.2 < y.2 := by
  have hplaces : (l.zipIdx.map Prod.snd).Pairwise (· < ·) := by
    rw [List.zipIdx_map_snd]
    exact List.pairwise_lt_range'
  exact List.pairwise_map.mp hplaces

section Mapped

variable {β : Type} (le : α → α → Bool) (f : β → α)

theorem insert_map (x : β) (l : List β) :
    insert le (f x) (l.map f) = (insert (fun a b => le (f a) (f b)) x l).map f := by
  induction l with
  | nil => rfl
  | cons y rest ih =>
    simp only [List.map_cons, insert, ih]
    split <;> rfl

/-- Items can be sorted by what they are mapped to. -/
theorem stableSort_map (l : List β) :
    stableSort le (l.map f) = (stableSort (fun a b => le (f a) (f b)) l).map f := by
  induction l with
  | nil => rfl
  | cons x rest ih => rw [List.map_cons, stableSort, stableSort, ih, insert_map]

end Mapped

end PageEdit.Order
