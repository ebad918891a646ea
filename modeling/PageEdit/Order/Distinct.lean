/-!
# Texts without repetition

A list of texts can be freed of repetitions in two ways: each text stays at its first place, or the texts
are put in their order.

* `distinct_nodup`, `mem_distinct`: no text is left twice, and none is lost.
* `distinct_append_of_nodup`: texts without repetition stay as they are.
* `foldl_see_eq`: what is added to some texts, one after the other.
* `mem_sortedSet`: a set holds the texts it is made of.
* `sortedSet_eq_iff`: lists have the same set exactly if they have the same members.
-/

namespace PageEdit.Order

/-! ## Each at its first place -/

/-- The texts that have been seen and one more, unless it is among them. -/
def see (seen : List String) (x : String) : List String := if x ∈ seen then seen else seen ++ [x]

/-- The texts of a list, each at its first place. -/
def distinct (items : List String) : List String := items.foldl see []

theorem see_nodup {seen : List String} (h : seen.Nodup) (x : String) : (see seen x).Nodup := by
  unfold see
  split
  · exact h
  · rename_i hx
    refine List.nodup_append.2 ⟨h, by simp, fun a ha b hb e => hx ?_⟩
    rw [← List.mem_singleton.1 hb, ← e]
    exact ha

theorem foldl_see_nodup (items : List String) {seen : List String} (h : seen.Nodup) :
    (items.foldl see seen).Nodup := by
  induction items generalizing seen with
  | nil => exact h
  | cons x rest ih => exact ih (see_nodup h x)

theorem distinct_nodup (items : List String) : (distinct items).Nodup :=
  foldl_see_nodup items List.nodup_nil

theorem mem_see {seen : List String} {x z : String} : z ∈ see seen x ↔ z ∈ seen ∨ z = x := by
  unfold see
  split
  · rename_i hx
    constructor
    · exact .inl
    · rintro (h | rfl)
      · exact h
      · exact hx
  · simp

theorem mem_foldl_see {items seen : List String} {z : String} :
    z ∈ items.foldl see seen ↔ z ∈ seen ∨ z ∈ items := by
  induction items generalizing seen with
  | nil => simp
  | cons x rest ih => simp [ih, mem_see, or_assoc]

theorem mem_distinct {items : List String} {z : String} : z ∈ distinct items ↔ z ∈ items := by
  simp [distinct, mem_foldl_see]

theorem distinct_append (a b : List String) : distinct (a ++ b) = b.foldl see (distinct a) := by
  rw [distinct, List.foldl_append, distinct]

theorem foldl_see_of_nodup {items seen : List String} (h : (seen ++ items).Nodup) :
    items.foldl see seen = seen ++ items := by
  induction items generalizing seen with
  | nil => simp
  | cons x rest ih =>
    have hx : x ∉ seen := fun hmem => (List.nodup_append.mp h).2.2 x hmem x List.mem_cons_self rfl
    rw [List.foldl_cons, see, if_neg hx, ih (by simpa using h), List.append_assoc, List.singleton_append]

theorem foldl_see_of_subset {items seen : List String} (h : ∀ x ∈ items, x ∈ seen) :
    items.foldl see seen = seen := by
  induction items with
  | nil => rfl
  | cons x rest ih =>
    rw [List.foldl_cons, see, if_pos (h x List.mem_cons_self)]
    exact ih fun y hy => h y (List.mem_cons_of_mem _ hy)

theorem prefix_foldl_see (items seen : List String) : seen <+: items.foldl see seen := by
  induction items generalizing seen with
  | nil => exact List.prefix_refl seen
  | cons x rest ih =>
    refine List.IsPrefix.trans ?_ (ih (see seen x))
    unfold see
    split
    · exact List.prefix_refl seen
    · exact List.prefix_append seen [x]

/-- Further texts come behind those that are there. -/
theorem distinct_prefix (a b : List String) : distinct a <+: distinct (a ++ b) := by
  rw [distinct_append]
  exact prefix_foldl_see b _

theorem distinct_append_of_nodup {a : List String} (h : a.Nodup) (b : List String) :
    distinct (a ++ b) = b.foldl see a := by
  have ha : distinct a = a := foldl_see_of_nodup h
  rw [distinct_append, ha]

theorem filter_see (keep : String → Bool) (seen : List String) (x : String) :
    (see seen x).filter keep = if keep x then see (seen.filter keep) x else seen.filter keep := by
  unfold see
  by_cases hx : x ∈ seen
  · rw [if_pos hx]
    split
    · next hkeep => rw [if_pos (List.mem_filter.mpr ⟨hx, hkeep⟩)]
    · rfl
  · have hnew : x ∉ seen.filter keep := fun hmem => hx (List.mem_filter.mp hmem).1
    rw [if_neg hx, if_neg hnew, List.filter_append, List.filter_cons]
    split
    · rfl
    · exact List.append_nil _

/-- Leaving out texts does not change the order of the others. -/
theorem filter_distinct (keep : String → Bool) (items : List String) :
    (distinct items).filter keep = distinct (items.filter keep) := by
  have hall : ∀ seen : List String,
      (items.foldl see seen).filter keep = (items.filter keep).foldl see (seen.filter keep) := by
    induction items with
    | nil => exact fun _ => rfl
    | cons x rest ih =>
      intro seen
      rw [List.foldl_cons, ih, filter_see, List.filter_cons]
      split <;> rfl
  exact hall []

/-- What is added to some texts are the first occurrences of those that are not there. -/
theorem foldl_see_eq (items seen : List String) :
    items.foldl see seen = seen ++ (distinct items).filter (· ∉ seen) := by
  induction items generalizing seen with
  | nil => simp [distinct]
  | cons x rest ih =>
    have hfirst : distinct (x :: rest) = x :: (distinct rest).filter (· ∉ [x]) := by
      have hsee : see [] x = [x] := rfl
      rw [distinct, List.foldl_cons, hsee, ih, List.singleton_append]
    rw [List.foldl_cons, ih, hfirst, see]
    by_cases hx : x ∈ seen
    · rw [if_pos hx, List.filter_cons, if_neg (by simpa using hx), List.filter_filter]
      refine congrArg (seen ++ ·) (List.filter_congr fun y _ => ?_)
      by_cases hy : y = x
      · simp [hy, hx]
      · simp [hy]
    · rw [if_neg hx, List.filter_cons, if_pos (by simpa using hx), List.filter_filter, List.append_assoc,
        List.singleton_append]
      refine congrArg (fun more => seen ++ x :: more) (List.filter_congr fun y _ => ?_)
      by_cases hy : y = x <;> simp [hy]

/-! ## Sets in order -/

/-- A set with one more text. -/
def insertDistinct (x : String) : List String → List String
  | [] => [x]
  | y :: rest =>
    if x == y then y :: rest
    else if x < y then x :: y :: rest
    else y :: insertDistinct x rest

/-- The set of some texts. -/
def sortedSet (items : List String) : List String :=
  items.foldl (fun set x => insertDistinct x set) []

theorem mem_insertDistinct {x z : String} {set : List String} :
    z ∈ insertDistinct x set ↔ z = x ∨ z ∈ set := by
  induction set with
  | nil => simp [insertDistinct]
  | cons y rest ih =>
    simp only [insertDistinct]
    split
    · rename_i h
      have h : x = y := by simpa using h
      subst h
      simp
    · split
      · simp
      · simp only [List.mem_cons, ih]
        constructor
        · rintro (h | h | h) <;> simp [h]
        · rintro (h | h | h) <;> simp [h]

theorem mem_sortedSet {z : String} {items : List String} : z ∈ sortedSet items ↔ z ∈ items := by
  have key : ∀ (items set : List String),
      z ∈ items.foldl (fun set x => insertDistinct x set) set ↔ z ∈ set ∨ z ∈ items := by
    intro items
    induction items with
    | nil => simp
    | cons x rest ih =>
      intro set
      simp only [List.foldl_cons, ih, mem_insertDistinct, List.mem_cons]
      constructor
      · rintro ((h | h) | h) <;> simp [h]
      · rintro (h | h | h) <;> simp [h]
  simp [sortedSet, key]

theorem pairwise_insertDistinct {set : List String} (h : set.Pairwise (· < ·)) (x : String) :
    (insertDistinct x set).Pairwise (· < ·) := by
  induction set with
  | nil => simp [insertDistinct]
  | cons y rest ih =>
    obtain ⟨hy, hrest⟩ := List.pairwise_cons.mp h
    rw [insertDistinct]
    split
    · exact h
    rename_i hne
    split
    · rename_i hlt
      refine List.pairwise_cons.mpr ⟨fun z hz => ?_, h⟩
      rcases List.mem_cons.mp hz with rfl | hz
      · exact hlt
      · exact String.lt_trans hlt (hy z hz)
    · rename_i hle
      have hlt : y < x := by
        by_cases hlt : y < x
        · exact hlt
        · obtain rfl := String.le_antisymm (String.not_lt.mp hlt) (String.not_lt.mp hle)
          exact absurd (beq_self_eq_true x) hne
      refine List.pairwise_cons.mpr ⟨fun z hz => ?_, ih hrest⟩
      rcases mem_insertDistinct.mp hz with rfl | hz
      · exact hlt
      · exact hy z hz

theorem pairwise_sortedSet (items : List String) : (sortedSet items).Pairwise (· < ·) := by
  have key : ∀ (items set : List String), set.Pairwise (· < ·) →
      (items.foldl (fun set x => insertDistinct x set) set).Pairwise (· < ·) := by
    intro items
    induction items with
    | nil => exact fun _ h => h
    | cons x rest ih => exact fun set h => ih _ (pairwise_insertDistinct h x)
  exact key items [] .nil

/-- Lists have the same set exactly if they have the same members. -/
theorem sortedSet_eq_iff {a b : List String} : sortedSet a = sortedSet b ↔ ∀ z, z ∈ a ↔ z ∈ b := by
  constructor
  · intro h z
    rw [← mem_sortedSet, h, mem_sortedSet]
  · intro h
    have ha := pairwise_sortedSet a
    have hb := pairwise_sortedSet b
    have hne : ∀ {x y : String}, x < y → x ≠ y := fun hlt he => String.lt_irrefl _ (he ▸ hlt)
    refine List.Perm.eq_of_pairwise (fun x y _ _ hxy hyx => absurd hyx (String.lt_asymm hxy)) ha hb ?_
    refine (List.perm_ext_iff_of_nodup (ha.imp hne) (hb.imp hne)).mpr fun z => ?_
    rw [mem_sortedSet, mem_sortedSet, h]
end PageEdit.Order
