import PageEdit.Pool

/-!
# The accounts of a pool

A pool keeps counts only. A `Ledger` keeps beside it every lease that the pool has given and what has become of
it, so that the counts can be held against the history. Only a lease that is still held can be given back.

* `Ledger.Balanced`: each slot counts the leases of its own.
* `Ledger.Balanced.call`, `Ledger.Balanced.run`: what is asked of a pool keeps its ledger balanced.
* `leases_are_accounted_for`: the counts after every run, and what giving a lease back comes upon.
-/

namespace PageEdit

/-- What has become of a lease. -/
inductive Fate where
  | held
  | returned (failed : Bool)
  deriving Repr, DecidableEq

/-- A lease that has been given, with the resource that came with it. -/
structure Grant (α : Type) where
  lease : Lease
  resource : α
  fate : Fate
  deriving Repr, DecidableEq

namespace Grant

variable {α : Type}

/-- Whether a grant is one of the slot at a place. -/
def isOf (i : Nat) (g : Grant α) : Bool := g.lease.index == i

/-- Whether a grant of the slot at a place is still held. -/
def isHeldOf (i : Nat) (g : Grant α) : Bool := g.isOf i && g.fate == .held

/-- Whether a grant of the slot at a place has come back as failed. -/
def isFailureOf (i : Nat) (g : Grant α) : Bool := g.isOf i && g.fate == .returned true

end Grant

/-- What is asked of a pool. -/
inductive Call where
  | acquire
  /-- Gives back the lease that was the `n`th to be given. -/
  | release (n : Nat) (failed : Bool)
  deriving Repr, DecidableEq

/-- A pool with all leases that it has given, in their order. -/
structure Ledger (α : Type) where
  pool : Pool α
  grants : List (Grant α)
  deriving Repr, DecidableEq

namespace Ledger

variable {α : Type} {resources : List α} {l m : Ledger α} {p : Pool α}

/-- A pool that has given no lease. -/
def opening (p : Pool α) : Ledger α := ⟨p, []⟩

/-- Gives a lease. -/
def acquire (l : Ledger α) : Ledger α :=
  let (resource, lease, pool) := l.pool.acquire
  ⟨pool, l.grants ++ [⟨lease, resource, .held⟩]⟩

/-- Gives a lease back if it is held. -/
def release? (l : Ledger α) (n : Nat) (failed : Bool) : Option (Ledger α) :=
  match l.grants[n]? with
  | some ⟨lease, resource, .held⟩ =>
    some ⟨l.pool.release lease failed, l.grants.set n ⟨lease, resource, .returned failed⟩⟩
  | _ => none

/-- Makes a call, if it gives back no lease that is not held. -/
def call? (l : Ledger α) : Call → Option (Ledger α)
  | .acquire => some l.acquire
  | .release n failed => l.release? n failed

/-- The ledger after some calls, if each lease given back was held. -/
def run? (l : Ledger α) : List Call → Option (Ledger α)
  | [] => some l
  | c :: calls => (l.call? c).bind fun m => m.run? calls

/-! ## Balance -/

/-- Whether the counts of a slot are those of its leases. -/
structure Counts (grants : List (Grant α)) (i : Nat) (s : Slot α) : Prop where
  active : s.active = grants.countP (Grant.isHeldOf i)
  total : s.total = grants.countP (Grant.isOf i)
  errors : s.errors = grants.countP (Grant.isFailureOf i)

/-- Whether the slots are those of the resources and count their leases, and each lease came with the resource
of its slot. -/
structure Balanced (resources : List α) (l : Ledger α) : Prop where
  slots : l.pool.slots.map Slot.resource = resources
  counts : ∀ i s, l.pool.slots[i]? = some s → Counts l.grants i s
  granted : ∀ g ∈ l.grants, resources[g.lease.index]? = some g.resource

theorem balanced_opening (h : Pool.ofList? resources = some p) : (opening p).Balanced resources := by
  unfold Pool.ofList? at h
  split at h
  · cases h
    refine ⟨by simp [opening, Slot.fresh, Function.comp_def], fun i s hs => ?_, nofun⟩
    simp only [opening, List.getElem?_map, Option.map_eq_some_iff] at hs
    obtain ⟨r, -, rfl⟩ := hs
    exact ⟨rfl, rfl, rfl⟩
  · cases h

/-- A change of one slot that leaves its resource alone leaves all resources alone. -/
theorem map_resource_modify (slots : List (Slot α)) (i : Nat) {f : Slot α → Slot α}
    (hf : ∀ s, (f s).resource = s.resource) :
    (slots.modify i f).map Slot.resource = slots.map Slot.resource := by
  refine List.ext_getElem? fun j => ?_
  simp only [List.getElem?_map, List.getElem?_modify]
  cases slots[j]? with
  | none => rfl
  | some s => by_cases hij : i = j <;> simp [hij, hf]

namespace Balanced

theorem slot_of_grant (h : l.Balanced resources) {g : Grant α} (hg : g ∈ l.grants) :
    ∃ s, l.pool.slots[g.lease.index]? = some s ∧ s.resource = g.resource := by
  have := h.granted g hg
  rwa [← h.slots, List.getElem?_map, Option.map_eq_some_iff] at this

/-- The slot of a lease that is held is there and has an open lease to take off. -/
theorem active_pos (h : l.Balanced resources) {g : Grant α} (hg : g ∈ l.grants) (hheld : g.fate = .held) :
    ∃ s, l.pool.slots[g.lease.index]? = some s ∧ 0 < s.active := by
  obtain ⟨s, hs, -⟩ := h.slot_of_grant hg
  refine ⟨s, hs, ?_⟩
  rw [(h.counts _ _ hs).active, List.countP_pos_iff]
  exact ⟨g, hg, by simp [Grant.isHeldOf, Grant.isOf, hheld]⟩

theorem acquire (h : l.Balanced resources) : l.acquire.Balanced resources := by
  refine ⟨?_, fun i s hs => ?_, fun g hg => ?_⟩
  · exact (map_resource_modify (f := Slot.lend) _ _ fun _ => rfl).trans h.slots
  · simp only [Ledger.acquire, Pool.acquire, List.getElem?_modify] at hs ⊢
    obtain ⟨t, ht, rfl⟩ := Option.map_eq_some_iff.mp hs
    obtain ⟨hactive, htotal, herrors⟩ := h.counts i t ht
    by_cases hi : l.pool.next.val = i
    · -- the new grant is one of this slot, and is held
      constructor <;>
        simp [hi, Slot.lend, Grant.isHeldOf, Grant.isFailureOf, Grant.isOf, hactive, htotal, herrors]
    · constructor <;>
        simp [hi, Grant.isHeldOf, Grant.isFailureOf, Grant.isOf, hactive, htotal, herrors]
  · rcases List.mem_append.mp hg with hg | hg
    · exact h.granted g hg
    · obtain rfl := List.mem_singleton.mp hg
      simp [← h.slots]

theorem release {n : Nat} {failed : Bool} (h : l.Balanced resources) (hrel : l.release? n failed = some m) :
    m.Balanced resources := by
  unfold release? at hrel
  split at hrel
  · next lease resource hn =>
    obtain ⟨hlt, hget⟩ := List.getElem?_eq_some_iff.mp hn
    cases hrel
    refine ⟨(map_resource_modify (f := Slot.settle failed) _ _ fun _ => rfl).trans h.slots, fun i s hs => ?_,
      fun g hg => ?_⟩
    · simp only [Pool.release, List.getElem?_modify] at hs ⊢
      obtain ⟨t, ht, rfl⟩ := Option.map_eq_some_iff.mp hs
      obtain ⟨hactive, htotal, herrors⟩ := h.counts i t ht
      by_cases hi : lease.index = i
      · constructor
        · simp [List.countP_set hlt, hget, hi, Slot.settle, Grant.isHeldOf, Grant.isOf, hactive]
        · -- the lease was one of the slot before as it is after
          have hpos : 0 < l.grants.countP (Grant.isOf i) :=
            List.countP_pos_iff.mpr ⟨_, List.getElem_mem hlt, by simp [hget, hi, Grant.isOf]⟩
          simp only [List.countP_set hlt, hget, hi, Slot.settle, Grant.isOf, htotal] at hpos ⊢
          simpa using (Nat.sub_add_cancel hpos).symm
        · cases failed <;>
            simp [List.countP_set hlt, hget, hi, Slot.settle, Grant.isFailureOf, Grant.isOf, herrors]
      · constructor <;>
          simp [List.countP_set hlt, hget, hi, Grant.isHeldOf, Grant.isFailureOf, Grant.isOf, hactive, htotal,
            herrors]
    · rcases List.mem_or_eq_of_mem_set hg with hg | rfl
      · exact h.granted g hg
      · simpa [hget] using h.granted _ (List.getElem_mem hlt)
  · cases hrel

theorem call {c : Call} (h : l.Balanced resources) (hc : l.call? c = some m) : m.Balanced resources := by
  cases c with
  | acquire => exact Option.some.inj hc ▸ h.acquire
  | release n failed => exact h.release hc

theorem run {calls : List Call} (h : l.Balanced resources) (hrun : l.run? calls = some m) :
    m.Balanced resources := by
  induction calls generalizing l with
  | nil => exact Option.some.inj hrun ▸ h
  | cons c calls ih =>
    obtain ⟨next, hnext, hrun⟩ := Option.bind_eq_some_iff.mp hrun
    exact ih (h.call hnext) hrun

end Balanced

/-! ## Runs -/

theorem length_call {c : Call} (hc : l.call? c = some m) : m.grants.length ≤ l.grants.length + 1 := by
  cases c with
  | acquire =>
    obtain rfl := Option.some.inj hc
    simp [acquire]
  | release n failed =>
    simp only [call?, release?] at hc
    split at hc
    · obtain rfl := Option.some.inj hc
      simp
    · cases hc

theorem length_run {calls : List Call} (hrun : l.run? calls = some m) :
    m.grants.length ≤ l.grants.length + calls.length := by
  induction calls generalizing l with
  | nil =>
    obtain rfl := Option.some.inj hrun
    simp
  | cons c calls ih =>
    obtain ⟨next, hnext, hrun⟩ := Option.bind_eq_some_iff.mp hrun
    have := length_call hnext
    have := ih hrun
    rw [List.length_cons]
    omega

/-- The counts of a slot never exceed the number of calls, so that those of a run shorter than `2 ^ 64` have room
in 64 bits. -/
theorem counts_le {calls : List Call} {i : Nat} {s : Slot α} (hc : Counts m.grants i s)
    (hrun : (opening p).run? calls = some m) :
    s.active ≤ s.total ∧ s.errors ≤ s.total ∧ s.total ≤ calls.length := by
  have hle : m.grants.length ≤ calls.length := by simpa [opening] using length_run hrun
  rw [hc.active, hc.total, hc.errors]
  refine ⟨List.countP_mono_left fun g _ hg => ?_, List.countP_mono_left fun g _ hg => ?_,
    Nat.le_trans List.countP_le_length hle⟩
  · exact (Bool.and_eq_true _ _ ▸ hg).1
  · exact (Bool.and_eq_true _ _ ▸ hg).1

end Ledger

/-- A pool of any resources accounts for its leases, after any calls that give back leases that are held: each
slot counts those that are open, that were ever given and that failed; each came with the resource of its slot; and
where one is given back its slot is there with an open lease to take off. -/
theorem leases_are_accounted_for {α : Type} (resources : List α) (hne : resources ≠ []) :
    ∃ p, Pool.ofList? resources = some p ∧
      ∀ calls l, (Ledger.opening p).run? calls = some l →
        l.pool.cursor < resources.length ∧
        l.pool.slots.map Slot.resource = resources ∧
        (∀ i s, l.pool.slots[i]? = some s →
          s.active = l.grants.countP (fun g => g.lease.index == i && g.fate == .held) ∧
          s.total = l.grants.countP (fun g => g.lease.index == i) ∧
          s.errors = l.grants.countP (fun g => g.lease.index == i && g.fate == .returned true) ∧
          s.active ≤ s.total ∧ s.errors ≤ s.total ∧ s.total ≤ calls.length) ∧
        (∀ g ∈ l.grants, resources[g.lease.index]? = some g.resource) ∧
        ∀ g ∈ l.grants, g.fate = .held →
          ∃ s, l.pool.slots[g.lease.index]? = some s ∧ 0 < s.active := by
  have hpos : 0 < resources.length := List.length_pos_iff.mpr hne
  obtain ⟨p, hp⟩ : ∃ p, Pool.ofList? resources = some p := ⟨_, dif_pos hpos⟩
  refine ⟨p, hp, fun calls l hrun => ?_⟩
  have hbal := (Ledger.balanced_opening hp).run hrun
  refine ⟨?_, hbal.slots, fun i s hs => ?_, hbal.granted, fun g hg hheld => hbal.active_pos hg hheld⟩
  · simpa [← hbal.slots] using l.pool.cursor_lt
  · have hcounts := hbal.counts i s hs
    exact ⟨hcounts.active, hcounts.total, hcounts.errors, Ledger.counts_le hcounts hrun⟩

theorem leases_are_accounted_for_after_failure :
    ["a", "b"] ≠ [] ∧ ∃ p l, Pool.ofList? ["a", "b"] = some p ∧
      (Ledger.opening p).run? [.acquire, .acquire, .release 0 true, .acquire] = some l ∧
      l.pool.slots[0]? = some ⟨"a", 1, 2, 1⟩ ∧
      l.grants.countP (fun g => g.lease.index == 0 && g.fate == .held) = 1 := by
  obtain ⟨p, hp, h⟩ := leases_are_accounted_for ["a", "b"] (by decide)
  obtain ⟨l, hl⟩ : ∃ l, (Ledger.opening p).run? [.acquire, .acquire, .release 0 true, .acquire] = some l := by
    cases hp
    exact ⟨_, rfl⟩
  have hslot : l.pool.slots[0]? = some ⟨"a", 1, 2, 1⟩ := by
    cases hp
    cases hl
    rfl
  have hcounts := (h _ l hl).2.2.1 0 _ hslot
  exact ⟨by decide, p, l, hp, hl, hslot, hcounts.1.symm⟩

end PageEdit
