/-!
# Pools

A pool shares the load among resources that can stand for each other. The resource with the fewest open
leases is taken; among equals the first one met going round from a cursor, which moves past it. A pool has
at least one resource, so that there is always one to take.

* `Pool.slots_acquire`, `Pool.slots_release`: a lease given or taken back changes one slot.
-/

namespace PageEdit

/-- A resource with its counts. -/
structure Slot (α : Type) where
  resource : α
  /-- The leases that are open. -/
  active : Nat
  /-- The leases ever given. -/
  total : Nat
  /-- The leases that ended in failure. -/
  errors : Nat
  deriving Repr, DecidableEq

namespace Slot

variable {α : Type}

/-- A slot that has not been used. -/
def fresh (resource : α) : Slot α := ⟨resource, 0, 0, 0⟩

/-- A slot with one more lease. -/
def lend (s : Slot α) : Slot α := { s with active := s.active + 1, total := s.total + 1 }

/-- A slot with one open lease less, which may have ended in failure. -/
def settle (failed : Bool) (s : Slot α) : Slot α :=
  { s with active := s.active - 1, errors := if failed then s.errors + 1 else s.errors }

end Slot

/-- A pool. -/
structure Pool (α : Type) where
  slots : List (Slot α)
  /-- Where the next round begins. -/
  cursor : Nat
  cursor_lt : cursor < slots.length
  deriving Repr, DecidableEq

/-- A right to a slot, by its place. -/
structure Lease where
  index : Nat
  deriving Repr, DecidableEq

/-- The wording for a pool of no resources. -/
def Pool.emptyMessage : String := "pool needs at least one resource"

namespace Pool

variable {α : Type}

/-- A pool of some resources, if there is any. -/
def ofList? (resources : List α) : Option (Pool α) :=
  if h : 0 < resources.length then some ⟨resources.map .fresh, 0, by simpa using h⟩ else none

/-- How many resources there are. -/
def size (p : Pool α) : Nat := p.slots.length

theorem size_pos (p : Pool α) : 0 < p.slots.length := Nat.zero_lt_of_lt p.cursor_lt

/-- The places of the slots going round from the cursor. -/
def round (p : Pool α) : List (Fin p.slots.length) :=
  (List.range p.slots.length).map fun offset =>
    ⟨(p.cursor + offset) % p.slots.length, Nat.mod_lt _ p.size_pos⟩

/-- Of two places the one with fewer open leases, the first if they have as many. -/
def lessBusy (p : Pool α) (i j : Fin p.slots.length) : Fin p.slots.length :=
  if (p.slots.get j).active < (p.slots.get i).active then j else i

/-- The place that the next lease is for. -/
def next (p : Pool α) : Fin p.slots.length := p.round.foldl p.lessBusy ⟨p.cursor, p.cursor_lt⟩

/-- Takes the least active resource. -/
def acquire (p : Pool α) : α × Lease × Pool α :=
  ((p.slots.get p.next).resource, ⟨p.next⟩,
    { slots := p.slots.modify p.next Slot.lend
      cursor := (p.next + 1) % p.slots.length
      cursor_lt := by
        rw [List.length_modify]
        exact Nat.mod_lt _ p.size_pos })

/-- Takes a lease back. A lease of a slot that is not there changes nothing. -/
def release (p : Pool α) (lease : Lease) (failed : Bool) : Pool α :=
  { p with
    slots := p.slots.modify lease.index (Slot.settle failed)
    cursor_lt := by
      rw [List.length_modify]
      exact p.cursor_lt }

theorem slots_acquire (p : Pool α) : p.acquire.2.2.slots = p.slots.modify p.next Slot.lend := rfl

theorem slots_release (p : Pool α) (lease : Lease) (failed : Bool) :
    (p.release lease failed).slots = p.slots.modify lease.index (Slot.settle failed) := rfl

end Pool

end PageEdit
