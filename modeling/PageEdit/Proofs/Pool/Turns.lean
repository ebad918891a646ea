import Mathlib.Data.List.Rotate
import Mathlib.Data.Nat.ModEq
import PageEdit.Proofs.Pool.Accounts

/-!
# Taking turns

Seen from the cursor the slots of a pool stand in a queue. The slot that is taken is the first of the least active
ones in it, and the queue is turned until this slot is the last. So the slots take turns as long as the first in the
queue is among the least active: a pool that is level serves one round of all its slots, whatever becomes of the
leases in between, and round after round if all leases are kept or all are given back.

The statements are about every pool, and so about every state that a pool can come to.

* `Pool.exists_queue_eq`: which slot is taken, and what becomes of the queue.
* `Pool.spread_acquire_le`: how far apart the loads of slots are.
* `Pool.places_of_level`, `Pool.places_of_uniform`: the order in which slots are served.
* `slots_take_turns`: all of this, by the places of the slots.
-/

namespace PageEdit

/-- What becomes of a lease before the next one is taken. -/
inductive Use where
  | keep
  | giveBack (failed : Bool)
  deriving Repr, DecidableEq

/-- A slot after one more lease and what becomes of it. -/
def Slot.used {α : Type} (s : Slot α) : Use → Slot α
  | .keep => s.lend
  | .giveBack failed => s.lend.settle failed

namespace Pool

variable {α : Type} {p : Pool α}

/-- A pool after one more lease and what becomes of it. -/
def serve (p : Pool α) : Use → Pool α
  | .keep => p.acquire.2.2
  | .giveBack failed => p.acquire.2.2.release p.acquire.2.1 failed

/-- The leases that are taken one after the other, each with its resource. -/
def leases (p : Pool α) : List Use → List (α × Lease)
  | [] => []
  | u :: uses => (p.acquire.1, p.acquire.2.1) :: (p.serve u).leases uses

/-- The slots going round from the cursor. -/
def queue (p : Pool α) : List (Slot α) := p.slots.rotate p.cursor

theorem length_queue (p : Pool α) : p.queue.length = p.slots.length := List.length_rotate ..

theorem mem_queue {s : Slot α} : s ∈ p.queue ↔ s ∈ p.slots := List.mem_rotate

theorem getElem?_queue {k : Nat} (hk : k < p.slots.length) :
    p.queue[k]? = p.slots[(p.cursor + k) % p.slots.length]? := by
  rw [queue, List.getElem?_rotate hk, Nat.add_comm]

/-! ## The slot that is taken -/

theorem getElem?_round {k : Nat} {i : Fin p.slots.length} (h : p.round[k]? = some i) :
    k < p.slots.length ∧ i.val = (p.cursor + k) % p.slots.length := by
  simp only [round, List.getElem?_map, Option.map_eq_some_iff] at h
  obtain ⟨offset, hoffset, rfl⟩ := h
  obtain ⟨hk, rfl⟩ := List.getElem?_eq_some_iff.mp hoffset
  rw [List.length_range] at hk
  exact ⟨hk, by simp⟩

theorem map_get_round (p : Pool α) : p.round.map p.slots.get = p.queue := by
  refine List.ext_getElem? fun k => ?_
  rw [List.getElem?_map]
  cases h : p.round[k]? with
  | none =>
    have hlength : p.slots.length ≤ k := by simpa [round] using h
    rw [Option.map_none, List.getElem?_eq_none (by rwa [length_queue])]
  | some i =>
    obtain ⟨hk, hi⟩ := getElem?_round h
    rw [getElem?_queue hk, ← hi, Option.map_some, List.getElem?_eq_getElem i.isLt]
    rfl

/-- Going through some places keeps the first of the least busy ones. -/
theorem exists_foldl_lessBusy (p : Pool α) (places : List (Fin p.slots.length)) (i : Fin p.slots.length) :
    ∃ before behind, i :: places = before ++ places.foldl p.lessBusy i :: behind ∧
      (∀ j ∈ before, (p.slots.get (places.foldl p.lessBusy i)).active < (p.slots.get j).active) ∧
      ∀ j ∈ behind, (p.slots.get (places.foldl p.lessBusy i)).active ≤ (p.slots.get j).active := by
  induction places generalizing i with
  | nil => exact ⟨[], [], rfl, nofun, nofun⟩
  | cons j places ih =>
    rw [List.foldl_cons]
    obtain ⟨before, behind, heq, hbefore, hbehind⟩ := ih (p.lessBusy i j)
    generalize places.foldl p.lessBusy (p.lessBusy i j) = r at heq hbefore hbehind ⊢
    by_cases hless : (p.slots.get j).active < (p.slots.get i).active
    · rw [lessBusy, if_pos hless] at heq
      refine ⟨i :: before, behind, by rw [heq, List.cons_append], ?_, hbehind⟩
      -- the place kept is as busy as `j` at most, and so less busy than `i`
      have hle : (p.slots.get r).active ≤ (p.slots.get j).active := by
        cases before with
        | nil =>
          obtain ⟨rfl, -⟩ := List.cons.inj heq
          exact Nat.le_refl _
        | cons k before =>
          obtain ⟨rfl, -⟩ := List.cons.inj heq
          exact Nat.le_of_lt (hbefore j (.head _))
      rw [List.forall_mem_cons]
      exact ⟨Nat.lt_of_le_of_lt hle hless, hbefore⟩
    · rw [lessBusy, if_neg hless] at heq
      cases before with
      | nil =>
        obtain ⟨rfl, rfl⟩ := List.cons.inj heq
        refine ⟨[], j :: places, rfl, nofun, ?_⟩
        rw [List.forall_mem_cons]
        exact ⟨Nat.le_of_not_lt hless, hbehind⟩
      | cons k before =>
        obtain ⟨rfl, hplaces⟩ := List.cons.inj heq
        rw [List.forall_mem_cons] at hbefore
        obtain ⟨hi, hbefore⟩ := hbefore
        refine ⟨i :: j :: before, behind, by rw [hplaces]; rfl, ?_, hbehind⟩
        rw [List.forall_mem_cons, List.forall_mem_cons]
        exact ⟨hi, by omega, hbefore⟩

/-- The slot that is taken is the first in the queue of those that are least active. -/
theorem exists_round_eq (p : Pool α) : ∃ before behind, p.round = before ++ p.next :: behind ∧
    (∀ j ∈ before, (p.slots.get p.next).active < (p.slots.get j).active) ∧
    ∀ j ∈ behind, (p.slots.get p.next).active ≤ (p.slots.get j).active := by
  -- the round begins with the cursor, which is where the search begins too
  obtain ⟨rest, hround⟩ : ∃ rest, p.round = ⟨p.cursor, p.cursor_lt⟩ :: rest := by
    cases h : p.round with
    | nil =>
      have hlength := congrArg List.length h
      have hpos := p.size_pos
      simp only [round, List.length_map, List.length_range, List.length_nil] at hlength
      omega
    | cons i rest =>
      have hi := (getElem?_round (k := 0) (i := i) (by rw [h]; rfl)).2
      rw [Nat.add_zero, Nat.mod_eq_of_lt p.cursor_lt] at hi
      exact ⟨rest, congrArg (· :: rest) (Fin.ext hi)⟩
  have hself : p.lessBusy ⟨p.cursor, p.cursor_lt⟩ ⟨p.cursor, p.cursor_lt⟩ = ⟨p.cursor, p.cursor_lt⟩ := by
    rw [lessBusy, ite_self]
  have hnext : p.next = rest.foldl p.lessBusy ⟨p.cursor, p.cursor_lt⟩ := by
    rw [next, hround, List.foldl_cons, hself]
  rw [hnext, hround]
  exact p.exists_foldl_lessBusy rest _

/-! ## The queue -/

theorem rotate_modify {β : Type} {l : List β} {i : Nat} (hi : i < l.length) (f : β → β) :
    (l.modify i f).rotate (i + 1) = l.drop (i + 1) ++ l.take i ++ [f l[i]] := by
  have hsplit : l.modify i f = (l.take i ++ [f l[i]]) ++ l.drop (i + 1) := by
    rw [List.modify_eq_take_cons_drop hi, List.append_assoc, List.singleton_append]
  have hcount : i + 1 = (l.take i ++ [f l[i]]).length := by
    rw [List.length_append, List.length_take, Nat.min_eq_left (Nat.le_of_lt hi), List.length_singleton]
  rw [hsplit, hcount, List.rotate_append_length_eq, ← hcount, List.append_assoc]

/-- If an item is changed and a list is turned past it, the item is the last. -/
theorem rotate_modify_of_rotate {β : Type} {l before behind : List β} {x : β} {c i : Nat}
    (h : l.rotate c = before ++ x :: behind) (hi : i = (c + before.length) % l.length) (f : β → β) :
    (l.modify i f).rotate ((i + 1) % l.length) = behind ++ before ++ [f x] := by
  have hpos : 0 < l.length := by
    have hlength := congrArg List.length h
    simp only [List.length_rotate, List.length_append, List.length_cons] at hlength
    omega
  have hlt : i < l.length := hi ▸ Nat.mod_lt _ hpos
  -- without the change the list is turned to what stands behind the item, what stands before it, and the item
  have hrest : l.drop (i + 1) ++ l.take i ++ [l[i]] = behind ++ before ++ [x] := by
    calc l.drop (i + 1) ++ l.take i ++ [l[i]] = l.rotate (i + 1) := by
          rw [← id_eq l[i], ← rotate_modify hlt id, List.modify_id]
      _ = l.rotate (c + (before.length + 1)) := by
          rw [← List.rotate_mod, hi, Nat.mod_add_mod, List.rotate_mod, Nat.add_assoc]
      _ = ((before ++ [x]) ++ behind).rotate (before ++ [x]).length := by
          rw [← List.rotate_rotate, h, List.append_assoc, List.singleton_append, List.length_append,
            List.length_singleton]
      _ = behind ++ before ++ [x] := by rw [List.rotate_append_length_eq, List.append_assoc]
  obtain ⟨hinit, hlast⟩ := List.append_inj' hrest rfl
  have hturn : (l.modify i f).rotate ((i + 1) % l.length) = (l.modify i f).rotate (i + 1) := by
    rw [← List.length_modify (f := f) (i := i) (l := l), List.rotate_mod]
  rw [hturn, rotate_modify hlt, hinit, (List.cons.inj hlast).1]

theorem slots_serve (p : Pool α) (u : Use) : (p.serve u).slots = p.slots.modify p.next (Slot.used · u) := by
  cases u with
  | keep => rfl
  | giveBack failed =>
    rw [serve, slots_release, slots_acquire]
    exact List.modify_modify_eq ..

theorem cursor_serve (p : Pool α) (u : Use) : (p.serve u).cursor = (p.next + 1) % p.slots.length := by
  cases u <;> rfl

theorem length_serve (p : Pool α) (u : Use) : (p.serve u).slots.length = p.slots.length := by
  rw [slots_serve, List.length_modify]

/-- The slot that is taken is the first in the queue of those that are least active, and then it is the last in the
queue. -/
theorem exists_queue_eq (p : Pool α) : ∃ before s behind, p.queue = before ++ s :: behind ∧
    (∀ t ∈ before, s.active < t.active) ∧ (∀ t ∈ behind, s.active ≤ t.active) ∧
    p.next.val = (p.cursor + before.length) % p.slots.length ∧ p.slots.get p.next = s ∧
    ∀ u, (p.serve u).queue = behind ++ before ++ [s.used u] := by
  obtain ⟨before, behind, hround, hbefore, hbehind⟩ := p.exists_round_eq
  have hqueue : p.queue = before.map p.slots.get ++ p.slots.get p.next :: behind.map p.slots.get := by
    rw [← map_get_round, hround, List.map_append, List.map_cons]
  have hnext : p.next.val = (p.cursor + before.length) % p.slots.length :=
    (getElem?_round (by rw [hround]; simp)).2
  refine ⟨before.map p.slots.get, p.slots.get p.next, behind.map p.slots.get, hqueue, ?_, ?_, ?_, rfl, ?_⟩
  · rw [List.forall_mem_map]
    exact hbefore
  · rw [List.forall_mem_map]
    exact hbehind
  · rw [List.length_map]
    exact hnext
  · intro u
    rw [queue, slots_serve, cursor_serve]
    exact rotate_modify_of_rotate hqueue (by rw [List.length_map]; exact hnext) (Slot.used · u)

/-! ## How far the loads are apart -/

/-- The most that any slot is active. -/
def busiest (p : Pool α) : Nat := (p.slots.map Slot.active).max?.getD 0

/-- The least that any slot is active. -/
def idlest (p : Pool α) : Nat := (p.slots.map Slot.active).min?.getD 0

/-- How far the loads of the slots are apart. -/
def spread (p : Pool α) : Nat := p.busiest - p.idlest

theorem exists_busiest (p : Pool α) : ∃ s ∈ p.slots, s.active = p.busiest := by
  have hne : p.slots.map Slot.active ≠ [] := List.ne_nil_of_length_pos (by simpa using p.size_pos)
  obtain ⟨m, hm⟩ := Option.isSome_iff_exists.mp (List.isSome_max?_of_ne_nil hne)
  obtain ⟨s, hs, hsm⟩ := List.mem_map.mp (List.max?_mem hm)
  exact ⟨s, hs, by rw [busiest, hm, hsm, Option.getD_some]⟩

theorem exists_idlest (p : Pool α) : ∃ s ∈ p.slots, s.active = p.idlest := by
  have hne : p.slots.map Slot.active ≠ [] := List.ne_nil_of_length_pos (by simpa using p.size_pos)
  obtain ⟨m, hm⟩ := Option.isSome_iff_exists.mp (List.isSome_min?_of_ne_nil hne)
  obtain ⟨s, hs, hsm⟩ := List.mem_map.mp (List.min?_mem hm)
  exact ⟨s, hs, by rw [idlest, hm, hsm, Option.getD_some]⟩

theorem spread_le_iff {d : Nat} :
    p.spread ≤ d ↔ ∀ s ∈ p.slots, ∀ t ∈ p.slots, s.active ≤ t.active + d := by
  constructor
  · intro hd s hs t ht
    have hbusiest : s.active ≤ p.busiest := List.le_max?_getD_of_mem (List.mem_map_of_mem hs)
    have hidlest : p.idlest ≤ t.active := List.min?_getD_le_of_mem (List.mem_map_of_mem ht)
    rw [spread] at hd
    omega
  · intro h
    obtain ⟨s, hs, hbusiest⟩ := p.exists_busiest
    obtain ⟨t, ht, hidlest⟩ := p.exists_idlest
    have hst := h s hs t ht
    rw [spread]
    omega

/-- The slot that is taken gets no more than one lease ahead of another that it was not ahead of. -/
theorem spread_acquire_le (p : Pool α) : p.acquire.2.2.spread ≤ max p.spread 1 := by
  obtain ⟨before, s, behind, hqueue, hbefore, hbehind, -, -, hserve⟩ := p.exists_queue_eq
  have hslots : ∀ t, t ∈ p.slots ↔ t ∈ before ∨ t = s ∨ t ∈ behind := by
    intro t
    rw [← mem_queue, hqueue, List.mem_append, List.mem_cons]
  have hserved : ∀ t, t ∈ p.acquire.2.2.slots ↔ (t ∈ behind ∨ t ∈ before) ∨ t = s.lend := by
    intro t
    have hkeep : p.acquire.2.2.queue = behind ++ before ++ [s.lend] := hserve .keep
    rw [← mem_queue, hkeep, List.mem_append, List.mem_append, List.mem_singleton]
  have hold : ∀ t ∈ p.slots, ∀ t' ∈ p.slots, t.active ≤ t'.active + p.spread :=
    spread_le_iff.mp (Nat.le_refl _)
  have hs : s ∈ p.slots := (hslots s).mpr (.inr (.inl rfl))
  have hlend : s.lend.active = s.active + 1 := rfl
  -- every other slot was there before, and is as active as `s` at least
  have hother : ∀ t, t ∈ behind ∨ t ∈ before → t ∈ p.slots ∧ s.active ≤ t.active := by
    rintro t (ht | ht)
    · exact ⟨(hslots t).mpr (.inr (.inr ht)), hbehind t ht⟩
    · exact ⟨(hslots t).mpr (.inl ht), Nat.le_of_lt (hbefore t ht)⟩
  rw [spread_le_iff]
  intro t ht t' ht'
  rcases (hserved t).mp ht with ht | rfl
  · rcases (hserved t').mp ht' with ht' | rfl
    · have := hold t (hother t ht).1 t' (hother t' ht').1
      omega
    · have := hold t (hother t ht).1 s hs
      omega
  · rcases (hserved t').mp ht' with ht' | rfl
    · have := (hother t' ht').2
      omega
    · omega

/-! ## The order of slots -/

theorem active_used_keep (s : Slot α) : (s.used .keep).active = s.active + 1 := rfl

theorem active_used_giveBack (s : Slot α) (failed : Bool) : (s.used (.giveBack failed)).active = s.active :=
  Nat.add_sub_cancel ..

/-- The places of some slots from the cursor on, going round. -/
def places (p : Pool α) (n : Nat) : List Lease :=
  (List.range n).map fun k => ⟨(p.cursor + k) % p.slots.length⟩

/-- As long as there are enough slots no place comes twice. -/
theorem nodup_places {n : Nat} (hn : n ≤ p.slots.length) : (p.places n).Nodup := by
  refine List.Nodup.map_on (fun j hj k hk h => ?_) List.nodup_range
  rw [List.mem_range] at hj hk
  have hmod : Nat.ModEq p.slots.length (p.cursor + j) (p.cursor + k) := congrArg Lease.index h
  exact (Nat.ModEq.add_left_cancel' _ hmod).eq_of_lt_of_lt (by omega) (by omega)

/-- A slot that is first in the queue and among the least active is taken. -/
theorem serve_of_queue {s : Slot α} {rest : List (Slot α)} (h : p.queue = s :: rest)
    (hleast : ∀ t ∈ rest, s.active ≤ t.active) :
    p.next.val = p.cursor ∧ ∀ u, (p.serve u).queue = rest ++ [s.used u] := by
  obtain ⟨before, t, behind, hqueue, hbefore, -, hnext, -, hserve⟩ := p.exists_queue_eq
  cases before with
  | nil =>
    obtain ⟨rfl, rfl⟩ := List.cons.inj (h.symm.trans hqueue)
    rw [List.length_nil, Nat.add_zero, Nat.mod_eq_of_lt p.cursor_lt] at hnext
    exact ⟨hnext, fun u => by rw [hserve, List.append_nil]⟩
  | cons r before =>
    -- the slot that is taken would be less active than the first
    obtain ⟨rfl, rfl⟩ := List.cons.inj (h.symm.trans hqueue)
    have hless := hbefore s (.head _)
    have hle := hleast t (by simp)
    omega

theorem places_succ (n : Nat) {u : Use} (hnext : p.next.val = p.cursor) :
    p.places (n + 1) = ⟨p.cursor⟩ :: (p.serve u).places n := by
  rw [places, List.range_succ_eq_map, List.map_cons, List.map_map, places, Nat.add_zero,
    Nat.mod_eq_of_lt p.cursor_lt, cursor_serve, length_serve, hnext]
  refine congrArg _ (List.map_congr_left fun k _ => ?_)
  rw [Function.comp_apply, Nat.mod_add_mod, Nat.succ_eq_add_one, Nat.add_assoc, Nat.add_comm 1]

theorem map_snd_leases_cons {u : Use} {uses : List Use} (hnext : p.next.val = p.cursor)
    (hrest : ((p.serve u).leases uses).map Prod.snd = (p.serve u).places uses.length) :
    (p.leases (u :: uses)).map Prod.snd = p.places (u :: uses).length := by
  rw [leases, List.map_cons, hrest, List.length_cons, places_succ _ hnext]
  exact congrArg (· :: _) (congrArg Lease.mk hnext)

/-- The slots at the head of the queue are served one after the other if they are equally active and none behind them
is less so. -/
theorem places_of_queue {uses : List Use} {head rest : List (Slot α)} {a : Nat} (hqueue : p.queue = head ++ rest)
    (hhead : ∀ s ∈ head, s.active = a) (hrest : ∀ t ∈ rest, a ≤ t.active) (hlength : uses.length ≤ head.length) :
    (p.leases uses).map Prod.snd = p.places uses.length := by
  induction uses generalizing p head rest with
  | nil => rfl
  | cons u uses ih =>
    cases head with
    | nil => cases hlength
    | cons s head =>
      rw [List.forall_mem_cons] at hhead
      obtain ⟨hs, hhead⟩ := hhead
      have hleast : ∀ t ∈ head ++ rest, s.active ≤ t.active := by
        rw [List.forall_mem_append]
        exact ⟨fun t ht => by rw [hs, hhead t ht], fun t ht => hs ▸ hrest t ht⟩
      obtain ⟨hnext, hserve⟩ := serve_of_queue hqueue hleast
      refine map_snd_leases_cons hnext (ih ((hserve u).trans (List.append_assoc ..)) hhead ?_ ?_)
      · rw [List.forall_mem_append, List.forall_mem_singleton]
        refine ⟨hrest, ?_⟩
        cases u with
        | keep => rw [active_used_keep]; omega
        | giveBack failed => rw [active_used_giveBack]; omega
      · exact Nat.le_of_succ_le_succ hlength

/-- If all leases are kept, the slots that have been served in this round are one lease ahead of the others, and when
they are all of them, the next round begins. -/
theorem places_of_keep {uses : List Use} {head rest : List (Slot α)} {a : Nat} (hqueue : p.queue = head ++ rest)
    (hne : head ≠ []) (hhead : ∀ s ∈ head, s.active = a) (hrest : ∀ t ∈ rest, t.active = a + 1)
    (huses : ∀ u ∈ uses, u = .keep) : (p.leases uses).map Prod.snd = p.places uses.length := by
  induction uses generalizing p head rest a with
  | nil => rfl
  | cons u uses ih =>
    rw [List.forall_mem_cons] at huses
    obtain ⟨rfl, huses⟩ := huses
    obtain ⟨s, head, rfl⟩ := List.exists_cons_of_ne_nil hne
    rw [List.forall_mem_cons] at hhead
    obtain ⟨hs, hhead⟩ := hhead
    have hleast : ∀ t ∈ head ++ rest, s.active ≤ t.active := by
      rw [List.forall_mem_append]
      exact ⟨fun t ht => by rw [hs, hhead t ht], fun t ht => by rw [hs, hrest t ht]; omega⟩
    obtain ⟨hnext, hserve⟩ := serve_of_queue hqueue hleast
    have hserved : ∀ t ∈ rest ++ [s.used .keep], t.active = a + 1 := by
      rw [List.forall_mem_append, List.forall_mem_singleton, active_used_keep, hs]
      exact ⟨hrest, rfl⟩
    have hturned := (hserve .keep).trans (List.append_assoc ..)
    refine map_snd_leases_cons hnext ?_
    cases head with
    | nil =>
      exact ih (hturned.trans (List.append_nil _).symm) (by simp) hserved nofun huses
    | cons t head => exact ih hturned (List.cons_ne_nil _ _) hhead hserved huses

/-- If all leases are given back, the slots stay equally active. -/
theorem places_of_giveBack {uses : List Use} {a : Nat} (hlevel : ∀ s ∈ p.queue, s.active = a)
    (huses : ∀ u ∈ uses, u ≠ .keep) : (p.leases uses).map Prod.snd = p.places uses.length := by
  induction uses generalizing p with
  | nil => rfl
  | cons u uses ih =>
    rw [List.forall_mem_cons] at huses
    obtain ⟨hu, huses⟩ := huses
    obtain ⟨failed, rfl⟩ : ∃ failed, u = .giveBack failed := by
      cases u with
      | keep => exact absurd rfl hu
      | giveBack failed => exact ⟨failed, rfl⟩
    cases hqueue : p.queue with
    | nil =>
      have hlength := p.length_queue
      have hpos := p.size_pos
      rw [hqueue, List.length_nil] at hlength
      omega
    | cons s rest =>
      rw [hqueue, List.forall_mem_cons] at hlevel
      obtain ⟨hs, hrest⟩ := hlevel
      obtain ⟨hnext, hserve⟩ := serve_of_queue hqueue fun t ht => by rw [hs, hrest t ht]
      refine map_snd_leases_cons hnext (ih ?_ huses)
      rw [hserve, List.forall_mem_append, List.forall_mem_singleton, active_used_giveBack]
      exact ⟨hrest, hs⟩

/-- Whether all slots are equally active. -/
def IsLevel (p : Pool α) : Prop := ∀ s ∈ p.slots, ∀ t ∈ p.slots, s.active = t.active

theorem IsLevel.exists_active (h : p.IsLevel) : ∃ a, ∀ s ∈ p.queue, s.active = a := by
  obtain ⟨s, hs, -⟩ := p.exists_busiest
  exact ⟨s.active, fun t ht => h t (mem_queue.mp ht) s hs⟩

/-- Whether all leases are kept or all are given back before the next one is taken. -/
def IsUniform (uses : List Use) : Prop := (∀ u ∈ uses, u = .keep) ∨ ∀ u ∈ uses, u ≠ .keep

theorem places_of_level (h : p.IsLevel) {uses : List Use} (hlength : uses.length ≤ p.slots.length) :
    (p.leases uses).map Prod.snd = p.places uses.length := by
  obtain ⟨a, ha⟩ := h.exists_active
  exact places_of_queue (List.append_nil _).symm ha nofun (by rwa [length_queue])

theorem places_of_uniform (h : p.IsLevel) {uses : List Use} (huses : IsUniform uses) :
    (p.leases uses).map Prod.snd = p.places uses.length := by
  obtain ⟨a, ha⟩ := h.exists_active
  rcases huses with hkeep | hback
  · have hne : p.queue ≠ [] := List.ne_nil_of_length_pos (by rw [length_queue]; exact p.size_pos)
    exact places_of_keep (List.append_nil _).symm hne ha nofun hkeep
  · exact places_of_giveBack ha hback

/-! ## Resources -/

theorem map_resource_serve (p : Pool α) (u : Use) :
    (p.serve u).slots.map Slot.resource = p.slots.map Slot.resource := by
  rw [slots_serve]
  exact Ledger.map_resource_modify _ _ fun s => by cases u <;> rfl

/-- Each lease comes with the resource of its slot. -/
theorem resource_of_mem_leases {uses : List Use} {g : α × Lease} (hg : g ∈ p.leases uses) :
    (p.slots.map Slot.resource)[g.2.index]? = some g.1 := by
  induction uses generalizing p with
  | nil => cases hg
  | cons u uses ih =>
    rw [leases, List.mem_cons] at hg
    rcases hg with rfl | hg
    · rw [List.getElem?_map, acquire, List.getElem?_eq_getElem p.next.isLt]
      rfl
    · rw [← map_resource_serve p u]
      exact ih hg

/-- A pool that has not been used hands out its resources in their order, again and again. -/
theorem leases_of_fresh {resources : List α} (hp : ofList? resources = some p) {uses : List Use}
    (huses : IsUniform uses) {k : Nat} (hk : k < uses.length) :
    ∃ r, resources[k % resources.length]? = some r ∧
      (p.leases uses)[k]? = some (r, ⟨k % resources.length⟩) := by
  have hresources : p.slots.map Slot.resource = resources := (Ledger.balanced_opening hp).slots
  have hlength : p.slots.length = resources.length := by rw [← hresources, List.length_map]
  have hfresh : p.IsLevel ∧ p.cursor = 0 := by
    unfold ofList? at hp
    split at hp
    · cases hp
      refine ⟨fun s hs t ht => ?_, rfl⟩
      obtain ⟨r, -, rfl⟩ := List.mem_map.mp hs
      obtain ⟨r', -, rfl⟩ := List.mem_map.mp ht
      rfl
    · cases hp
  have hplaces : ((p.leases uses)[k]?).map Prod.snd = some ⟨k % resources.length⟩ := by
    rw [← List.getElem?_map, places_of_uniform hfresh.1 huses, places, List.getElem?_map,
      List.getElem?_range hk, hfresh.2, hlength, Option.map_some, Nat.zero_add]
  obtain ⟨⟨r, lease⟩, hg, hlease⟩ := Option.map_eq_some_iff.mp hplaces
  obtain rfl : lease = ⟨k % resources.length⟩ := hlease
  refine ⟨r, ?_, hg⟩
  rw [← hresources]
  exact hresources ▸ resource_of_mem_leases (List.mem_of_getElem? hg)

end Pool

/-- In every state of a pool the next lease is for a slot that is among the least active, and is the first of these
going round from the cursor. It takes the loads no further apart than they were, or than one lease. If all slots are
equally active, the leases of one round are for all the slots in their order from the cursor on, whether each is kept
or given back before the next is taken; and round after round if all are kept or all are given back, which a pool
that has not been used does with its resources from the first. -/
theorem slots_take_turns {α : Type} (p : Pool α) :
    (∃ k i s, k < p.slots.length ∧ i = (p.cursor + k) % p.slots.length ∧ p.slots[i]? = some s ∧
        p.acquire.1 = s.resource ∧ p.acquire.2.1 = ⟨i⟩ ∧ (∀ t ∈ p.slots, s.active ≤ t.active) ∧
        ∀ j < k, ∀ t, p.slots[(p.cursor + j) % p.slots.length]? = some t → s.active < t.active) ∧
      p.acquire.2.2.spread ≤ max p.spread 1 ∧
      (p.IsLevel → ∀ uses,
        (uses.length ≤ p.slots.length ∨ Pool.IsUniform uses →
          (p.leases uses).map Prod.snd =
            (List.range uses.length).map fun k => ⟨(p.cursor + k) % p.slots.length⟩) ∧
        (uses.length ≤ p.slots.length → ((p.leases uses).map Prod.snd).Nodup)) ∧
      ∀ resources, Pool.ofList? resources = some p → ∀ uses, Pool.IsUniform uses → ∀ k < uses.length,
        ∃ r, resources[k % resources.length]? = some r ∧
          (p.leases uses)[k]? = some (r, ⟨k % resources.length⟩) := by
  refine ⟨?_, p.spread_acquire_le, fun hlevel uses => ⟨?_, fun hlength => ?_⟩,
    fun resources hp uses huses k hk => Pool.leases_of_fresh hp huses hk⟩
  · obtain ⟨before, s, behind, hqueue, hbefore, hbehind, hnext, hslot, -⟩ := p.exists_queue_eq
    have hlength := p.length_queue
    rw [hqueue, List.length_append, List.length_cons] at hlength
    refine ⟨before.length, p.next, s, by omega, hnext, ?_, congrArg Slot.resource hslot, rfl, ?_, ?_⟩
    · rw [List.getElem?_eq_getElem p.next.isLt, ← hslot]
      rfl
    · intro t ht
      rw [← Pool.mem_queue, hqueue, List.mem_append, List.mem_cons] at ht
      rcases ht with ht | rfl | ht
      · exact Nat.le_of_lt (hbefore t ht)
      · exact Nat.le_refl _
      · exact hbehind t ht
    · intro j hj t ht
      rw [← Pool.getElem?_queue (by omega), hqueue, List.getElem?_append_left hj] at ht
      exact hbefore t (List.mem_of_getElem? ht)
  · rintro (hlength | huses)
    · exact Pool.places_of_level hlevel hlength
    · exact Pool.places_of_uniform hlevel huses
  · rw [Pool.places_of_level hlevel hlength]
    exact Pool.nodup_places hlength

end PageEdit
