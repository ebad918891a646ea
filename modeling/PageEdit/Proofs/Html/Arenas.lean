import Mathlib.Tactic.ByContra
import PageEdit.Html.Build.Arena

/-!
# Trees under construction stay trees

While a document is read, its nodes are moved about in a table. Whatever is moved, a node that is listed as a
child has the node that lists it as its parent, and a node that gets a place keeps one until it is taken out.

* `Arena.slot_update`: what a change of one node does to the others.
* `Arena.Sound`: what holds of a table, given what may be said of its elements and which nodes may be without
  a place. `sparing` leaves out the one that is being moved.
* `Arena.Sound.append`, `Arena.Sound.put`: a node that is put somewhere has a place.
-/

namespace PageEdit.Html.Build

namespace Arena

/-- What the node with this number is. -/
def kind (arena : Arena) (id : Nat) : Kind := (arena.slot id).kind

variable {arena : Arena} {id j p c : Nat}

/-! ## Changing one node -/

theorem slot_of_size_le (h : arena.size ≤ id) : arena.slot id = ⟨.fragment, none, #[]⟩ := by
  simp [slot, Array.getD_eq_getD_getElem?, Array.getElem?_eq_none h]

theorem slot_update (arena : Arena) (id j : Nat) (f : Slot → Slot) :
    (arena.update id f).slot j = if j = id ∧ j < arena.size then f (arena.slot j) else arena.slot j := by
  simp only [slot, update, Array.getD_eq_getD_getElem?, Array.getElem?_modify]
  by_cases hj : j = id
  · subst hj
    by_cases hs : j < arena.size
    · simp [hs]
    · simp [hs]
  · simp [hj, Ne.symm hj]

theorem slot_make (arena : Arena) (kind : Kind) (j : Nat) :
    (arena.make kind).1.slot j = if j = arena.size then ⟨kind, none, #[]⟩ else arena.slot j := by
  simp only [slot, make, Array.getD_eq_getD_getElem?, Array.getElem?_push]
  split <;> simp

@[simp] theorem size_update (arena : Arena) (id : Nat) (f : Slot → Slot) :
    (arena.update id f).size = arena.size := by simp [update]

@[simp] theorem size_make (arena : Arena) (kind : Kind) : (arena.make kind).1.size = arena.size + 1 := by
  simp [make]

theorem lt_size_of_parent? (h : arena.parent? id = some p) : id < arena.size := by
  by_contra hs
  simp [parent?, slot_of_size_le (Nat.le_of_not_lt hs)] at h

theorem kind_make (arena : Arena) (kind : Kind) (j : Nat) :
    (arena.make kind).1.kind j = if j = arena.size then kind else arena.kind j := by
  rw [Arena.kind, slot_make]
  split <;> rfl

theorem parent?_make (arena : Arena) (kind : Kind) (j : Nat) :
    (arena.make kind).1.parent? j = arena.parent? j := by
  rw [parent?, slot_make]
  split
  · next h => rw [parent?, slot_of_size_le (Nat.le_of_eq h.symm)]
  · rfl

theorem children_make (arena : Arena) (kind : Kind) (j : Nat) :
    (arena.make kind).1.children j = arena.children j := by
  rw [children, slot_make]
  split
  · next h => rw [children, slot_of_size_le (Nat.le_of_eq h.symm)]
  · rfl

/-! ## Giving a node another parent -/

section Move

variable (arena : Arena) (f : Array Nat → Array Nat) (o : Option Nat)

theorem kind_move : ((arena.update p fun s => { s with children := f s.children }).update id
    fun s => { s with parent := o }).kind j = arena.kind j := by
  simp only [kind, slot_update]
  split <;> split <;> rfl

theorem parent?_move (hid : id < arena.size) : ((arena.update p fun s => { s with children := f s.children }).update id
    fun s => { s with parent := o }).parent? j = if j = id then o else arena.parent? j := by
  simp only [parent?, slot_update, size_update]
  by_cases hj : j = id
  · simp [hj, hid]
  · simp only [hj, false_and, if_false]
    split <;> rfl

theorem children_move : ((arena.update p fun s => { s with children := f s.children }).update id
    fun s => { s with parent := o }).children j =
      if j = p ∧ j < arena.size then f (arena.children j) else arena.children j := by
  simp only [children, slot_update]
  split <;> split <;> rfl

end Move

/-! ## Taking a node out -/

theorem kind_detach (arena : Arena) (id j : Nat) : (arena.detach id).kind j = arena.kind j := by
  unfold detach
  split
  · rfl
  · exact kind_move arena (·.filter (· != id)) none

theorem parent?_detach (arena : Arena) (id j : Nat) :
    (arena.detach id).parent? j = if j = id then none else arena.parent? j := by
  unfold detach
  split
  · next h =>
    split
    · next hj => rw [hj, h]
    · rfl
  · next q h => exact parent?_move arena (·.filter (· != id)) none (lt_size_of_parent? h)

theorem mem_children_detach (h : c ∈ (arena.detach id).children j) :
    c ∈ arena.children j ∧ (c = id → arena.parent? id ≠ some j) := by
  unfold detach at h
  split at h
  · next hp => exact ⟨h, fun _ hj => by rw [hp] at hj; cases hj⟩
  · next q hp =>
    rw [children_move arena (·.filter (· != id)) none] at h
    split at h
    · obtain ⟨hc, hne⟩ := Array.mem_filter.mp h
      exact ⟨hc, fun hid => absurd hid (by simpa using hne)⟩
    · next hj =>
      refine ⟨h, fun _ hpj => hj ?_⟩
      obtain rfl : q = j := Option.some.inj (hp.symm.trans hpj)
      refine ⟨rfl, ?_⟩
      by_contra hs
      rw [children, slot_of_size_le (Nat.le_of_not_lt hs)] at h
      exact Array.not_mem_empty c h

/-! ## Putting a node in -/

theorem parent?_append (h : id < arena.size) :
    (arena.append p id).parent? j = if j = id then some p else arena.parent? j := by
  rw [append, parent?_move _ (·.push id) _ (by rwa [size_detach]), parent?_detach]
  split <;> rfl

theorem mem_insertAt {mark : Nat} {ids : Array Nat} (h : c ∈ insertAt mark id ids) : c = id ∨ c ∈ ids := by
  simp only [insertAt, List.mem_toArray, List.mem_flatMap, Array.mem_toList_iff] at h
  obtain ⟨x, hx, hc⟩ := h
  split at hc
  · rcases List.mem_cons.mp hc with rfl | hc
    · exact .inl rfl
    · exact .inr (List.mem_singleton.mp hc ▸ hx)
  · exact .inr (List.mem_singleton.mp hc ▸ hx)

theorem size_insertBefore (arena : Arena) (sibling id : Nat) :
    (arena.insertBefore sibling id).size = arena.size := by
  unfold insertBefore
  dsimp only
  split <;> simp [size_detach]

theorem size_le_put (arena : Arena) (spot : Spot) (content : Content) :
    arena.size ≤ (arena.put spot content).size := by
  have hchar : ∀ p char, arena.size ≤ (arena.appendChar p char).size := fun p char => by
    simp only [appendChar]
    split
    · split
      · simp [addChar]
      · simp [size_append]
    · simp [size_append]
  have hbefore : ∀ sibling char, arena.size ≤ (arena.insertCharBefore sibling char).size :=
    fun sibling char => by
      simp only [insertCharBefore]
      split
      · exact Nat.le_refl _
      · split
        · split
          · simp [addChar]
          · simp [size_insertBefore]
        · simp [size_insertBefore]
  cases spot <;> cases content <;> simp only [put, place]
  · simp [size_append]
  · exact hchar _ _
  · split
    · simp [size_insertBefore]
    · simp [size_append]
  · split
    · exact hbefore _ _
    · exact hchar _ _

theorem size_moveChildren (arena : Arena) (source target : Nat) :
    (arena.moveChildren source target).size = arena.size := by
  have hall : ∀ (ids : List Nat) (arena : Arena),
      (ids.foldl (fun arena id => arena.append target id) arena).size = arena.size := by
    intro ids
    induction ids with
    | nil => exact fun _ => rfl
    | cons id rest ih => exact fun arena => (ih _).trans (size_append _ _ _)
  rw [moveChildren, ← Array.foldl_toList]
  exact hall _ _

/-! ## Sound tables -/

/-- What holds of a table: `element` says what may be said of an element, and `loose` which nodes may be
without a place. -/
structure Sound (element : Nat → Name → List Attr → Prop) (loose : Nat → Prop) (arena : Arena) : Prop where
  consistent : ∀ p, ∀ id ∈ arena.children p, arena.parent? id = some p
  elements : ∀ id name attrs, arena.kind id = .element name attrs → element id name attrs
  placed : ∀ id, id < arena.size → id ≠ documentId → arena.parent? id = none → loose id

/-- The nodes that may be without a place, and one more. -/
def sparing (loose : Nat → Prop) (id : Nat) : Nat → Prop := fun i => loose i ∨ i = id

namespace Sound

variable {element element' : Nat → Name → List Attr → Prop} {loose loose' : Nat → Prop}

theorem mono (h : Sound element loose arena)
    (helement : ∀ id name attrs, element id name attrs → element' id name attrs)
    (hloose : ∀ id, loose id → loose' id) : Sound element' loose' arena :=
  ⟨h.consistent, fun id name attrs hk => helement _ _ _ (h.elements id name attrs hk),
    fun id hid hne hp => hloose _ (h.placed id hid hne hp)⟩

theorem spare (h : Sound element loose arena) (id : Nat) : Sound element (sparing loose id) arena :=
  h.mono (fun _ _ _ he => he) fun _ => .inl

theorem start : Sound element loose Arena.start := by
  have hslot : ∀ id, id ≠ 0 → Arena.start.slot id = ⟨.fragment, none, #[]⟩ := fun id h =>
    slot_of_size_le (Nat.pos_of_ne_zero h)
  refine ⟨fun p id hid => ?_, fun id name attrs hk => ?_, fun id hid hne _ => ?_⟩
  · rw [children] at hid
    by_cases hp : p = 0
    · subst hp
      exact absurd hid (Array.not_mem_empty id)
    · rw [hslot p hp] at hid
      exact absurd hid (Array.not_mem_empty id)
  · rw [kind] at hk
    by_cases hp : id = 0
    · subst hp
      cases hk
    · rw [hslot id hp] at hk
      cases hk
  · exact absurd (Nat.lt_one_iff.mp hid) hne

theorem detach (h : Sound element loose arena) (id : Nat) :
    Sound element (sparing loose id) (arena.detach id) := by
  refine ⟨fun p c hc => ?_, fun j name attrs hk => ?_, fun j hj hne hp => ?_⟩
  · obtain ⟨hmem, hid⟩ := mem_children_detach hc
    have hparent := h.consistent p c hmem
    rw [parent?_detach, if_neg, hparent]
    rintro rfl
    exact hid rfl hparent
  · exact h.elements j name attrs (kind_detach arena id j ▸ hk)
  · rw [size_detach] at hj
    rw [parent?_detach] at hp
    split at hp
    · next hid => exact .inr hid
    · exact .inl (h.placed j hj hne hp)

theorem detachSpared (h : Sound element (sparing loose id) arena) :
    Sound element (sparing loose id) (arena.detach id) :=
  (h.detach id).mono (fun _ _ _ he => he) fun _ hj => hj.elim (fun hloose => hloose) .inr

/-- A node that has just been taken out gets a place among changed children. -/
theorem adopt (h : Sound element (sparing loose id) (arena.detach id)) (hid : id < arena.size)
    {f : Array Nat → Array Nat} (hf : ∀ c ids, c ∈ f ids → c = id ∨ c ∈ ids) :
    Sound element loose (((arena.detach id).update p fun s => { s with children := f s.children }).update id
      fun s => { s with parent := some p }) := by
  have hid' : id < (arena.detach id).size := by rwa [size_detach]
  refine ⟨fun q c hc => ?_, fun j name attrs hk => ?_, fun j hj hne hp => ?_⟩
  · rw [parent?_move _ f _ hid']
    have hmem : c = id ∧ q = p ∨ c ∈ (arena.detach id).children q := by
      rw [children_move _ f] at hc
      split at hc
      · next hq => exact (hf c _ hc).imp_left (⟨·, hq.1⟩)
      · exact .inr hc
    rcases hmem with ⟨rfl, rfl⟩ | hmem
    · rw [if_pos rfl]
    · -- any other child is not the node itself, which has no parent yet
      have hparent := h.consistent q c hmem
      rw [if_neg, hparent]
      rintro rfl
      rw [parent?_detach, if_pos rfl] at hparent
      cases hparent
  · exact h.elements j name attrs (kind_move (arena.detach id) f _ ▸ hk)
  · rw [size_update, size_update] at hj
    rw [parent?_move _ f _ hid'] at hp
    split at hp
    · cases hp
    · next hne' => exact (h.placed j hj hne hp).resolve_right hne'

theorem append (h : Sound element (sparing loose id) arena) (hid : id < arena.size) (p : Nat) :
    Sound element loose (arena.append p id) :=
  adopt h.detachSpared hid fun _ _ hc => (Array.mem_push.mp hc).symm

theorem insertBefore (h : Sound element (sparing loose id) arena) (hid : id < arena.size) {sibling : Nat}
    (hne : sibling ≠ id) (hp : (arena.parent? sibling).isSome) :
    Sound element loose (arena.insertBefore sibling id) := by
  obtain ⟨p, hp⟩ := Option.isSome_iff_exists.mp hp
  have hp' : (arena.detach id).parent? sibling = some p := by rw [parent?_detach, if_neg hne, hp]
  simp only [Arena.insertBefore, hp']
  exact adopt h.detachSpared hid fun _ _ hc => mem_insertAt hc

theorem make (h : Sound element loose arena) (kind : Kind)
    (hkind : ∀ name attrs, kind = .element name attrs → element arena.size name attrs) :
    Sound element (sparing loose arena.size) (arena.make kind).1 := by
  refine ⟨fun p c hc => ?_, fun j name attrs hk => ?_, fun j hj hne hp => ?_⟩
  · rw [children_make] at hc
    rw [parent?_make]
    exact h.consistent p c hc
  · rw [kind_make] at hk
    split at hk
    · next hj => exact hj ▸ hkind name attrs hk
    · exact h.elements j name attrs hk
  · rw [size_make] at hj
    rw [parent?_make] at hp
    rcases Nat.lt_succ_iff_lt_or_eq.mp hj with hj | hj
    · exact .inl (h.placed j hj hne hp)
    · exact .inr hj

/-- Changing only what a node is. -/
theorem updateKind (h : Sound element loose arena) {f : Slot → Slot} (hparent : ∀ s, (f s).parent = s.parent)
    (hchildren : ∀ s, (f s).children = s.children)
    (hkind : ∀ name attrs, (f (arena.slot id)).kind = .element name attrs → element id name attrs) :
    Sound element loose (arena.update id f) := by
  have hp : ∀ j, (arena.update id f).parent? j = arena.parent? j := fun j => by
    rw [parent?, slot_update]
    split
    · exact hparent _
    · rfl
  have hc : ∀ j, (arena.update id f).children j = arena.children j := fun j => by
    rw [children, slot_update]
    split
    · exact hchildren _
    · rfl
  refine ⟨fun p c hmem => ?_, fun j name attrs hk => ?_, fun j hj hne hnone => ?_⟩
  · rw [hc] at hmem
    rw [hp]
    exact h.consistent p c hmem
  · rw [kind, slot_update] at hk
    split at hk
    · next hj =>
      rw [hj.1] at hk ⊢
      exact hkind name attrs hk
    · exact h.elements j name attrs hk
  · rw [size_update] at hj
    rw [hp] at hnone
    exact h.placed j hj hne hnone

theorem addChar (h : Sound element loose arena) (id : Nat) (char : Char) :
    Sound element loose (arena.addChar id char) := by
  refine h.updateKind (fun s => ?_) (fun s => ?_) fun name attrs hk => ?_
  · split <;> rfl
  · split <;> rfl
  · split at hk
    · cases hk
    · exact h.elements id name attrs hk

theorem addAttrs (h : Sound element loose arena) {more : List Attr}
    (hmore : ∀ name attrs, element id name attrs → element id name (mergeAttrs attrs more)) :
    Sound element loose (arena.addAttrs id more) := by
  refine h.updateKind (fun s => ?_) (fun s => ?_) fun name attrs hk => ?_
  · split <;> rfl
  · split <;> rfl
  · split at hk
    · next n as hkind =>
      obtain ⟨rfl, rfl⟩ := Kind.element.inj hk
      exact hmore _ _ (h.elements id _ _ hkind)
    · exact h.elements id name attrs hk

theorem appendNew (h : Sound element loose arena) (kind : Kind)
    (hkind : ∀ name attrs, kind = .element name attrs → element arena.size name attrs) (p : Nat) :
    Sound element loose ((arena.make kind).1.append p arena.size) :=
  (h.make kind hkind).append (by simp) p

theorem appendChar (h : Sound element loose arena) (p : Nat) (char : Char) :
    Sound element loose (arena.appendChar p char) := by
  have hnew := h.appendNew (.text char.toString) (fun _ _ hk => by cases hk) p
  unfold Arena.appendChar
  split
  · split
    · exact h.addChar _ char
    · exact hnew
  · exact hnew

theorem insertCharBefore (h : Sound element loose arena) (sibling : Nat) (char : Char) :
    Sound element loose (arena.insertCharBefore sibling char) := by
  unfold Arena.insertCharBefore
  split
  · exact h
  · next q hq =>
    have hnew : Sound element loose
        ((arena.make (.text char.toString)).1.insertBefore sibling arena.size) := by
      refine (h.make _ fun _ _ hk => by cases hk).insertBefore (by simp) ?_ (by rw [parent?_make, hq]; rfl)
      exact Nat.ne_of_lt (lt_size_of_parent? hq)
    split
    · split
      · exact h.addChar _ char
      · exact hnew
    · exact hnew

/-- A node without a place gets one, wherever it is put. -/
theorem putNode (h : Sound element (sparing loose id) arena) (hid : id < arena.size)
    (hp : arena.parent? id = none) (spot : Spot) : Sound element loose (arena.put spot (.node id)) := by
  cases spot with
  | lastIn p => exact h.append hid p
  | beside table otherwise =>
    simp only [Arena.put]
    split
    · next htable =>
      refine h.insertBefore hid ?_ htable
      rintro rfl
      rw [hp] at htable
      cases htable
    · exact h.append hid otherwise

theorem putChar (h : Sound element loose arena) (spot : Spot) (char : Char) :
    Sound element loose (arena.put spot (.char char)) := by
  cases spot with
  | lastIn p => exact h.appendChar p char
  | beside table otherwise =>
    simp only [Arena.put]
    split
    · exact h.insertCharBefore table char
    · exact h.appendChar otherwise char

theorem moveChildren (h : Sound element loose arena) (source target : Nat) :
    Sound element loose (arena.moveChildren source target) := by
  have hall : ∀ ids : List Nat, ∀ arena : Arena, Sound element loose arena →
      (∀ id ∈ ids, id < arena.size) →
      Sound element loose (ids.foldl (fun arena id => arena.append target id) arena) := by
    intro ids
    induction ids with
    | nil => exact fun _ h _ => h
    | cons id rest ih =>
      intro arena h hids
      refine ih _ ((h.spare id).append (hids id (.head _)) target) fun j hj => ?_
      rw [size_append]
      exact hids j (.tail _ hj)
  rw [Arena.moveChildren, ← Array.foldl_toList]
  refine hall _ _ h fun id hid => ?_
  exact lt_size_of_parent? (h.consistent source id (Array.mem_toList_iff.mp hid))

end Sound

/-! ## Elements -/

theorem makeElement_snd (arena : Arena) (name : Name) (attrs : List Attr) :
    (arena.makeElement name attrs).2 = arena.size := by
  simp only [makeElement]
  split <;> rfl

theorem size_lt_makeElement (arena : Arena) (name : Name) (attrs : List Attr) :
    arena.size < (arena.makeElement name attrs).1.size := by
  simp only [makeElement]
  split
  · rw [size_append, size_make, size_make]
    omega
  · rw [size_make]
    omega

theorem parent?_makeElement (arena : Arena) (name : Name) (attrs : List Attr) :
    (arena.makeElement name attrs).1.parent? arena.size = none := by
  have hnone : (arena.make (.element name attrs)).1.parent? arena.size = none := by
    rw [parent?_make, parent?, slot_of_size_le (Nat.le_refl _)]
  simp only [makeElement]
  split
  · have hne : arena.size ≠ ((arena.make (.element name attrs)).1.make .fragment).2 := by simp [make]
    rw [parent?_append (by simp [make]), if_neg hne, parent?_make, hnone]
  · exact hnone

theorem Sound.makeElement {element : Nat → Name → List Attr → Prop} {loose : Nat → Prop}
    (h : Sound element loose arena) {name : Name} {attrs : List Attr}
    (hnew : element arena.size name attrs) :
    Sound element (sparing loose arena.size) (arena.makeElement name attrs).1 := by
  have hmake := h.make (.element name attrs) fun n as hk => by
    obtain ⟨rfl, rfl⟩ := Kind.element.inj hk
    exact hnew
  simp only [Arena.makeElement]
  split
  · exact hmake.appendNew .fragment (fun _ _ hk => by cases hk) _
  · exact hmake

end Arena

end PageEdit.Html.Build
