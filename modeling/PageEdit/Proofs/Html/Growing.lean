import PageEdit.Proofs.Html.Clearing
import PageEdit.Proofs.Html.Pages

/-!
# Tables that only grow

Where reading moves nothing about, it puts each node last in an open one, and what stands in the table before stays
as it is. The nodes of a tree then have the numbers that follow each other in document order, so the tree that comes
out is the one that went in.

* `Arena.lay`: a table with a tree put in it, as reading does it.
* `Arena.Grown`: what putting trees in leads to. `Arena.grown_layAll` is the induction on the trees.
* `Arena.toDocument_layAll`: the document of a table that has only grown.
-/

namespace PageEdit.Html

namespace Node

def isText : Node → Bool
  | .text _ => true
  | _ => false

mutual

/-- How many nodes a tree has. -/
def count : Node → Nat
  | .element _ children => countAll children + 1
  | .fragment children => countAll children + 1
  | _ => 1

def countAll : List Node → Nat
  | [] => 0
  | n :: rest => count n + countAll rest

end

mutual

/-- Whether a tree can be put together of its nodes one by one: its texts are not empty and do not touch, and there
is nothing of templates in it. -/
def isWhole : Node → Bool
  | .text s => s != ""
  | .fragment _ => false
  | .element e children => e.name != .html "template" && isWholeAll children
  | _ => true

def isWholeAll : List Node → Bool
  | [] => true
  | n :: rest => isWhole n && isWholeAll rest && !(n.isText && rest.head?.any isText)

end

theorem count_pos (n : Node) : 0 < n.count := by
  cases n <;> simp [count]

end Node

namespace Build.Arena

open Node (countAll isWholeAll)

mutual

/-- A table with a tree put last in a node. -/
def lay (arena : Arena) (parent : Nat) : Node → Arena
  | .text s => s.toList.foldl (fun arena c => arena.appendChar parent c) arena
  | .comment s => (arena.make (.comment s)).1.append parent arena.size
  | .doctype name => (arena.make (.doctype name)).1.append parent arena.size
  | .fragment _ => arena
  | .element e children =>
    layAll ((arena.makeElement e.name e.attrs).1.append parent arena.size) arena.size children

def layAll (arena : Arena) (parent : Nat) : List Node → Arena
  | [] => arena
  | n :: rest => layAll (lay arena parent n) parent rest

end

theorem layAll_append (arena : Arena) (parent : Nat) (a b : List Node) :
    arena.layAll parent (a ++ b) = (arena.layAll parent a).layAll parent b := by
  induction a generalizing arena with
  | nil => rfl
  | cons n rest ih => exact ih (arena.lay parent n)

/-- The numbers of some trees of which the first has the number `id`. -/
def numbers (id : Nat) : List Node → List Nat
  | [] => []
  | n :: rest => id :: numbers (id + n.count) rest

mutual

/-- Whether a tree stands in a table from a number on, its nodes in document order. -/
def Laid (arena : Arena) (id : Nat) : Node → Prop
  | .text s => arena.kind id = .text s
  | .comment s => arena.kind id = .comment s
  | .doctype name => arena.kind id = .doctype name
  | .fragment _ => False
  | .element e children =>
    arena.kind id = .element e.name e.attrs ∧ (arena.children id).toList = numbers (id + 1) children ∧
      LaidAll arena (id + 1) children

def LaidAll (arena : Arena) (id : Nat) : List Node → Prop
  | [] => True
  | n :: rest => Laid arena id n ∧ LaidAll arena (id + n.count) rest

end

/-- What putting trees last in a node leads to: the node has more children, all else is new. -/
structure Grown (arena : Arena) (parent : Nat) (nodes : List Node) (grown : Arena) : Prop where
  size : grown.size = arena.size + countAll nodes
  others : ∀ j < arena.size, j ≠ parent → grown.slot j = arena.slot j
  kind : grown.kind parent = arena.kind parent
  parent? : grown.parent? parent = arena.parent? parent
  children : (grown.children parent).toList = (arena.children parent).toList ++ numbers arena.size nodes
  laid : LaidAll grown arena.size nodes
  placed : ∀ j, arena.size ≤ j → j < grown.size → (grown.parent? j).isSome

variable {arena grown : Arena} {p : Nat}

/-! ## Leaves -/

/-- A table with one more node, last in another. -/
def appendNew (arena : Arena) (parent : Nat) (kind : Kind) : Arena :=
  (arena.make kind).1.append parent arena.size

theorem size_appendNew (arena : Arena) (p : Nat) (kind : Kind) : (arena.appendNew p kind).size = arena.size + 1 := by
  rw [appendNew, size_append, size_make]

theorem slot_appendNew (hp : p < arena.size) (kind : Kind) (j : Nat) :
    (arena.appendNew p kind).slot j =
      if j = arena.size then ⟨kind, some p, #[]⟩
      else if j = p then { arena.slot p with children := (arena.slot p).children.push arena.size }
      else arena.slot j := by
  have hnone : (arena.make kind).1.parent? arena.size = none := by
    rw [parent?_make, parent?, slot_of_size_le (Nat.le_refl _)]
  have hdetach : (arena.make kind).1.detach arena.size = (arena.make kind).1 := by
    rw [detach, hnone]
  have hne : p ≠ arena.size := Nat.ne_of_lt hp
  rw [appendNew, append, hdetach, slot_update, slot_update, slot_make, size_update, size_make]
  by_cases hj : j = arena.size
  · subst hj
    simp [hne.symm]
  · by_cases hjp : j = p
    · subst hjp
      simp [hj, Nat.lt_succ_of_lt hp]
    · simp [hj, hjp]

theorem ext_slot {a b : Arena} (hsize : a.size = b.size) (hslot : ∀ j, a.slot j = b.slot j) : a = b := by
  refine Array.ext hsize fun j ha hb => ?_
  have h := hslot j
  simpa [slot, Array.getD_eq_getD_getElem?, ha, hb] using h

theorem kind_appendNew (hp : p < arena.size) (k : Kind) (j : Nat) :
    (arena.appendNew p k).kind j = if j = arena.size then k else arena.kind j := by
  rw [kind, slot_appendNew hp]
  split
  · rfl
  · split
    · next hj => rw [hj]; rfl
    · rfl

theorem children_appendNew (hp : p < arena.size) (k : Kind) :
    (arena.appendNew p k).children p = (arena.children p).push arena.size := by
  rw [children, slot_appendNew hp, if_neg (Nat.ne_of_lt hp), if_pos rfl]
  rfl

theorem grown_appendNew (hp : p < arena.size) {k : Kind} {n : Node} (hcount : n.count = 1)
    (hlaid : ∀ grown : Arena, grown.kind arena.size = k → grown.Laid arena.size n) :
    Grown arena p [n] (arena.appendNew p k) where
  size := by rw [size_appendNew]; simp [countAll, hcount]
  others j hj hne := by rw [slot_appendNew hp, if_neg (Nat.ne_of_lt hj), if_neg hne]
  kind := by rw [kind_appendNew hp, if_neg (Nat.ne_of_lt hp)]
  parent? := by
    rw [Arena.parent?, slot_appendNew hp, if_neg (Nat.ne_of_lt hp), if_pos rfl]
    rfl
  children := by simp [children_appendNew hp, numbers]
  laid := ⟨hlaid _ (by rw [kind_appendNew hp, if_pos rfl]), trivial⟩
  placed j hle hlt := by
    rw [size_appendNew] at hlt
    obtain rfl : j = arena.size := by omega
    rw [Arena.parent?, slot_appendNew hp, if_pos rfl]
    rfl

/-! ## Texts -/

/-- Whether the last child of a node is a text. -/
def endsInText (arena : Arena) (id : Nat) : Bool := (arena.children id).back?.any arena.isText

theorem appendChar_of_not_endsInText (h : arena.endsInText p = false) (c : Char) :
    arena.appendChar p c = arena.appendNew p (.text c.toString) := by
  rw [endsInText] at h
  rw [appendChar]
  split
  · next last hlast =>
    rw [hlast] at h
    rw [if_neg (by simpa using h)]
    rfl
  · rfl

/-- A character that follows a new text makes it longer. -/
theorem appendChar_appendNew (hp : p < arena.size) (text : String) (c : Char) :
    (arena.appendNew p (.text text)).appendChar p c = arena.appendNew p (.text (text.push c)) := by
  have hkind : (arena.appendNew p (.text text)).kind arena.size = .text text := by
    rw [kind_appendNew hp, if_pos rfl]
  have htext : (arena.appendNew p (.text text)).isText arena.size = true := by
    rw [isText, show ((arena.appendNew p (.text text)).slot arena.size).kind = .text text from hkind]
  rw [appendChar, children_appendNew hp, Array.back?_push]
  simp only [htext, if_true]
  refine ext_slot (by rw [addChar, size_update, size_appendNew, size_appendNew]) fun j => ?_
  rw [addChar, slot_update, size_appendNew, slot_appendNew hp, slot_appendNew hp]
  by_cases hj : j = arena.size
  · simp [hj]
  · simp [hj]

theorem lay_text (hp : p < arena.size) {text : String} (hne : text ≠ "") (h : arena.endsInText p = false) :
    arena.lay p (.text text) = arena.appendNew p (.text text) := by
  have hmore : ∀ (cs : List Char) (front : String),
      cs.foldl (fun arena c => arena.appendChar p c) (arena.appendNew p (.text front)) =
        arena.appendNew p (.text (front ++ String.ofList cs)) := by
    intro cs
    induction cs with
    | nil => intro front; simp
    | cons c cs ih =>
      intro front
      rw [List.foldl_cons, appendChar_appendNew hp, ih]
      congr 2
      simp [← String.toList_inj]
  cases hchars : text.toList with
  | nil => exact absurd (String.toList_eq_nil_iff.mp hchars) hne
  | cons c cs =>
    rw [lay, hchars, List.foldl_cons, appendChar_of_not_endsInText h, hmore]
    congr 2
    simp [← String.toList_inj, hchars]

/-! ## Trees -/

mutual

/-- A tree depends only on the nodes that have its numbers. -/
theorem Laid.congr {id : Nat} : ∀ {n : Node}, Laid arena id n →
    (∀ j, id ≤ j → j < id + n.count → grown.slot j = arena.slot j) → Laid grown id n
  | .element e children, h, hslot => by
    obtain ⟨hkind, hchildren, hlaid⟩ := h
    have hself : grown.slot id = arena.slot id := hslot id (Nat.le_refl _) (by simp [Node.count])
    refine ⟨?_, ?_, LaidAll.congr hlaid fun j hle hlt => hslot j (by omega) (by simp only [Node.count]; omega)⟩
    · rw [kind, hself]
      exact hkind
    · rw [Arena.children, hself]
      exact hchildren
  | .text _, h, hslot | .comment _, h, hslot | .doctype _, h, hslot => by
    rw [Laid, kind, hslot id (Nat.le_refl _) (by simp [Node.count])]
    exact h

theorem LaidAll.congr {id : Nat} : ∀ {nodes : List Node}, LaidAll arena id nodes →
    (∀ j, id ≤ j → j < id + countAll nodes → grown.slot j = arena.slot j) → LaidAll grown id nodes
  | [], _, _ => trivial
  | n :: rest, h, hslot => by
    obtain ⟨hn, hrest⟩ := h
    have hpos := n.count_pos
    refine ⟨hn.congr fun j hle hlt => hslot j hle ?_, hrest.congr fun j hle hlt => hslot j (by omega) ?_⟩
    all_goals simp only [countAll]; omega

end

namespace Grown

theorem nil : Grown arena p [] arena :=
  ⟨rfl, fun _ _ _ => rfl, rfl, rfl, by simp [numbers], trivial, fun _ _ _ => by omega⟩

theorem cons {n : Node} {rest : List Node} {middle : Arena} (hp : p < arena.size) (h : Grown arena p [n] middle)
    (h' : Grown middle p rest grown) : Grown arena p (n :: rest) grown where
  size := by rw [h'.size, h.size]; simp only [countAll]; omega
  others j hj hne := by
    have hlt : j < middle.size := by rw [h.size]; omega
    rw [h'.others j hlt hne, h.others j hj hne]
  kind := h'.kind.trans h.kind
  parent? := h'.parent?.trans h.parent?
  children := by
    rw [h'.children, h.children, h.size]
    simp [numbers, countAll]
  laid := by
    have hsize : middle.size = arena.size + n.count := by rw [h.size]; simp [countAll]
    refine ⟨h.laid.1.congr fun j hle hlt => h'.others j (by omega) (by omega), ?_⟩
    rw [← hsize]
    exact h'.laid
  placed j hle hlt := by
    have hsize : middle.size = arena.size + n.count := by rw [h.size]; simp [countAll]
    by_cases hj : j < middle.size
    · rw [Arena.parent?, h'.others j hj (by omega)]
      exact h.placed j hle hj
    · exact h'.placed j (Nat.le_of_not_lt hj) hlt

theorem element {e : Element} {children : List Node} (hp : p < arena.size)
    (h : Grown (arena.appendNew p (.element e.name e.attrs)) arena.size children grown) :
    Grown arena p [.element e children] grown where
  size := by rw [h.size, size_appendNew]; simp only [countAll, Node.count]; omega
  others j hj hne := by
    rw [h.others j (by rw [size_appendNew]; omega) (Nat.ne_of_lt hj), slot_appendNew hp,
      if_neg (Nat.ne_of_lt hj), if_neg hne]
  kind := by
    rw [Arena.kind, h.others p (by rw [size_appendNew]; omega) (Nat.ne_of_lt hp)]
    exact (kind_appendNew hp _ p).trans (if_neg (Nat.ne_of_lt hp))
  parent? := by
    rw [Arena.parent?, h.others p (by rw [size_appendNew]; omega) (Nat.ne_of_lt hp), slot_appendNew hp,
      if_neg (Nat.ne_of_lt hp), if_pos rfl]
    rfl
  children := by
    rw [Arena.children, h.others p (by rw [size_appendNew]; omega) (Nat.ne_of_lt hp)]
    have hnew := children_appendNew hp (.element e.name e.attrs)
    rw [Arena.children] at hnew
    simp [hnew, numbers]
  laid := by
    refine ⟨⟨?_, ?_, ?_⟩, trivial⟩
    · rw [h.kind, kind_appendNew hp, if_pos rfl]
    · rw [h.children, size_appendNew, Arena.children, slot_appendNew hp, if_pos rfl]
      rfl
    · rw [← size_appendNew arena p (.element e.name e.attrs)]
      exact h.laid
  placed j hle hlt := by
    by_cases hj : j = arena.size
    · subst hj
      rw [h.parent?, Arena.parent?, slot_appendNew hp, if_pos rfl]
      rfl
    · exact h.placed j (by rw [size_appendNew]; omega) hlt

end Grown

mutual

theorem grown_lay : ∀ (n : Node) {arena : Arena} {p : Nat}, n.isWhole = true → p < arena.size →
    (n.isText = true → arena.endsInText p = false) → Grown arena p [n] (arena.lay p n)
  | .text s, arena, p, hwhole, hp, hends => by
    rw [lay_text hp (by simpa [Node.isWhole] using hwhole) (hends rfl)]
    exact grown_appendNew hp rfl fun _ h => h
  | .comment _, _, _, _, hp, _ => grown_appendNew hp rfl fun _ h => h
  | .doctype _, _, _, _, hp, _ => grown_appendNew hp rfl fun _ h => h
  | .fragment _, _, _, hwhole, _, _ => by simp [Node.isWhole] at hwhole
  | .element e children, arena, p, hwhole, hp, _ => by
    simp only [Node.isWhole, Bool.and_eq_true, bne_iff_ne] at hwhole
    have hmake : (arena.makeElement e.name e.attrs).1 = (arena.make (.element e.name e.attrs)).1 := by
      simp [makeElement, hwhole.1]
    have hfresh : (arena.appendNew p (.element e.name e.attrs)).endsInText arena.size = false := by
      rw [endsInText, Arena.children, slot_appendNew hp, if_pos rfl]
      rfl
    rw [lay, hmake]
    exact .element hp (grown_layAll children hwhole.2 (by rw [size_appendNew]; omega) fun _ => hfresh)

/-- Trees without anything between their texts are put in as they are. -/
theorem grown_layAll : ∀ (nodes : List Node) {arena : Arena} {p : Nat}, isWholeAll nodes = true → p < arena.size →
    (nodes.head?.any Node.isText = true → arena.endsInText p = false) →
      Grown arena p nodes (arena.layAll p nodes)
  | [], _, _, _, _, _ => .nil
  | n :: rest, arena, p, hwhole, hp, hends => by
    simp only [isWholeAll, Bool.and_eq_true] at hwhole
    have hn := grown_lay n hwhole.1.1 hp hends
    refine .cons hp hn (grown_layAll rest hwhole.1.2 (by rw [hn.size]; omega) fun htext => ?_)
    have hnot : n.isText = false := by simpa [htext] using hwhole.2
    have hlast : ((arena.lay p n).children p).back? = some arena.size := by
      rw [← Array.getLast?_toList, hn.children]
      simp [numbers]
    rw [endsInText, hlast]
    have hkind := hn.laid.1
    cases n with
    | text => simp [Node.isText] at hnot
    | fragment => exact hkind.elim
    | element e children => simp [isText, show ((arena.lay p _).slot arena.size).kind = _ from hkind.1]
    | comment s => simp [isText, show ((arena.lay p _).slot arena.size).kind = _ from hkind]
    | doctype s => simp [isText, show ((arena.lay p _).slot arena.size).kind = _ from hkind]

end

/-! ## The finished tree -/

mutual

theorem unnumbered_tree {id depth : Nat} : ∀ {n : Node}, Laid arena id n → n.count ≤ depth →
    (arena.tree depth id).unnumbered = n.unnumbered
  | .element e children, h, hdepth => by
    obtain ⟨hkind, hchildren, hlaid⟩ := h
    obtain ⟨depth, rfl⟩ : ∃ d, depth = d + 1 := ⟨depth - 1, by simp only [Node.count] at hdepth; omega⟩
    have hall : Node.unnumberedAll ((numbers (id + 1) children).map (arena.tree depth)) =
        Node.unnumberedAll children := unnumberedAll_tree hlaid (by simp only [Node.count] at hdepth; omega)
    rw [tree]
    simp only [show (arena.slot id).kind = _ from hkind, show (arena.slot id).children.toList = _ from hchildren]
    rw [Node.unnumbered, Node.unnumbered, hall]
    rfl
  | .text _, h, hdepth | .comment _, h, hdepth | .doctype _, h, hdepth => by
    obtain ⟨depth, rfl⟩ : ∃ d, depth = d + 1 := ⟨depth - 1, by simp only [Node.count] at hdepth; omega⟩
    rw [tree]
    simp only [show (arena.slot id).kind = _ from h]

theorem unnumberedAll_tree {id depth : Nat} : ∀ {nodes : List Node}, LaidAll arena id nodes →
    countAll nodes ≤ depth →
    Node.unnumberedAll ((numbers id nodes).map (arena.tree depth)) = Node.unnumberedAll nodes
  | [], _, _ => rfl
  | n :: rest, h, hdepth => by
    obtain ⟨hn, hrest⟩ := h
    simp only [countAll] at hdepth
    rw [numbers, List.map_cons, Node.unnumberedAll, Node.unnumberedAll, unnumbered_tree hn (by omega),
      unnumberedAll_tree hrest (by omega)]

end

/-! ## The document -/

theorem countAll_append (a b : List Node) : countAll (a ++ b) = countAll a + countAll b := by
  induction a with
  | nil => simp [countAll]
  | cons n rest ih => simp [countAll, ih, Nat.add_assoc]

theorem numbers_append (id : Nat) (a b : List Node) :
    numbers id (a ++ b) = numbers id a ++ numbers (id + countAll a) b := by
  induction a generalizing id with
  | nil => rfl
  | cons n rest ih => simp [numbers, countAll, ih, Nat.add_assoc]

theorem laidAll_append {id : Nat} {a b : List Node} :
    LaidAll arena id (a ++ b) ↔ LaidAll arena id a ∧ LaidAll arena (id + countAll a) b := by
  induction a generalizing id with
  | nil => simp [LaidAll, countAll]
  | cons n rest ih => simp [LaidAll, countAll, ih, Nat.add_assoc, and_assoc]

theorem isElement_of_laid {id : Nat} {n : Node} (h : Laid arena id n) : arena.isElement id = n.isElement := by
  cases n with
  | fragment => exact h.elim
  | element e children => simp [isElement, Node.isElement, Node.element?, show (arena.slot id).kind = _ from h.1]
  | _ => simp [isElement, Node.isElement, Node.element?, show (arena.slot id).kind = _ from h]

theorem isElement_of_laidAll {id : Nat} {nodes : List Node} (h : LaidAll arena id nodes)
    (hnone : ∀ n ∈ nodes, n.isElement = false) : ∀ j ∈ numbers id nodes, arena.isElement j = false := by
  induction nodes generalizing id with
  | nil => exact fun j hj => absurd hj List.not_mem_nil
  | cons n rest ih =>
    obtain ⟨hn, hrest⟩ := h
    intro j hj
    rcases List.mem_cons.mp hj with rfl | hj
    · exact (isElement_of_laid hn).trans (hnone n (.head _))
    · exact ih hrest (fun m hm => hnone m (.tail _ hm)) j hj

/-- The first element at the top is the root of the document. -/
theorem toDocument_of_top {before after : List Nat} {root : Nat} {name : Name} {attrs : List Attr}
    (htop : (arena.children documentId).toList = before ++ root :: after)
    (hbefore : ∀ id ∈ before, arena.isElement id = false) (hkind : arena.kind root = .element name attrs) :
    arena.toDocument = ⟨before.map (arena.tree arena.size), root, attrs,
      (arena.children root).toList.map (arena.tree arena.size), after.map (arena.tree arena.size),
      arena.looseIds.map (arena.tree arena.size)⟩ := by
  have hnot : ∀ id ∈ before, (!arena.isElement id) = true := fun id hid => by rw [hbefore id hid]; rfl
  have hroot : arena.isElement root = true := by simp [isElement, show (arena.slot root).kind = _ from hkind]
  have htake : (arena.children documentId).toList.takeWhile (!arena.isElement ·) = before := by
    rw [htop, List.takeWhile_append_of_pos hnot, List.takeWhile_cons]
    simp [hroot]
  have hdrop : (arena.children documentId).toList.dropWhile (!arena.isElement ·) = root :: after := by
    rw [htop, List.dropWhile_append_of_pos hnot, List.dropWhile_cons]
    simp [hroot]
  have hslot : (arena.slot root).kind = .element name attrs := hkind
  generalize hdoc : arena.toDocument = doc
  unfold toDocument at hdoc
  dsimp only at hdoc
  split at hdoc
  · next hnone =>
    have hnone : (arena.children documentId).toList.dropWhile (!arena.isElement ·) = [] := hnone
    rw [hdrop] at hnone
    cases hnone
  · next first rest hfirst =>
    have hfirst : (arena.children documentId).toList.dropWhile (!arena.isElement ·) = first :: rest := hfirst
    rw [hdrop] at hfirst
    obtain ⟨rfl, rfl⟩ := List.cons.inj hfirst
    rw [hslot] at hdoc
    rw [← hdoc, ← htake]
    rfl

/-- What comes out of a document that has been put in at the start: its parts, each where it stands in the table. -/
theorem toDocument_of_grown {doc : Document} (h : Grown start documentId doc.nodes grown)
    (hbefore : ∀ n ∈ doc.before, n.isElement = false) :
    grown.toDocument = ⟨(numbers 1 doc.before).map (grown.tree grown.size), 1 + countAll doc.before, doc.rootAttrs,
      (numbers (1 + countAll doc.before + 1) doc.children).map (grown.tree grown.size),
      (numbers (1 + countAll doc.before + doc.root.count) doc.after).map (grown.tree grown.size),
      grown.looseIds.map (grown.tree grown.size)⟩ := by
  have hparts : numbers 1 doc.nodes = numbers 1 doc.before ++
      (1 + countAll doc.before) :: numbers (1 + countAll doc.before + doc.root.count) doc.after := by
    rw [Document.nodes, numbers_append]
    rfl
  have hlaid : LaidAll grown 1 (doc.before ++ doc.root :: doc.after) := h.laid
  obtain ⟨hlaidBefore, ⟨hkind, hchildren, -⟩, -⟩ := laidAll_append.mp hlaid
  have htop : (grown.children documentId).toList = numbers 1 doc.nodes := h.children
  rw [toDocument_of_top (htop.trans hparts) (isElement_of_laidAll hlaidBefore hbefore) hkind, hchildren]
  rfl

/-- The parts of a document that has been put in stand in the table, which is large enough for them. -/
theorem laid_of_grown {doc : Document} (h : Grown start documentId doc.nodes grown) :
    LaidAll grown 1 doc.before ∧ LaidAll grown (1 + countAll doc.before + 1) doc.children ∧
      LaidAll grown (1 + countAll doc.before + doc.root.count) doc.after ∧
      countAll doc.before + (countAll doc.children + 1 + countAll doc.after) < grown.size := by
  have hsize : grown.size = 1 + countAll doc.nodes := h.size
  have hlaid : LaidAll grown 1 (doc.before ++ doc.root :: doc.after) := h.laid
  obtain ⟨hbefore, ⟨-, -, hinside⟩, hafter⟩ := laidAll_append.mp hlaid
  have hcount : countAll doc.nodes = countAll doc.before + (countAll doc.children + 1 + countAll doc.after) := by
    rw [Document.nodes, countAll_append]
    rfl
  exact ⟨hbefore, hinside, hafter, by omega⟩

/-- A document that has been put in at the start comes out but for its numbers, and nothing is cut off. -/
theorem unnumberedAll_toDocument_of_grown {doc : Document} (h : Grown start documentId doc.nodes grown)
    (hbefore : ∀ n ∈ doc.before, n.isElement = false) :
    Node.unnumberedAll grown.toDocument.nodes = Node.unnumberedAll doc.nodes ∧ grown.toDocument.loose = [] := by
  have hdoc := toDocument_of_grown h hbefore
  obtain ⟨hlaidBefore, hlaidInside, hlaidAfter, hsize⟩ := laid_of_grown h
  refine ⟨?_, loose_eq_nil_of_placed fun id hid hne hnone => ?_⟩
  · have hall : ∀ {id : Nat} {nodes : List Node}, LaidAll grown id nodes → countAll nodes ≤ grown.size →
        ((numbers id nodes).map (grown.tree grown.size)).map Node.unnumbered = nodes.map Node.unnumbered :=
      fun hlaid hle => by
        simpa only [Node.unnumberedAll_eq_map] using unnumberedAll_tree hlaid hle
    have hroot : grown.toDocument.root.unnumbered = doc.root.unnumbered := by
      simp only [hdoc, Document.root, Node.unnumbered, Node.unnumberedAll_eq_map]
      rw [hall hlaidInside (by omega)]
      rfl
    rw [Node.unnumberedAll_eq_map, Node.unnumberedAll_eq_map, Document.nodes, Document.nodes, List.map_append,
      List.map_append, List.map_cons, List.map_cons, hroot, hdoc]
    dsimp only
    rw [hall hlaidBefore (by omega), hall hlaidAfter (by omega)]
  · have hpos : start.size ≤ id := Nat.pos_of_ne_zero hne
    have hsome := h.placed id hpos hid
    rw [hnone] at hsome
    cases hsome

theorem toDocument_layAll {doc : Document} (hwhole : isWholeAll doc.nodes = true)
    (hbefore : ∀ n ∈ doc.before, n.isElement = false) :
    Node.unnumberedAll (start.layAll documentId doc.nodes).toDocument.nodes = Node.unnumberedAll doc.nodes ∧
      (start.layAll documentId doc.nodes).toDocument.loose = [] :=
  unnumberedAll_toDocument_of_grown (grown_layAll doc.nodes hwhole (by decide) fun _ => rfl) hbefore

end Build.Arena

end PageEdit.Html
