import PageEdit.Proofs.Html.Around
import PageEdit.Proofs.Html.Roundtrip

/-!
# Numbers in document order

Elements are numbered as reading makes them. If each one has a greater number than all that come before it in the
document, then the order of numbers is that of the document. So it is where reading moves nothing about: a plain page
that has been written is read in this way, each node being made behind all that come before it.

* `Document.IsNumberedInOrder`: numbers ascend along the document.
* `filterMap_places`: the elements at the places of a document are those of its trees.
* `isNumberedInOrder_ofHtml_write`: plain pages that have been written, with attributes in any order.
-/

namespace PageEdit.Html

open Node (elementsAll)

/-! ## Elements and places -/

namespace Place

mutual

theorem filterMap_under : ∀ (p : Place) (n : Node), p.node = n → (under p n).filterMap element? = n.elements
  | p, .element e children, hn => by
    have hp : p.element? = some e := by
      rw [element?, hn]
      rfl
    rw [under, Node.elements, List.filterMap_cons_some hp,
      filterMap_underAll (.inside p) (fun _ _ _ => rfl) [] children]
  | p, .fragment children, hn => by
    have hp : p.element? = none := by
      rw [element?, hn]
      rfl
    rw [under, Node.elements, List.filterMap_cons_none hp,
      filterMap_underAll (.inside p) (fun _ _ _ => rfl) [] children]
  | p, .text _, hn | p, .comment _, hn | p, .doctype _, hn => by
    have hp : p.element? = none := by
      rw [element?, hn]
      rfl
    exact List.filterMap_cons_none hp

/-- The elements at the places of some siblings are those of their trees. -/
theorem filterMap_underAll (make : List Node → Node → List Node → Place) (hmake : ∀ b n a, (make b n a).node = n) :
    ∀ before nodes : List Node, (underAll make before nodes).filterMap element? = elementsAll nodes
  | _, [] => rfl
  | before, n :: rest => by
    rw [underAll, elementsAll, List.filterMap_append, filterMap_under (make before n rest) n (hmake before n rest),
      filterMap_underAll make hmake (n :: before) rest]

end

end Place

namespace Document

/-- Whether each element has a greater number than those before it in the document. -/
def IsNumberedInOrder (doc : Document) : Prop := (elementsAll doc.nodes).Pairwise (·.id < ·.id)

theorem filterMap_places (doc : Document) : doc.places.filterMap Place.element? = elementsAll doc.nodes :=
  Place.filterMap_underAll (.top .document) (fun _ _ _ => rfl) [] doc.nodes

/-- Among the places of elements numbers ascend too. -/
theorem IsNumberedInOrder.pairwise {doc : Document} (h : doc.IsNumberedInOrder) :
    (doc.places.filter (·.node.isElement)).Pairwise fun p q => p.elementId < q.elementId := by
  rw [IsNumberedInOrder, ← filterMap_places, List.pairwise_filterMap] at h
  refine List.pairwise_filter.mpr (h.imp fun {p q} hpq hp hq => ?_)
  obtain ⟨e, he⟩ := Option.isSome_iff_exists.mp hp
  obtain ⟨f, hf⟩ := Option.isSome_iff_exists.mp hq
  have he : p.element? = some e := he
  have hf : q.element? = some f := hf
  rw [Place.elementId, Place.elementId, he, hf]
  exact hpq e he f hf

end Document

/-! ## Trees that have been put in one by one -/

namespace Build.Arena

open Node (countAll isWholeAll)

/-- Whether numbers of elements ascend, from one number on and below another. -/
def Ascends (first bound : Nat) (elements : List Element) : Prop :=
  elements.Pairwise (·.id < ·.id) ∧ ∀ e ∈ elements, first ≤ e.id ∧ e.id < bound

theorem Ascends.append {first middle bound : Nat} {a b : List Element} (ha : Ascends first middle a)
    (hb : Ascends middle bound b) (hfirst : first ≤ middle) (hbound : middle ≤ bound) :
    Ascends first bound (a ++ b) := by
  constructor
  · refine List.pairwise_append.mpr ⟨ha.1, hb.1, fun e he f hf => ?_⟩
    exact Nat.lt_of_lt_of_le (ha.2 e he).2 (hb.2 f hf).1
  · intro e he
    rcases List.mem_append.mp he with he | he
    · exact ⟨(ha.2 e he).1, Nat.lt_of_lt_of_le (ha.2 e he).2 hbound⟩
    · exact ⟨Nat.le_trans hfirst (hb.2 e he).1, (hb.2 e he).2⟩

theorem Ascends.cons {bound : Nat} {e : Element} {elements : List Element} (h : Ascends (e.id + 1) bound elements)
    (hbound : e.id < bound) : Ascends e.id bound (e :: elements) := by
  constructor
  · exact List.pairwise_cons.mpr ⟨fun f hf => (h.2 f hf).1, h.1⟩
  · intro f hf
    rcases List.mem_cons.mp hf with rfl | hf
    · exact ⟨Nat.le_refl _, hbound⟩
    · exact ⟨Nat.le_of_lt (h.2 f hf).1, (h.2 f hf).2⟩

theorem ascends_nil (first bound : Nat) : Ascends first bound [] := ⟨.nil, fun _ h => absurd h List.not_mem_nil⟩

variable {arena grown : Arena}

mutual

theorem ascends_tree {id depth : Nat} : ∀ {n : Node}, Laid arena id n → n.count ≤ depth →
    Ascends id (id + n.count) (arena.tree depth id).elements
  | .element e children, h, hdepth => by
    obtain ⟨hkind, hchildren, hlaid⟩ := h
    simp only [Node.count] at hdepth ⊢
    obtain ⟨depth, rfl⟩ : ∃ d, depth = d + 1 := ⟨depth - 1, by omega⟩
    have hinside : Ascends (id + 1) (id + 1 + countAll children)
        (elementsAll ((numbers (id + 1) children).map (arena.tree depth))) :=
      ascends_treeAll hlaid (by omega)
    have htree : (arena.tree (depth + 1) id).elements =
        ⟨id, e.name, e.attrs⟩ :: elementsAll ((numbers (id + 1) children).map (arena.tree depth)) := by
      rw [tree]
      simp only [show (arena.slot id).kind = _ from hkind, show (arena.slot id).children.toList = _ from hchildren]
      rw [Node.elements]
    rw [htree, ← Nat.add_assoc, Nat.add_right_comm]
    exact Ascends.cons (e := ⟨id, e.name, e.attrs⟩) hinside (by show id < _; omega)
  | .text _, h, hdepth | .comment _, h, hdepth | .doctype _, h, hdepth => by
    obtain ⟨depth, rfl⟩ : ∃ d, depth = d + 1 := ⟨depth - 1, by simp only [Node.count] at hdepth; omega⟩
    rw [tree]
    simp only [show (arena.slot id).kind = _ from h]
    exact ascends_nil _ _

/-- The elements of trees that stand in a table have the numbers that follow each other in document order. -/
theorem ascends_treeAll {id depth : Nat} : ∀ {nodes : List Node}, LaidAll arena id nodes → countAll nodes ≤ depth →
    Ascends id (id + countAll nodes) (elementsAll ((numbers id nodes).map (arena.tree depth)))
  | [], _, _ => ascends_nil _ _
  | n :: rest, h, hdepth => by
    obtain ⟨hn, hrest⟩ := h
    simp only [countAll] at hdepth ⊢
    have hfirst : Ascends id (id + n.count) (arena.tree depth id).elements := ascends_tree hn (by omega)
    have hothers : Ascends (id + n.count) (id + n.count + countAll rest)
        (elementsAll ((numbers (id + n.count) rest).map (arena.tree depth))) := ascends_treeAll hrest (by omega)
    rw [numbers, List.map_cons, elementsAll, ← Nat.add_assoc]
    exact hfirst.append hothers (Nat.le_add_right _ _) (Nat.le_add_right _ _)

end

theorem elementsAll_append (a b : List Node) : elementsAll (a ++ b) = elementsAll a ++ elementsAll b := by
  rw [Node.elementsAll_eq_flatMap, Node.elementsAll_eq_flatMap, Node.elementsAll_eq_flatMap, List.flatMap_append]

/-- The document of trees that have been put in at the start is numbered in order. -/
theorem isNumberedInOrder_of_grown {doc : Document} (h : Grown start documentId doc.nodes grown)
    (hbefore : ∀ n ∈ doc.before, n.isElement = false) : grown.toDocument.IsNumberedInOrder := by
  have hdoc := toDocument_of_grown h hbefore
  obtain ⟨hlaidBefore, hlaidInside, hlaidAfter, hsize⟩ := laid_of_grown h
  have hroot : doc.root.count = countAll doc.children + 1 := rfl
  have hnodes : elementsAll grown.toDocument.nodes =
      elementsAll ((numbers 1 doc.before).map (grown.tree grown.size)) ++
        (grown.toDocument.rootElement ::
            elementsAll ((numbers (1 + countAll doc.before + 1) doc.children).map (grown.tree grown.size)) ++
          elementsAll
            ((numbers (1 + countAll doc.before + doc.root.count) doc.after).map (grown.tree grown.size))) := by
    rw [Document.nodes, elementsAll_append, elementsAll, Document.root, Node.elements, hdoc]
  have hascends : ∀ {id : Nat} {nodes : List Node}, LaidAll grown id nodes → countAll nodes ≤ grown.size →
      Ascends id (id + countAll nodes) (elementsAll ((numbers id nodes).map (grown.tree grown.size))) :=
    fun hlaid hle => ascends_treeAll hlaid hle
  have hbeforeAscends := hascends hlaidBefore (by omega)
  have hinsideAscends := hascends hlaidInside (by omega)
  have hafterAscends := hascends hlaidAfter (by omega)
  have hrootId : grown.toDocument.rootElement.id = 1 + countAll doc.before := by rw [hdoc]; rfl
  rw [Document.IsNumberedInOrder, hnodes]
  generalize grown.toDocument.rootElement = root at hrootId ⊢
  rw [← hrootId] at hbeforeAscends hinsideAscends hafterAscends ⊢
  have hrootAscends := hinsideAscends.cons (by omega)
  rw [Nat.add_right_comm, Nat.add_assoc, ← hroot] at hrootAscends
  have hlater := hrootAscends.append hafterAscends (Nat.le_add_right _ _) (Nat.le_add_right _ _)
  exact (hbeforeAscends.append hlater (by omega) (by omega)).1

end Build.Arena

/-- A page that is plain but for the order of attributes is read as it has been written, with numbers in document
order, and nothing is cut off. -/
theorem isNumberedInOrder_ofHtml_write {doc : Document} (h : doc.isSpelled = true) :
    (Document.ofHtml (doc.write noRevisions)).IsNumberedInOrder ∧
      (Document.ofHtml (doc.write noRevisions)).loose = [] := by
  obtain ⟨hwhole, hbefore⟩ := isWhole_of_isPlain (Document.isPlain_of_isSpelled h)
  refine ⟨?_, (nodes_ofHtml_write h).2⟩
  rw [ofHtml_write h]
  refine Build.Arena.isNumberedInOrder_of_grown ?_ hbefore
  exact Build.Arena.grown_layAll doc.ordered.nodes hwhole (by decide) fun _ => rfl

end PageEdit.Html
