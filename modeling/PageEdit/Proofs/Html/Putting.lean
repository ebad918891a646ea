import Mathlib.Data.List.Pairwise
import PageEdit.Proofs.Html.Clearing
import PageEdit.Proofs.Html.Locality
import PageEdit.Proofs.Html.Numbering

/-!
# Another node at a place

A node is put in the place of another one, and all around it stays. Then the text of the tree and its shape are as
they were but for this node: the text is that of the new node with what was written around the old one, and the
steps that led to the old one lead to the new one.

What a patch makes of a page is such a tree. If it is that of a plain document, it is also what is read of its text,
and if an element is revised whose number no other element has, its text is that of the page under the revision.

* `Place.writeAll_tops_put`: the text of a tree with another node at a place.
* `Place.shapeAll_tops_put`: its shape, if the nodes are elements.
* `Document.shape_ofHtml_write`: a plain page that has been written is read with the same shape, whatever the order
  of attributes.
* `Document.write_eq_write_put`: revising an element writes the document with another element in its place.
-/

namespace PageEdit.Html

open Node (writeAll)

/-! ## The text around a place -/

namespace Node

variable {n : Node} {revisions : Revisions}

theorem children_withContent (h : n.children ≠ []) (content : List Node) :
    (n.withContent content).children = content := by
  cases n with
  | element | fragment => rfl
  | _ => exact absurd rfl h

theorem isVerbatim_withContent (n : Node) (content : List Node) :
    (n.withContent content).isVerbatim = n.isVerbatim := by
  cases n <;> rfl

theorem writeWith_withContent (n : Node) (content : List Node) (kept : String) :
    (n.withContent content).writeWith revisions kept = n.writeWith revisions kept := by
  cases n <;> rfl

end Node

namespace Place

variable {p : Place} {revisions : Revisions}

theorem fits_put (h : p.Fits) (m : Node) : (p.put m).Fits := by
  induction p generalizing m with
  | top ground before n after => trivial
  | inside q before n after ih =>
    obtain ⟨hchildren, hq⟩ := h
    have hne : q.node.children ≠ [] := by simp [hchildren]
    exact ⟨by rw [node_put, Node.children_withContent hne], ih hq _⟩

theorem isVerbatim_put (p : Place) (m : Node) : (p.put m).isVerbatim = p.isVerbatim := by
  cases p with
  | top ground before n after => rfl
  | inside q before n after => rw [put, isVerbatim, isVerbatim, node_put, Node.isVerbatim_withContent]

theorem writeAround_put (p : Place) (m : Node) (s : String) :
    (p.put m).writeAround revisions s = p.writeAround revisions s := by
  induction p generalizing m s with
  | top ground before n after => rfl
  | inside q before n after ih =>
    rw [put, writeAround, writeAround, ih, node_put, Node.isVerbatim_withContent, Node.writeWith_withContent]

/-- The text of a tree with another node at a place is that of the node with what is written around the place. -/
theorem writeAll_tops_put (h : p.Fits) (m : Node) : writeAll revisions false (p.put m).tops =
    p.writeAround revisions (m.write revisions p.isVerbatim) := by
  rw [writeAll_tops (fits_put h m), writeAround_put, node_put, isVerbatim_put]

end Place

/-! ## The shape around a place -/

section

variable {look : Look} {content : Shape} {m n : Node} {b : List Step}

theorem Shape.put_later (h : ∀ later, m.shapeBefore later = Shape.put look content b (n.shapeBefore later))
    (earlier after : List Node) : Node.shapeAll (earlier ++ m :: after) =
      Shape.put look content (List.replicate earlier.length .later ++ b) (Node.shapeAll (earlier ++ n :: after)) := by
  induction earlier with
  | nil => exact h (Node.shapeAll after)
  | cons first earlier ih =>
    rw [List.cons_append, List.cons_append, Node.shapeAll, Node.shapeAll, ih, List.length_cons, List.replicate_succ]
    cases first <;> rfl

theorem Shape.put_inside {nodes : List Node} (hne : n.children ≠ [])
    (h : Node.shapeAll nodes = Shape.put look content b (Node.shapeAll n.children)) (later : Shape) :
    (n.withContent nodes).shapeBefore later = Shape.put look content (.inside :: b) (n.shapeBefore later) := by
  cases n with
  | element e children => exact congrArg (Shape.tree (.element e.look) · later) h
  | fragment children => exact congrArg (Shape.tree .fragment · later) h
  | _ => exact absurd rfl hne

/-- The shape of a tree with another node at a place, given the steps from there to what is new in the node. -/
theorem Place.shapeAll_tops_put_of_steps {p : Place} (hfits : p.Fits)
    (h : ∀ later, m.shapeBefore later = Shape.put look content b (p.node.shapeBefore later)) :
    Node.shapeAll (p.put m).tops = Shape.put look content (p.steps ++ b) (Node.shapeAll p.tops) := by
  induction p generalizing m b with
  | top ground before n after =>
    rw [put, tops, tops, steps, ← List.length_reverse]
    exact Shape.put_later h before.reverse after
  | inside q before n after ih =>
    -- what is new in the node is as new in the parent, some steps further on
    obtain ⟨hchildren, hq⟩ := hfits
    have hrow : Node.shapeAll (before.reverse ++ m :: after) =
        Shape.put look content (List.replicate before.length .later ++ b) (Node.shapeAll q.node.children) := by
      rw [hchildren, ← List.length_reverse]
      exact Shape.put_later h before.reverse after
    have hne : q.node.children ≠ [] := by simp [hchildren]
    rw [put, tops, tops, steps, List.append_assoc]
    exact ih hq (Shape.put_inside hne hrow)

/-- The shape of a tree with another element in place of one. -/
theorem Place.shapeAll_tops_put {p : Place} {e f : Element} {children nodes : List Node} (hfits : p.Fits)
    (hnode : p.node = .element e children) : Node.shapeAll (p.put (.element f nodes)).tops =
      Shape.put f.look (Node.shapeAll nodes) p.steps (Node.shapeAll p.tops) := by
  have hput := Place.shapeAll_tops_put_of_steps (m := .element f nodes) (b := []) hfits fun later => by
    rw [hnode]
    rfl
  rwa [List.append_nil] at hput

end

/-! ## Plain documents -/

mutual

theorem Node.shapeBefore_unnumbered : ∀ (later : Shape) (n : Node),
    n.unnumbered.shapeBefore later = n.shapeBefore later
  | later, .element e children => by
    rw [unnumbered, shapeBefore, shapeBefore, shapeAll_unnumberedAll children]
    rfl
  | later, .fragment children => by rw [unnumbered, shapeBefore, shapeBefore, shapeAll_unnumberedAll children]
  | _, .text _ | _, .comment _ | _, .doctype _ => by rw [unnumbered]

theorem Node.shapeAll_unnumberedAll : ∀ nodes : List Node, shapeAll (unnumberedAll nodes) = shapeAll nodes
  | [] => rfl
  | n :: rest => by
    rw [unnumberedAll, shapeAll, shapeAll, shapeAll_unnumberedAll rest, shapeBefore_unnumbered _ n]

end

/-- The document with some nodes, if there is a root element among them. -/
def Document.ofNodes? : List Node → Option Document
  | .element e children :: rest =>
    if e.name = .html "html" then some ⟨[], e.id, e.attrs, children, rest, []⟩ else none
  | n :: rest => (ofNodes? rest).map fun doc => { doc with before := n :: doc.before }
  | [] => none

namespace Document

variable {doc : Document}

theorem nodes_of_ofNodes? {nodes : List Node} (h : ofNodes? nodes = some doc) : doc.nodes = nodes := by
  induction nodes generalizing doc with
  | nil => cases h
  | cons n rest ih =>
    cases n with
    | element e children =>
      rw [ofNodes?] at h
      split at h
      · rename_i hname
        obtain rfl := Option.some.inj h
        obtain ⟨id, name, attrs⟩ := e
        obtain rfl : name = .html "html" := hname
        rfl
      · cases h
    | _ =>
      obtain ⟨doc', hdoc, rfl⟩ := Option.map_eq_some_iff.mp h
      have hnodes := ih hdoc
      exact congrArg (List.cons _) hnodes

/-- A document that is plain but for the order of attributes is read with the same shape when it has been written. -/
theorem shape_ofHtml_write (h : doc.isSpelled = true) : (Document.ofHtml (doc.write noRevisions)).shape = doc.shape := by
  rw [← shape_ordered h, shape, shape, ← Node.shapeAll_unnumberedAll, (nodes_ofHtml_write h).1,
    Node.shapeAll_unnumberedAll]

/-! ## Revising one element -/

variable {p : Place} {e : Element} {children : List Node} {revisions : Revisions}

/-- Where numbers ascend no two places have an element with the same number. -/
theorem IsNumberedInOrder.id_ne (h : doc.IsNumberedInOrder) {q : Place} {f : Element} (hp : p ∈ doc.places)
    (hq : q ∈ doc.places) (hne : q ≠ p) (he : p.element? = some e) (hf : q.element? = some f) : f.id ≠ e.id := by
  have hdistinct : (doc.places.filter (·.node.isElement)).Pairwise fun p q => p.elementId ≠ q.elementId :=
    h.pairwise.imp fun hlt => Nat.ne_of_lt hlt
  have hsymm : Std.Symm fun p q : Place => p.elementId ≠ q.elementId := ⟨fun _ _ => Ne.symm⟩
  have hmem : ∀ {r : Place} {g : Element}, r ∈ doc.places → r.element? = some g →
      r ∈ doc.places.filter (·.node.isElement) ∧ r.elementId = g.id := by
    intro r g hr hg
    refine ⟨List.mem_filter.mpr ⟨hr, Option.isSome_iff_exists.mpr ⟨g, hg⟩⟩, ?_⟩
    rw [Place.elementId, hg]
    rfl
  obtain ⟨hpFilter, hpId⟩ := hmem hp he
  obtain ⟨hqFilter, hqId⟩ := hmem hq hf
  rw [← hpId, ← hqId]
  exact hdistinct.forall hqFilter hpFilter hne

/-- The text of a document in which one element is revised. -/
theorem write_eq_writeAround_of_only (h : doc.IsNumberedInOrder) (hp : p ∈ doc.places)
    (hnode : p.node = .element e children) (honly : ∀ id, id ≠ e.id → revisions id = none) :
    doc.write revisions = p.writeAround noRevisions
      (e.write (revisions e.id) (writeAll noRevisions (verbatimLabels.contains e.label) children)) := by
  have he : p.element? = some e := by rw [Place.element?, hnode, Node.element?]
  have hagree : ∀ q ∈ doc.places, q ≠ p → q.AgreeAt revisions noRevisions :=
    fun q hq hne f hf => honly f.id (h.id_ne hp hq hne he hf)
  have hinside : writeAll revisions (verbatimLabels.contains e.label) children =
      writeAll noRevisions (verbatimLabels.contains e.label) children := by
    refine Node.writeAll_congr _ children fun f hf => ?_
    obtain ⟨q, hq, hqf⟩ := Place.exists_mem_underAll_of_visited (.inside p) (fun _ _ _ => rfl) [] children hf
    refine hagree q (subtree_subset_places hp ?_) ?_ f hqf
    · rw [Place.subtree_eq, hnode]
      exact .tail _ hq
    · rintro rfl
      exact Place.notMem_underAll q children hq
  rw [write_eq_writeAround hp, writeAround_congr hp hagree, hnode, Node.write, hinside]

/-- Revising one element writes the document with another element in its place, if that is written in the same way. -/
theorem write_eq_write_put (h : doc.IsNumberedInOrder) (hp : p ∈ doc.places) (hnode : p.node = .element e children)
    (honly : ∀ id, id ≠ e.id → revisions id = none) {f : Element} {nodes : List Node}
    (hsame : f.write none (writeAll noRevisions (verbatimLabels.contains f.label) nodes) =
      e.write (revisions e.id) (writeAll noRevisions (verbatimLabels.contains e.label) children)) :
    doc.write revisions = writeAll noRevisions false (p.put (.element f nodes)).tops := by
  rw [write_eq_writeAround_of_only h hp hnode honly, Place.writeAll_tops_put (fits_of_mem_places hp), Node.write,
    ← hsame]
  rfl

end Document

end PageEdit.Html
