import PageEdit.Proofs.Html.Around
import PageEdit.Proofs.Html.Writing

/-!
# What a revision changes in the text

The text of a document is that of an element with something before it and something behind it, unless something
around the element is written without its content. What is before and behind is made of the elements outside, so
two tables of revisions that differ in one element lead to texts that differ in what is written of this element.

The content of templates is not written, although it is reached from the document and its elements can be
revised: an element in a template has no part in the text, whatever is around the template.

* `Place.exists_writeAround_eq`, `Place.writeAround_eq_of_not_keeps`: what is written around a place.
* `Document.write_eq_writeAround`: the text of a document, seen from one of its places.
* `revisions_are_local_outside_templates`: two tables that differ in one element.
* `not_isLocalAt_in_template`: an element in a template.
-/

namespace PageEdit.Html

/-- Whether an element is written without its content under a revision: the element is void, or it goes, or text or
markup comes in place of the content. -/
def Element.IsCut (e : Element) (revision : Option Revision) : Prop :=
  isVoid e.label = true ∨ ∃ r, revision = some r ∧
    (r.remove = true ∨ (∃ s, r.content = .text s) ∨ ∃ s, r.content = .markup s)

theorem Element.keepsContent_iff {e : Element} {revision : Option Revision} :
    e.keepsContent revision = true ↔ ¬ e.IsCut revision := by
  cases revision with
  | none => simp [keepsContent_none, IsCut]
  | some r =>
    cases hcontent : r.content <;> simp [keepsContent, IsCut, hcontent, and_comm]

namespace Node

/-- Whether text in a node is written as it is. -/
def isVerbatim : Node → Bool
  | .element e _ => verbatimLabels.contains e.label
  | _ => false

/-- A node under some revisions, given how its content is written without one. -/
def writeWith (revisions : Revisions) (kept : String) : Node → String
  | .element e _ => e.write (revisions e.id) kept
  | _ => ""

/-- Whether a node is written with what is in it. -/
def keeps (revisions : Revisions) : Node → Bool
  | .element e _ => e.keepsContent (revisions e.id)
  | _ => false

variable {revisions : Revisions} {n : Node}

theorem write_eq_writeWith (h : n.children ≠ []) (verbatim : Bool) : n.write revisions verbatim =
    n.writeWith revisions (writeAll revisions n.isVerbatim n.children) := by
  cases n with
  | element e content =>
    rw [write]
    rfl
  | fragment content =>
    rw [write]
    rfl
  | _ => exact absurd rfl h

theorem exists_writeWith_eq (h : n.keeps revisions = true) :
    ∃ a b, ∀ kept, n.writeWith revisions kept = a ++ kept ++ b := by
  cases n with
  | element e children => exact Element.exists_write_eq h
  | _ => cases h

theorem writeWith_eq (h : n.keeps revisions = false) (s t : String) :
    n.writeWith revisions s = n.writeWith revisions t := by
  cases n with
  | element e children => exact Element.write_eq_write h s t
  | _ => rfl

/-- It does not matter for an element where it stands. -/
theorem write_verbatim (h : n.isElement = true) (v w : Bool) :
    n.write revisions v = n.write revisions w := by
  cases n with
  | element e children => rw [write, write]
  | _ => cases h

theorem mem_visitedAll {e : Element} {nodes : List Node} :
    e ∈ visitedAll revisions nodes ↔ ∃ n ∈ nodes, e ∈ n.visited revisions := by
  induction nodes with
  | nil => simp [visitedAll]
  | cons n rest ih => simp [visitedAll, ih]

end Node

namespace Place

variable {revisions other : Revisions} {p q : Place}

/-- What is written of the tree that a place is in, given what is written of the node there. -/
def writeAround (revisions : Revisions) : Place → String → String
  | .top _ before _ after, s =>
    Node.writeAll revisions false before.reverse ++ s ++ Node.writeAll revisions false after
  | .inside q before _ after, s =>
    q.writeAround revisions (q.node.writeWith revisions
      (Node.writeAll revisions q.node.isVerbatim before.reverse ++ s ++
        Node.writeAll revisions q.node.isVerbatim after))

/-- Whether text at a place is written as it is. -/
def isVerbatim : Place → Bool
  | .top .. => false
  | .inside q _ _ _ => q.node.isVerbatim

theorem writeAll_tops (h : p.Fits) : Node.writeAll revisions false p.tops =
    p.writeAround revisions (p.node.write revisions p.isVerbatim) := by
  induction p with
  | top ground before n after =>
    rw [tops, Node.writeAll_append, Node.writeAll, ← String.append_assoc]
    rfl
  | inside q before n after ih =>
    obtain ⟨hchildren, hq⟩ := h
    have hne : q.node.children ≠ [] := by simp [hchildren]
    rw [tops, ih hq, Node.write_eq_writeWith hne, hchildren, Node.writeAll_append, Node.writeAll,
      ← String.append_assoc]
    rfl

/-- If all that is around a place is written with its content, what is written there has a part of its own in
the text. -/
theorem exists_writeAround_eq (h : ∀ a ∈ p.ancestors, a.node.keeps revisions = true) :
    ∃ a b, ∀ s, p.writeAround revisions s = a ++ s ++ b := by
  induction p with
  | top ground before n after => exact ⟨_, _, fun _ => rfl⟩
  | inside q before n after ih =>
    rw [ancestors, List.forall_mem_cons] at h
    obtain ⟨a, b, hq⟩ := ih h.2
    obtain ⟨start, stop, hwrite⟩ := Node.exists_writeWith_eq h.1
    generalize hbefore : Node.writeAll revisions q.node.isVerbatim before.reverse = s₁
    generalize hafter : Node.writeAll revisions q.node.isVerbatim after = s₂
    refine ⟨a ++ start ++ s₁, s₂ ++ stop ++ b, fun s => ?_⟩
    rw [writeAround, hbefore, hafter, hwrite, hq]
    simp only [String.append_assoc]

/-- Otherwise what is written there is left out. -/
theorem writeAround_eq_of_not_keeps (h : ∃ a ∈ p.ancestors, a.node.keeps revisions = false) (s t : String) :
    p.writeAround revisions s = p.writeAround revisions t := by
  induction p generalizing s t with
  | top ground before n after =>
    obtain ⟨a, ha, -⟩ := h
    cases ha
  | inside q before n after ih =>
    obtain ⟨a, ha, hkeeps⟩ := h
    rw [writeAround, writeAround]
    rcases List.mem_cons.mp ha with rfl | ha
    · rw [Node.writeWith_eq hkeeps]
    · exact ih ⟨a, ha, hkeeps⟩ _ _

/-! ## Tables that agree outside a place -/

mutual

theorem exists_mem_under_of_visited {e : Element} : ∀ (p : Place) (n : Node), p.node = n →
    e ∈ n.visited revisions → ∃ q ∈ under p n, q.element? = some e
  | p, .element f children, hn, he => by
    rw [Node.visited, List.mem_cons] at he
    rw [under]
    rcases he with rfl | he
    · exact ⟨p, .head _, by rw [element?, hn, Node.element?]⟩
    · split at he
      · obtain ⟨q, hq, hqe⟩ := exists_mem_underAll_of_visited (.inside p) (fun _ _ _ => rfl) [] children he
        exact ⟨q, .tail _ hq, hqe⟩
      · cases he
  | p, .fragment _, _, he => by simp [Node.visited] at he
  | p, .text _, _, he => by simp [Node.visited] at he
  | p, .comment _, _, he => by simp [Node.visited] at he
  | p, .doctype _, _, he => by simp [Node.visited] at he

theorem exists_mem_underAll_of_visited {e : Element} (make : List Node → Node → List Node → Place)
    (hmake : ∀ b n a, (make b n a).node = n) : ∀ before nodes : List Node,
      e ∈ Node.visitedAll revisions nodes → ∃ q ∈ underAll make before nodes, q.element? = some e
  | _, [], he => by simp [Node.visitedAll] at he
  | before, n :: rest, he => by
    rw [Node.visitedAll, List.mem_append] at he
    rw [underAll]
    rcases he with he | he
    · obtain ⟨q, hq, hqe⟩ := exists_mem_under_of_visited (make before n rest) n (hmake before n rest) he
      exact ⟨q, List.mem_append_left _ hq, hqe⟩
    · obtain ⟨q, hq, hqe⟩ := exists_mem_underAll_of_visited make hmake (n :: before) rest he
      exact ⟨q, List.mem_append_right _ hq, hqe⟩

end

/-- Whether two tables have the same revision for the element at a place. -/
def AgreeAt (revisions other : Revisions) (p : Place) : Prop :=
  ∀ e, p.element? = some e → revisions e.id = other e.id

theorem writeAll_congr_of_beside (h : ∀ q ∈ p.beside.flatMap subtree, q.AgreeAt revisions other) (verbatim : Bool)
    {nodes : List Node} (hnodes : nodes ⊆ p.beside.map node) :
    Node.writeAll revisions verbatim nodes = Node.writeAll other verbatim nodes := by
  refine Node.writeAll_congr verbatim nodes fun e he => ?_
  obtain ⟨n, hn, he⟩ := Node.mem_visitedAll.mp he
  obtain ⟨r, hr, rfl⟩ := List.mem_map.mp (hnodes hn)
  obtain ⟨q, hq, hqe⟩ := exists_mem_under_of_visited r r.node rfl he
  exact h q (List.mem_flatMap.mpr ⟨r, hr, hq⟩) e hqe

/-- What is written around a place depends on the elements outside. -/
theorem writeAround_congr (h : ∀ q ∈ p.outside, q.AgreeAt revisions other) (s : String) :
    p.writeAround revisions s = p.writeAround other s := by
  induction p generalizing s with
  | top ground before n after =>
    rw [writeAround, writeAround, writeAll_congr_of_beside h, writeAll_congr_of_beside h]
    · simp [map_node_beside_top]
    · simp [map_node_beside_top]
  | inside q before n after ih =>
    rw [outside, List.cons_append, List.forall_mem_cons, List.forall_mem_append] at h
    obtain ⟨hq, houtside, hbeside⟩ := h
    have hwith : ∀ kept, q.node.writeWith revisions kept = q.node.writeWith other kept := by
      intro kept
      cases hn : q.node with
      | element e children => rw [Node.writeWith, Node.writeWith, hq e (by rw [element?, hn, Node.element?])]
      | _ => rfl
    rw [writeAround, writeAround, ih houtside, hwith, writeAll_congr_of_beside hbeside,
      writeAll_congr_of_beside hbeside]
    · simp [map_node_beside_inside]
    · simp [map_node_beside_inside]

end Place

namespace Document

variable {doc : Document} {p : Place} {revisions other : Revisions}

/-- The text of a document, seen from one of its places. -/
theorem write_eq_writeAround (hp : p ∈ doc.places) (revisions : Revisions) : doc.write revisions =
    p.writeAround revisions (p.node.write revisions p.isVerbatim) := by
  rw [write, ← (tops_of_mem_places hp).2, Place.writeAll_tops (fits_of_mem_places hp)]

theorem writeAround_congr (hp : p ∈ doc.places) (h : ∀ q ∈ doc.places, q ≠ p → q.AgreeAt revisions other)
    (s : String) : p.writeAround revisions s = p.writeAround other s := by
  refine Place.writeAround_congr (fun q hq => ?_) s
  obtain ⟨hmem, hne⟩ := mem_places_of_mem_outside hp hq
  exact h q hmem hne

/-- Whether two tables of revisions lead to texts of a document that differ, if at all, in what is written of the
element at a place, and if something around it is written without its content, not at all. -/
def IsLocalAt (doc : Document) (p : Place) (revisions other : Revisions) : Prop :=
  ((∃ a ∈ p.ancestors, ∃ e, a.element? = some e ∧ e.IsCut (revisions e.id)) →
    doc.write revisions = doc.write other) ∧
  ((∀ a ∈ p.ancestors, ∀ e, a.element? = some e → ¬ e.IsCut (revisions e.id)) →
    ∃ before behind, ∀ verbatim,
      doc.write revisions = before ++ p.node.write revisions verbatim ++ behind ∧
      doc.write other = before ++ p.node.write other verbatim ++ behind)

/-- Where something around a place is written without its content, tables that agree outside lead to one text. -/
theorem write_eq_write_of_not_keeps (hp : p ∈ doc.places)
    (h : ∀ q ∈ doc.places, q ≠ p → q.AgreeAt revisions other)
    (hcut : ∃ a ∈ p.ancestors, a.node.keeps revisions = false) : doc.write revisions = doc.write other := by
  rw [write_eq_writeAround hp, write_eq_writeAround hp, ← writeAround_congr hp h]
  exact Place.writeAround_eq_of_not_keeps hcut _ _

theorem exists_write_eq_of_keeps (hp : p ∈ doc.places) (he : p.node.isElement = true)
    (h : ∀ q ∈ doc.places, q ≠ p → q.AgreeAt revisions other)
    (hkeeps : ∀ a ∈ p.ancestors, a.node.keeps revisions = true) :
    ∃ before behind, ∀ verbatim,
      doc.write revisions = before ++ p.node.write revisions verbatim ++ behind ∧
      doc.write other = before ++ p.node.write other verbatim ++ behind := by
  obtain ⟨before, behind, haround⟩ := Place.exists_writeAround_eq hkeeps
  refine ⟨before, behind, fun verbatim => ⟨?_, ?_⟩⟩
  · rw [write_eq_writeAround hp, haround, Node.write_verbatim he]
  · rw [write_eq_writeAround hp, ← writeAround_congr hp h, haround, Node.write_verbatim he]

end Document

/-! ## Main statement -/

/-- Two tables of revisions differ in one element of a document. If all that is around it are elements, the texts
differ only in what is written of this element, and not at all if one of those around it is void, goes, or gets
other content. What is around an element and is none is the content of a template, and what is in there has no
part in the text. -/
theorem revisions_are_local_outside_templates {doc : Document} {p : Place} (hp : p ∈ doc.places)
    (he : p.node.isElement = true) {revisions other : Revisions}
    (h : ∀ q ∈ doc.places, q ≠ p → q.AgreeAt revisions other) :
    ((∀ a ∈ p.ancestors, a.node.isElement = true) → doc.IsLocalAt p revisions other) ∧
      ((∃ a ∈ p.ancestors, a.node.isElement = false) → doc.write revisions = doc.write other) := by
  have hkeeps : ∀ a : Place, ∀ e, a.element? = some e →
      (a.node.keeps revisions = true ↔ ¬ e.IsCut (revisions e.id)) := by
    intro a e hae
    rw [← Element.keepsContent_iff]
    cases hn : a.node <;> rw [Place.element?, hn] at hae <;> cases hae
    rfl
  refine ⟨fun hall => ⟨?_, ?_⟩, ?_⟩
  · rintro ⟨a, ha, e, hae, hcut⟩
    refine Document.write_eq_write_of_not_keeps hp h ⟨a, ha, Bool.eq_false_iff.mpr fun hk => ?_⟩
    exact (hkeeps a e hae).mp hk hcut
  · intro hnone
    refine Document.exists_write_eq_of_keeps hp he h fun a ha => ?_
    obtain ⟨e, hae⟩ := Option.isSome_iff_exists.mp (hall a ha)
    exact (hkeeps a e hae).mpr (hnone a ha e hae)
  · rintro ⟨a, ha, hnone⟩
    refine Document.write_eq_write_of_not_keeps hp h ⟨a, ha, ?_⟩
    cases hn : a.node with
    | element e children =>
      rw [hn] at hnone
      cases hnone
    | _ => rfl

/-- Of two paragraphs in a document the first gets another text. -/
theorem revisions_are_local_outside_templates_beside :
    let first : Node := .element ⟨2, .html "p", []⟩ [.text "a"]
    let second : Node := .element ⟨3, .html "p", []⟩ []
    let doc : Document := ⟨[], 1, [], [first, second], [], []⟩
    let p : Place := .inside doc.rootPlace [] first [second]
    let revisions : Revisions := fun id => if id = 2 then some ⟨false, none, .text "b"⟩ else none
    p ∈ doc.places ∧ (∀ q ∈ doc.places, q ≠ p → q.AgreeAt noRevisions revisions) ∧
      ∃ before behind, doc.write noRevisions = before ++ "<p>a</p>" ++ behind ∧
        doc.write revisions = before ++ "<p>b</p>" ++ behind := by
  intro first second doc p revisions
  have hp : p ∈ doc.places := .tail _ (.head _)
  have hagree : ∀ q ∈ doc.places, q ≠ p → q.AgreeAt noRevisions revisions := by
    have hplaces : doc.places =
        [doc.rootPlace, p, .inside p [] (.text "a") [], .inside doc.rootPlace [first] second []] := rfl
    rw [hplaces]
    intro q hq hne e he
    simp only [List.mem_cons, List.not_mem_nil, or_false] at hq
    rcases hq with rfl | rfl | rfl | rfl
    · cases he
      rfl
    · exact absurd rfl hne
    · cases he
    · cases he
      rfl
  have hlocal := (revisions_are_local_outside_templates hp rfl hagree).1
    (fun a ha => by rw [List.mem_singleton.mp ha]; rfl)
  obtain ⟨before, behind, hwrite⟩ := hlocal.2 fun a ha e he => by
    rw [List.mem_singleton.mp ha] at he
    cases he
    exact Element.keepsContent_iff.mp (by decide)
  obtain ⟨hnone, hrevised⟩ := hwrite false
  have hfirst : p.node.write noRevisions false = "<p>a</p>" := by decide +kernel
  have hother : p.node.write revisions false = "<p>b</p>" := by decide +kernel
  exact ⟨hp, hagree, before, behind, hfirst ▸ hnone, hother ▸ hrevised⟩

/-- A paragraph in a template gets another text, which is not written, though all around it is kept. -/
theorem not_isLocalAt_in_template :
    let inner : Node := .element ⟨4, .html "p", []⟩ []
    let template : Node := .element ⟨2, .html "template", []⟩ [.fragment [inner]]
    let doc : Document := ⟨[], 1, [], [template], [], []⟩
    let content : Place := .inside (.inside doc.rootPlace [] template []) [] (.fragment [inner]) []
    let p : Place := .inside content [] inner []
    let revisions : Revisions := fun id => if id = 4 then some ⟨false, none, .text "a"⟩ else none
    p ∈ doc.places ∧ (∀ q ∈ doc.places, q ≠ p → q.AgreeAt noRevisions revisions) ∧
      ¬ doc.IsLocalAt p noRevisions revisions := by
  intro inner template doc content p revisions
  have hplaces : doc.places = [doc.rootPlace, .inside doc.rootPlace [] template [], content, p] := rfl
  refine ⟨.tail _ (.tail _ (.tail _ (.head _))), ?_, ?_⟩
  · rw [hplaces]
    intro q hq hne e he
    simp only [List.mem_cons, List.not_mem_nil, or_false] at hq
    rcases hq with rfl | rfl | rfl | rfl
    · cases he
      rfl
    · cases he
      rfl
    · cases he
    · exact absurd rfl hne
  · rintro ⟨-, hlocal⟩
    have hancestors : p.ancestors = [content, .inside doc.rootPlace [] template [], doc.rootPlace] := rfl
    rw [hancestors] at hlocal
    obtain ⟨before, behind, hwrite⟩ := hlocal fun a ha e he => by
      simp only [List.mem_cons, List.not_mem_nil, or_false] at ha
      rcases ha with rfl | rfl | rfl
      · cases he
      · cases he
        exact Element.keepsContent_iff.mp (by decide)
      · cases he
        exact Element.keepsContent_iff.mp (by decide)
    obtain ⟨hnone, hrevised⟩ := hwrite false
    have hsame : doc.write noRevisions = doc.write revisions := by decide +kernel
    have hinner : p.node.write noRevisions false = "<p></p>" := by decide +kernel
    have hother : p.node.write revisions false = "<p>a</p>" := by decide +kernel
    have hlength := congrArg String.length (hnone.symm.trans (hsame.trans hrevised))
    rw [hinner, hother] at hlength
    simp only [String.length_append] at hlength
    have hshorter : "<p></p>".length < "<p>a</p>".length := by decide
    omega

end PageEdit.Html
