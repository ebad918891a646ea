import PageEdit.Html.Place
import PageEdit.Html.Revision

/-!
# What writing comes to

Writing goes through a document from its root. It comes to an element unless something around it is written
without its content: it goes, its content is replaced, or its label is that of a void element. The content of
templates is not written, and trees that have been cut off are not gone through. Of a table of revisions
only those count that belong to an element that writing comes to.

* `Node.write_congr`: tables that agree on what writing comes to lead to the same text.
* `Node.exists_write_eq`: each element that writing comes to stands in the text under its revision.
* `Node.exists_revised_iff`: writing comes to a revised element exactly if it would come to one without
  revisions.
* `Document.written_eq`: where the elements stand that are written if nothing is revised.
-/

namespace PageEdit.Html

/-- Whether an element is written with what is in it. -/
def Element.keepsContent (e : Element) (revision : Option Revision) : Bool :=
  let r := revision.getD .none
  !r.remove && !isVoid e.label &&
    match r.content with
    | .keep | .append _ | .prepend _ => true
    | .text _ | .markup _ => false

namespace Node

mutual

/-- The elements of a tree that writing comes to under some revisions, in document order. -/
def visited (revisions : Revisions) : Node → List Element
  | .element e children =>
    e :: if e.keepsContent (revisions e.id) then visitedAll revisions children else []
  | _ => []

/-- The elements of some trees that writing comes to. -/
def visitedAll (revisions : Revisions) : List Node → List Element
  | [] => []
  | n :: rest => visited revisions n ++ visitedAll revisions rest

end

end Node

/-- The table that revises nothing. -/
def noRevisions : Revisions := fun _ => none

namespace Document

/-- The elements of a document that writing comes to under some revisions. -/
def visited (revisions : Revisions) (doc : Document) : List Element :=
  Node.visitedAll revisions doc.nodes

/-- The elements of a document that are written if nothing is revised. -/
def written (doc : Document) : List Element := doc.visited noRevisions

end Document

/-! ## One element -/

namespace Element

variable {e : Element} {revision : Option Revision}

theorem exists_write_eq (h : e.keepsContent revision = true) :
    ∃ a b, ∀ kept, e.write revision kept = a ++ kept ++ b := by
  simp only [keepsContent, Bool.and_eq_true, Bool.not_eq_true'] at h
  obtain ⟨⟨hremove, hvoid⟩, hcontent⟩ := h
  simp only [Element.write, hremove, hvoid, Bool.false_eq_true, if_false]
  generalize writeStart e.label _ = start
  cases hc : (revision.getD .none).content with
  | keep => exact ⟨start, writeEnd e.label, fun _ => rfl⟩
  | text s => simp [hc] at hcontent
  | markup s => simp [hc] at hcontent
  | append s =>
    exact ⟨start, s ++ writeEnd e.label, fun _ => by
      simp [ContentRevision.write, String.append_assoc]⟩
  | prepend s =>
    exact ⟨start ++ s, writeEnd e.label, fun _ => by
      simp [ContentRevision.write, String.append_assoc]⟩

theorem write_eq_write (h : e.keepsContent revision = false) (s t : String) :
    e.write revision s = e.write revision t := by
  simp only [keepsContent, Bool.and_eq_false_iff, Bool.not_eq_false'] at h
  unfold Element.write
  rcases h with (hremove | hvoid) | hcontent
  · simp [hremove]
  · simp [hvoid]
  · cases hc : (revision.getD .none).content with
    | text | markup => simp [hc, ContentRevision.write]
    | _ => simp [hc] at hcontent

theorem keepsContent_none (e : Element) : e.keepsContent none = !isVoid e.label := by
  simp [keepsContent, Revision.none]

end Element

/-! ## Trees -/

namespace Node

variable {revisions : Revisions}

mutual

/-- Tables that agree on the elements that writing comes to lead to the same text. -/
theorem write_congr {other : Revisions} (verbatim : Bool) : ∀ n : Node,
    (∀ e ∈ n.visited revisions, revisions e.id = other e.id) →
      n.write revisions verbatim = n.write other verbatim
  | .element e children, h => by
    rw [visited, List.forall_mem_cons] at h
    obtain ⟨he, hchildren⟩ := h
    rw [write, write, ← he]
    cases hkeeps : e.keepsContent (revisions e.id) with
    | true =>
      rw [hkeeps, if_pos rfl] at hchildren
      rw [writeAll_congr _ children hchildren]
    | false => exact Element.write_eq_write hkeeps _ _
  | .fragment _, _ => by rw [write, write]
  | .text _, _ => by rw [write, write]
  | .comment _, _ => by rw [write, write]
  | .doctype _, _ => by rw [write, write]

theorem writeAll_congr {other : Revisions} (verbatim : Bool) : ∀ nodes : List Node,
    (∀ e ∈ visitedAll revisions nodes, revisions e.id = other e.id) →
      writeAll revisions verbatim nodes = writeAll other verbatim nodes
  | [], _ => by rw [writeAll, writeAll]
  | n :: rest, h => by
    rw [visitedAll, List.forall_mem_append] at h
    rw [writeAll, writeAll, write_congr verbatim n h.1, writeAll_congr verbatim rest h.2]

end

mutual

/-- Every element that writing comes to stands in the text under its revision. -/
theorem exists_write_eq {e : Element} (verbatim : Bool) : ∀ n : Node, e ∈ n.visited revisions →
    ∃ a kept b, n.write revisions verbatim = a ++ e.write (revisions e.id) kept ++ b
  | .element f children, h => by
    rw [visited, List.mem_cons] at h
    rw [write]
    rcases h with rfl | h
    · exact ⟨"", _, "", by rw [String.empty_append, String.append_empty]⟩
    · split at h
      · rename_i hkeeps
        obtain ⟨a, kept, b, hwrite⟩ :=
          exists_writeAll_eq (verbatimLabels.contains f.label) children h
        obtain ⟨start, stop, hf⟩ := Element.exists_write_eq hkeeps
        rw [hf, hwrite]
        exact ⟨start ++ a, kept, b ++ stop, by simp only [String.append_assoc]⟩
      · cases h
  | .fragment _, h => by simp [visited] at h
  | .text _, h => by simp [visited] at h
  | .comment _, h => by simp [visited] at h
  | .doctype _, h => by simp [visited] at h

theorem exists_writeAll_eq {e : Element} (verbatim : Bool) : ∀ nodes : List Node,
    e ∈ visitedAll revisions nodes →
      ∃ a kept b, writeAll revisions verbatim nodes = a ++ e.write (revisions e.id) kept ++ b
  | [], h => by simp [visitedAll] at h
  | n :: rest, h => by
    rw [visitedAll, List.mem_append] at h
    rw [writeAll]
    rcases h with h | h
    · obtain ⟨a, kept, b, hwrite⟩ := exists_write_eq verbatim n h
      exact ⟨a, kept, b ++ writeAll revisions verbatim rest, by
        rw [hwrite]
        simp only [String.append_assoc]⟩
    · obtain ⟨a, kept, b, hwrite⟩ := exists_writeAll_eq verbatim rest h
      exact ⟨write revisions verbatim n ++ a, kept, b, by
        rw [hwrite]
        simp only [String.append_assoc]⟩

end

mutual

/-- Writing comes to a revised element exactly if it would come to one without revisions: the outermost of
these is not cut off by another. -/
theorem exists_revised_iff : ∀ n : Node,
    (∃ e ∈ n.visited revisions, (revisions e.id).isSome = true) ↔
      ∃ e ∈ n.visited noRevisions, (revisions e.id).isSome = true
  | .element e children => by
    simp only [visited, List.mem_cons, exists_eq_or_imp]
    cases he : revisions e.id with
    | some r => simp
    | none =>
      have hkeeps : e.keepsContent (noRevisions e.id) = e.keepsContent none := rfl
      rw [hkeeps]
      split
      · simpa using exists_revisedAll_iff children
      · simp
  | .fragment _ => by simp [visited]
  | .text _ => by simp [visited]
  | .comment _ => by simp [visited]
  | .doctype _ => by simp [visited]

theorem exists_revisedAll_iff : ∀ nodes : List Node,
    (∃ e ∈ visitedAll revisions nodes, (revisions e.id).isSome = true) ↔
      ∃ e ∈ visitedAll noRevisions nodes, (revisions e.id).isSome = true
  | [] => by simp [visitedAll]
  | n :: rest => by
    simp only [visitedAll, List.mem_append, or_and_right, exists_or]
    rw [exists_revised_iff n, exists_revisedAll_iff rest]

end

end Node

/-! ## Where the written elements stand -/

namespace Place

/-- Whether what is at a place is written with what is in it if nothing is revised. -/
def isFilled (p : Place) : Bool := p.element?.any fun e => !isVoid e.label

/-- Whether an element stands at a place, and in nothing but elements that can have something in them. -/
def isWritten (p : Place) : Bool := p.node.isElement && p.ancestors.all isFilled

mutual

theorem filterMap_filter_under : ∀ (p : Place) (n : Node), p.node = n →
    ((under p n).filter isWritten).filterMap element? =
      if p.ancestors.all isFilled then n.visited noRevisions else []
  | p, .element e children, hn => by
    have helement : p.element? = some e := by rw [element?, hn, Node.element?]
    have hfilled : p.isFilled = e.keepsContent (noRevisions e.id) := by
      rw [isFilled, helement, noRevisions, Element.keepsContent_none, Option.any_some]
    have hwritten : p.isWritten = p.ancestors.all isFilled := by
      rw [isWritten, hn, Node.isElement, Node.element?, Option.isSome_some, Bool.true_and]
    rw [under, List.filter_cons, hwritten, Node.visited, ← hfilled]
    have hchildren := filterMap_filter_underAll (.inside p)
      (fun _ _ _ => (List.all_cons : (p :: p.ancestors).all isFilled = _)) (fun _ _ _ => rfl) [] children
    cases hall : p.ancestors.all isFilled with
    | true => simp [hchildren, hall, helement]
    | false => simp [hchildren, hall]
  | p, .fragment children, hn => by
    have hfilled : p.isFilled = false := by simp [isFilled, element?, hn, Node.element?]
    have hwritten : p.isWritten = false := by simp [isWritten, hn, Node.isElement, Node.element?]
    rw [under, List.filter_cons, hwritten]
    have hchildren := filterMap_filter_underAll (.inside p)
      (fun _ _ _ => (List.all_cons : (p :: p.ancestors).all isFilled = _)) (fun _ _ _ => rfl) [] children
    simp [Node.visited, hchildren, hfilled]
  | p, .text _, hn => by simp [under, Node.visited, isWritten, hn, Node.isElement, Node.element?]
  | p, .comment _, hn => by simp [under, Node.visited, isWritten, hn, Node.isElement, Node.element?]
  | p, .doctype _, hn => by simp [under, Node.visited, isWritten, hn, Node.isElement, Node.element?]

theorem filterMap_filter_underAll (make : List Node → Node → List Node → Place) {open? : Bool}
    (hmake : ∀ b n a, (make b n a).ancestors.all isFilled = open?) (hnode : ∀ b n a, (make b n a).node = n) :
    ∀ before nodes : List Node,
      ((underAll make before nodes).filter isWritten).filterMap element? =
        if open? then Node.visitedAll noRevisions nodes else []
  | _, [] => by simp [underAll, Node.visitedAll]
  | before, n :: rest => by
    rw [underAll, List.filter_append, List.filterMap_append,
      filterMap_filter_under (make before n rest) n (hnode before n rest), hmake,
      filterMap_filter_underAll make hmake hnode (n :: before) rest, Node.visitedAll]
    cases open? <;> rfl

end

end Place

/-- The elements of a document that are written if nothing is revised stand in it, and not in a tree that has
been cut off; around them there is neither the content of a template nor a void element. -/
theorem Document.written_eq (doc : Document) :
    doc.written = (doc.places.filter Place.isWritten).filterMap Place.element? :=
  (Place.filterMap_filter_underAll (.top .document) (fun _ _ _ => rfl) (fun _ _ _ => rfl) [] doc.nodes).symm

theorem Document.exists_mem_written_iff {doc : Document} {id : Nat} :
    (∃ e ∈ doc.written, e.id = id) ↔
      ∃ p ∈ doc.places, p.isWritten = true ∧ p.element?.map (·.id) = some id := by
  simp only [written_eq, List.mem_filterMap, List.mem_filter, Option.map_eq_some_iff]
  constructor
  · rintro ⟨e, ⟨p, ⟨hp, hwritten⟩, he⟩, hid⟩
    exact ⟨p, hp, hwritten, e, he, hid⟩
  · rintro ⟨p, hp, hwritten, e, he, hid⟩
    exact ⟨e, ⟨p, ⟨hp, hwritten⟩, he⟩, hid⟩

end PageEdit.Html
