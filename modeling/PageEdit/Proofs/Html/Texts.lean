import PageEdit.Proofs.Html.Writing

/-!
# Text as a revision and text as a node

An element gets new text in two ways: a revision says so while the document is written, or the document has the text as
the only node in the element. A revision's text is always written with references. A text node is written so too, but
not in elements such as `style`, in which browsers know no references and text is written as it is. There the two ways
part, as soon as the text has a character that needs a reference.

* `Node.write_withText`: the two ways agree wherever no such element gets such a text.
* `Node.length_write_textRevision`: by how much the texts differ otherwise.
* `new_text_is_written_as_a_node`: exactly when the two ways agree, for every document, element and text.
* `new_text_is_escaped_in_style`: an element where they do not.
-/

namespace PageEdit.Html

/-! ## References in text -/

theorem textEscapes_eq_none_iff {c : Char} : textEscapes c = none ↔ c ≠ '&' ∧ c ≠ '<' ∧ c ≠ '>' := by
  unfold textEscapes
  split
  · simp
  · simp
  · simp
  · next hamp hless hgreater => exact ⟨fun _ => ⟨hamp, hless, hgreater⟩, fun _ => rfl⟩

theorem length_textEscapes {c : Char} {reference : String} (h : textEscapes c = some reference) :
    1 < reference.toList.length := by
  unfold textEscapes at h
  split at h
  · cases h
    decide
  · cases h
    decide
  · cases h
    decide
  · cases h

theorem escapeChars_eq_self {s : List Char} (h : ∀ c ∈ s, textEscapes c = none) : escapeChars textEscapes s = s := by
  induction s with
  | nil => rfl
  | cons c s ih =>
    obtain ⟨hc, hs⟩ := List.forall_mem_cons.mp h
    rw [escapeChars, hc, ih hs]
    rfl

theorem length_le_escapeChars (s : List Char) : s.length ≤ (escapeChars textEscapes s).length := by
  induction s with
  | nil => exact Nat.le_refl 0
  | cons c s ih =>
    rw [escapeChars, List.length_append, List.length_cons]
    cases hc : textEscapes c with
    | none =>
      rw [Option.map_none, Option.getD_none, List.length_singleton]
      omega
    | some reference =>
      have := length_textEscapes hc
      rw [Option.map_some, Option.getD_some]
      omega

theorem length_lt_escapeChars {s : List Char} (h : ∃ c ∈ s, textEscapes c ≠ none) :
    s.length < (escapeChars textEscapes s).length := by
  obtain ⟨c, hc, hescape⟩ := h
  obtain ⟨before, behind, rfl⟩ := List.append_of_mem hc
  obtain ⟨reference, hreference⟩ := Option.ne_none_iff_exists'.mp hescape
  have hlong := length_textEscapes hreference
  have hbefore := length_le_escapeChars before
  have hbehind := length_le_escapeChars behind
  rw [escapeChars_append, escapeChars, hreference, Option.map_some, Option.getD_some]
  simp only [List.length_append, List.length_cons]
  omega

/-- Whether a text is the same with references and without. -/
def KeepsText (text : String) : Prop := ∀ c ∈ text.toList, c ≠ '&' ∧ c ≠ '<' ∧ c ≠ '>'

theorem writeText_eq_self {text : String} (h : KeepsText text) : writeText text = text := by
  rw [writeText, escape, escapeChars_eq_self fun c hc => textEscapes_eq_none_iff.mpr (h c hc), String.ofList_toList]

theorem length_le_writeText (text : String) : text.length ≤ (writeText text).length := by
  rw [writeText, escape, String.length_ofList, ← String.length_toList]
  exact length_le_escapeChars _

theorem length_lt_writeText {text : String} (h : ¬ KeepsText text) : text.length < (writeText text).length := by
  rw [writeText, escape, String.length_ofList, ← String.length_toList]
  refine length_lt_escapeChars ?_
  rw [KeepsText, Classical.not_forall] at h
  obtain ⟨c, hc⟩ := h
  obtain ⟨hmem, hspecial⟩ := Classical.not_imp.mp hc
  exact ⟨c, hmem, fun hnone => hspecial (textEscapes_eq_none_iff.mp hnone)⟩

/-! ## The two ways -/

/-- The table that gives new text to the element with a number. -/
def textRevision (id : Nat) (text : String) : Revisions :=
  fun i => if i = id then some ⟨false, none, .text text⟩ else none

namespace Node

mutual

/-- A tree in which the element with a number has nothing in it but a text. -/
def withText (id : Nat) (text : String) : Node → Node
  | .element e children => .element e (if e.id = id then [.text text] else withTextAll id text children)
  | .fragment children => .fragment (withTextAll id text children)
  | .text s => .text s
  | .comment s => .comment s
  | .doctype name => .doctype name

/-- Some trees in which the element with a number has nothing in it but a text. -/
def withTextAll (id : Nat) (text : String) : List Node → List Node
  | [] => []
  | n :: rest => withText id text n :: withTextAll id text rest

end

theorem withTextAll_append (id : Nat) (text : String) (ns ms : List Node) :
    withTextAll id text (ns ++ ms) = withTextAll id text ns ++ withTextAll id text ms := by
  induction ns with
  | nil => rfl
  | cons n ns ih => rw [List.cons_append, withTextAll, ih, withTextAll, List.cons_append]

end Node

/-- A document in which the element with a number has nothing in it but a text. -/
def Document.withText (id : Nat) (text : String) (doc : Document) : Document :=
  { doc with
    before := Node.withTextAll id text doc.before
    children := if doc.rootId = id then [.text text] else Node.withTextAll id text doc.children
    after := Node.withTextAll id text doc.after
    loose := Node.withTextAll id text doc.loose }

theorem Document.nodes_withText (id : Nat) (text : String) (doc : Document) :
    (doc.withText id text).nodes = Node.withTextAll id text doc.nodes := by
  rw [nodes, nodes, Node.withTextAll_append, Node.withTextAll, root, root, Node.withText]
  rfl

/-- Whether an element has a number and its text is written as it is. -/
def Element.isVerbatimAt (id : Nat) (e : Element) : Bool := e.id == id && verbatimLabels.contains e.label

theorem Element.isVerbatimAt_of_id {id : Nat} {e : Element} (h : e.id = id) :
    e.isVerbatimAt id = verbatimLabels.contains e.label := by
  rw [isVerbatimAt, h, beq_self_eq_true, Bool.true_and]

theorem isVoid_of_verbatim {label : String} (h : verbatimLabels.contains label = true) : isVoid label = false := by
  have hall : (verbatimLabels.all fun label => !isVoid label) = true := by decide
  have := List.all_eq_true.mp hall label (List.contains_iff_mem.mp h)
  simpa using this

namespace Node

variable {id : Nat} {text : String}

theorem writeAll_text (verbatim : Bool) :
    writeAll noRevisions verbatim [.text text] = if verbatim then text else writeText text := by
  rw [writeAll, writeAll, write, String.append_empty]

theorem textRevision_self {e : Element} (h : e.id = id) :
    textRevision id text e.id = some ⟨false, none, .text text⟩ := if_pos h

theorem textRevision_of_ne {e : Element} (h : e.id ≠ id) : textRevision id text e.id = none := if_neg h

theorem visited_textRevision {e : Element} {children : List Node} (h : e.id = id) :
    (Node.element e children).visited (textRevision id text) = [e] := by
  rw [visited, textRevision_self h]
  simp [Element.keepsContent]

/-- The two ways of writing the element that gets the text. -/
theorem write_element_withText {e : Element} (h : e.id = id) (verbatim : Bool) (children : List Node) :
    ((Node.element e children).withText id text).write noRevisions verbatim =
      if isVoid e.label then writeStart e.label e.attributes
      else writeStart e.label e.attributes ++
        (if verbatimLabels.contains e.label then text else writeText text) ++ writeEnd e.label := by
  rw [withText, if_pos h, write, writeAll_text]
  rfl

theorem write_element_textRevision {e : Element} (h : e.id = id) (verbatim : Bool) (children : List Node) :
    (Node.element e children).write (textRevision id text) verbatim =
      if isVoid e.label then writeStart e.label e.attributes
      else writeStart e.label e.attributes ++ writeText text ++ writeEnd e.label := by
  rw [write, textRevision_self h]
  rfl

mutual

/-- The two ways agree if no element whose text is written as it is gets a text that needs references. -/
theorem write_withText (verbatim : Bool) : ∀ n : Node,
    (∀ e ∈ n.visited (textRevision id text), e.isVerbatimAt id = true → KeepsText text) →
      (n.withText id text).write noRevisions verbatim = n.write (textRevision id text) verbatim
  | .element e children, h => by
    by_cases he : e.id = id
    · rw [visited_textRevision he, List.forall_mem_singleton] at h
      rw [write_element_withText he, write_element_textRevision he]
      cases hverbatim : verbatimLabels.contains e.label with
      | false => rfl
      | true => rw [writeText_eq_self (h ((Element.isVerbatimAt_of_id he).trans hverbatim)), if_pos rfl]
    · rw [visited, textRevision_of_ne he, List.forall_mem_cons] at h
      rw [withText, if_neg he, write, write, textRevision_of_ne he]
      cases hkeeps : e.keepsContent none with
      | true =>
        rw [hkeeps, if_pos rfl] at h
        rw [writeAll_withText _ children h.2]
        rfl
      | false => exact Element.write_eq_write hkeeps _ _
  | .fragment _, _ => by rw [withText, write, write]
  | .text _, _ => by rw [withText, write, write]
  | .comment _, _ => by rw [withText, write, write]
  | .doctype _, _ => by rw [withText, write, write]

theorem writeAll_withText (verbatim : Bool) : ∀ nodes : List Node,
    (∀ e ∈ visitedAll (textRevision id text) nodes, e.isVerbatimAt id = true → KeepsText text) →
      writeAll noRevisions verbatim (withTextAll id text nodes) = writeAll (textRevision id text) verbatim nodes
  | [], _ => by rw [withTextAll, writeAll, writeAll]
  | n :: rest, h => by
    rw [visitedAll, List.forall_mem_append] at h
    rw [withTextAll, writeAll, writeAll, write_withText verbatim n h.1, writeAll_withText verbatim rest h.2]

end

/-- By how much a text is longer with references. -/
def surplus (text : String) : Nat := (writeText text).length - text.length

mutual

/-- The two ways differ in length by the surplus of the text for each element that gets it and is written as it is. -/
theorem length_write_textRevision (verbatim : Bool) : ∀ n : Node,
    (n.write (textRevision id text) verbatim).length = ((n.withText id text).write noRevisions verbatim).length +
      (n.visited (textRevision id text)).countP (Element.isVerbatimAt id) * surplus text
  | .element e children => by
    by_cases he : e.id = id
    · rw [visited_textRevision he, write_element_withText he, write_element_textRevision he, List.countP_singleton,
        Element.isVerbatimAt_of_id he]
      cases hverbatim : verbatimLabels.contains e.label with
      | false => rw [if_neg Bool.false_ne_true, if_neg Bool.false_ne_true, Nat.zero_mul, Nat.add_zero]
      | true =>
        have hlength := length_le_writeText text
        simp only [isVoid_of_verbatim hverbatim, Bool.false_eq_true, if_true, if_false, String.length_append, surplus]
        omega
    · rw [visited, textRevision_of_ne he, withText, if_neg he, write, write, textRevision_of_ne he,
        List.countP_cons_of_neg (by simp [Element.isVerbatimAt, he])]
      cases hkeeps : e.keepsContent none with
      | true =>
        obtain ⟨a, b, hwrite⟩ := Element.exists_write_eq hkeeps
        have hchildren := length_writeAll_textRevision (verbatimLabels.contains e.label) children
        have hnone : noRevisions e.id = none := rfl
        rw [if_pos rfl, hnone, hwrite, hwrite]
        simp only [String.length_append]
        omega
      | false =>
        rw [if_neg Bool.false_ne_true, List.countP_nil, Nat.zero_mul, Nat.add_zero]
        exact congrArg String.length (Element.write_eq_write hkeeps _ _)
  | .fragment _ => by simp [withText, write, visited]
  | .text _ => by simp [withText, write, visited]
  | .comment _ => by simp [withText, write, visited]
  | .doctype _ => by simp [withText, write, visited]

theorem length_writeAll_textRevision (verbatim : Bool) : ∀ nodes : List Node,
    (writeAll (textRevision id text) verbatim nodes).length =
      (writeAll noRevisions verbatim (withTextAll id text nodes)).length +
        (visitedAll (textRevision id text) nodes).countP (Element.isVerbatimAt id) * surplus text
  | [] => by simp [withTextAll, writeAll, visitedAll]
  | n :: rest => by
    have hn := length_write_textRevision verbatim n
    have hrest := length_writeAll_textRevision verbatim rest
    rw [withTextAll, writeAll, writeAll, visitedAll, List.countP_append, String.length_append, String.length_append,
      Nat.add_mul]
    omega

end

end Node

/-! ## Main statement -/

/-- A document in which an element gets new text by a revision is written as the document that has the text as the only
node in the element, unless the element is written, its text is written as it is, and the new text has a character that
needs a reference; and then it never is. -/
theorem new_text_is_written_as_a_node (doc : Document) (id : Nat) (text : String) :
    doc.write (textRevision id text) = (doc.withText id text).write noRevisions ↔
      ∀ e ∈ doc.visited (textRevision id text), e.id = id → e.label ∈ verbatimLabels →
        ∀ c ∈ text.toList, c ≠ '&' ∧ c ≠ '<' ∧ c ≠ '>' := by
  have hverbatim : ∀ e : Element, e.isVerbatimAt id = true ↔ e.id = id ∧ e.label ∈ verbatimLabels := by
    intro e
    rw [Element.isVerbatimAt, Bool.and_eq_true, beq_iff_eq, List.contains_iff_mem]
  rw [Document.write, Document.write, Document.nodes_withText]
  constructor
  · refine fun heq e he hid hlabel => Classical.byContradiction fun hspecial => ?_
    -- the element that gets the text makes what is written longer
    have hcount : 0 < (doc.visited (textRevision id text)).countP (Element.isVerbatimAt id) :=
      List.countP_pos_iff.mpr ⟨e, he, (hverbatim e).mpr ⟨hid, hlabel⟩⟩
    have hsurplus : 0 < Node.surplus text := Nat.sub_pos_of_lt (length_lt_writeText hspecial)
    have hpos := Nat.mul_pos hcount hsurplus
    rw [Document.visited] at hpos
    have hlength : (Node.writeAll (textRevision id text) false doc.nodes).length = _ :=
      Node.length_writeAll_textRevision false doc.nodes
    rw [heq] at hlength
    omega
  · intro h
    refine (Node.writeAll_withText false doc.nodes fun e he hat => ?_).symm
    obtain ⟨hid, hlabel⟩ := (hverbatim e).mp hat
    exact h e he hid hlabel

/-- A style sheet with a child selector. As a revision it is written with a reference, as a node it is not. -/
theorem new_text_is_escaped_in_style :
    let style : Element := ⟨2, .html "style", []⟩
    let head : Node := .element ⟨1, .html "head", []⟩ [.element style []]
    let body : Node := .element ⟨3, .html "body", []⟩ []
    let doc : Document := ⟨[], 0, [], [head, body], [], []⟩
    let text := "a > b"
    style ∈ doc.written ∧ isVoid style.label = false ∧
      doc.write (textRevision style.id text) = "<html><head><style>a &gt; b</style></head><body></body></html>" ∧
      (doc.withText style.id text).write noRevisions =
        "<html><head><style>a > b</style></head><body></body></html>" ∧
      doc.write (textRevision style.id text) ≠ (doc.withText style.id text).write noRevisions := by
  decide +kernel

end PageEdit.Html
