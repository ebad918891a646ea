import PageEdit.Proofs.Html.Plain
import PageEdit.Proofs.Html.Shape

/-!
# Attributes out of order

An element keeps its attributes in the order of their names, so a start tag that has them in another order is not
written back as it was read. Nothing else is different: if their names are distinct, all of them are kept. A page
that is plain but for the order of attributes is read as the plain page that it comes to when they are put in order.

* `Element.attributes_ordered_perm`: putting attributes in order loses none.
* `Document.isSpelled`: whether a page is plain but for the order of attributes.
* `Document.shape_ordered`: the order has no part in the shape of a page.
* `Document.isSpelled_of_isPlain`, `Document.ordered_of_isPlain`: plain pages are in order.
-/

namespace PageEdit.Html

/-! ## Attributes in order -/

theorem insertAttr_perm {attr : Attr} {attrs : List Attr} (h : attr.name ∉ attrs.map (·.name)) :
    (insertAttr attr attrs).Perm (attr :: attrs) := by
  induction attrs with
  | nil => exact .refl _
  | cons a rest ih =>
    obtain ⟨hne, hrest⟩ := not_or.mp (mt List.mem_cons.mpr h)
    have hother : (attr.name == a.name) = false := beq_eq_false_iff_ne.mpr hne
    rw [insertAttr, hother, if_neg Bool.false_ne_true]
    split
    · exact .refl _
    · exact ((ih hrest).cons a).trans (.swap attr a rest)

theorem mergeAttrs_perm {attrs more : List Attr} (h : ((attrs ++ more).map (·.name)).Nodup) :
    (mergeAttrs attrs more).Perm (attrs ++ more) := by
  induction more generalizing attrs with
  | nil => rw [List.append_nil]; exact .refl _
  | cons a rest ih =>
    have hmiddle : (attrs ++ a :: rest).Perm ((a :: attrs) ++ rest) := List.perm_middle
    have hnodup : (((a :: attrs) ++ rest).map (·.name)).Nodup := (hmiddle.map _).nodup_iff.mp h
    have hnew : a.name ∉ attrs.map (·.name) := by
      rw [List.cons_append, List.map_cons, List.nodup_cons, List.map_append] at hnodup
      exact fun hmem => hnodup.1 (List.mem_append_left _ hmem)
    have hinsert : (insertAttr a attrs ++ rest).Perm ((a :: attrs) ++ rest) := (insertAttr_perm hnew).append_right rest
    have hrest := ih ((hinsert.map (·.name)).nodup_iff.mpr hnodup)
    exact hrest.trans (hinsert.trans hmiddle.symm)

namespace Element

variable {e : Element}

/-- An element as it is read from its start tag: with its attributes in order. -/
def ordered (e : Element) : Element := { e with attrs := Foreign.attrs .html e.tag }

/-- Whether no two attributes of an element have the same name in full. -/
def hasDistinctNames (e : Element) : Bool := decide (e.attributes.map (·.1)).Nodup

theorem attributes_ordered_perm (h : e.hasDistinctNames = true) : e.ordered.attributes.Perm e.attributes := by
  have hnodup : (e.attributes.map (·.1)).Nodup := of_decide_eq_true h
  let plain : String × String → Attr := fun a => ⟨.plain a.1, a.2⟩
  have hplain : ∀ a, ((plain a).name.text, (plain a).value) = a := fun _ => rfl
  have hnames : ((e.attributes.map plain).map (·.name)).Nodup := by
    have hmap : (e.attributes.map plain).map (·.name) = (e.attributes.map (·.1)).map AttrName.plain := by
      rw [List.map_map, List.map_map]
      rfl
    rw [hmap]
    exact hnodup.map fun a b hab => congrArg AttrName.label hab
  have hattrs : e.ordered.attrs.Perm (e.attributes.map plain) := mergeAttrs_perm hnames
  have hback := hattrs.map fun a => (a.name.text, a.value)
  rw [List.map_map] at hback
  exact hback.trans (.of_eq (List.map_id' _))

theorem look_ordered (h : e.hasDistinctNames = true) : e.ordered.look = e.look := by
  have hperm := attributes_ordered_perm h
  have hnodup : (e.ordered.attributes.map (·.1)).Nodup := (hperm.map _).nodup_iff.mpr (of_decide_eq_true h)
  refine Look.of_eq_iff_sameAt.mpr fun n => Look.sameAt_of_valueAt_eq (valueAt_perm hperm hnodup n)

/-- Whether the start tag of an element is read back but for the order of its attributes. -/
def isSpelled (e : Element) : Bool := e.ordered.isPlain && e.hasDistinctNames

theorem ordered_of_isPlain (h : e.isPlain = true) : e.ordered = e := by
  simp only [isPlain, Bool.and_eq_true, beq_iff_eq] at h
  rw [ordered, h.2]

theorem hasDistinctNames_of_isPlain (h : e.isPlain = true) : e.hasDistinctNames = true := by
  simp only [isPlain, Bool.and_eq_true] at h
  exact h.1.2

end Element

/-! ## Trees in order -/

namespace Node

mutual

/-- A tree with the attributes of its elements in order. -/
def ordered : Node → Node
  | .element e children => .element e.ordered (orderedAll children)
  | .fragment children => .fragment (orderedAll children)
  | .text s => .text s
  | .comment s => .comment s
  | .doctype name => .doctype name

/-- Some trees with the attributes of their elements in order. -/
def orderedAll : List Node → List Node
  | [] => []
  | n :: rest => ordered n :: orderedAll rest

end

/-- Whether no element of some trees has two attributes of the same name. -/
def haveDistinctNames (nodes : List Node) : Bool := (elementsAll nodes).all Element.hasDistinctNames

theorem haveDistinctNames_cons {n : Node} {rest : List Node} : haveDistinctNames (n :: rest) = true ↔
    haveDistinctNames [n] = true ∧ haveDistinctNames rest = true := by
  simp [haveDistinctNames, elementsAll]

theorem haveDistinctNames_element {e : Element} {children : List Node} :
    haveDistinctNames [.element e children] = true ↔
      e.hasDistinctNames = true ∧ haveDistinctNames children = true := by
  simp [haveDistinctNames, elementsAll, elements]

theorem haveDistinctNames_fragment {children : List Node} :
    haveDistinctNames [.fragment children] = haveDistinctNames children := by
  simp [haveDistinctNames, elementsAll, elements]

mutual

theorem shapeBefore_ordered : ∀ (later : Shape) (n : Node), haveDistinctNames [n] = true →
    n.ordered.shapeBefore later = n.shapeBefore later
  | later, .element e children, h => by
    obtain ⟨he, hchildren⟩ := haveDistinctNames_element.mp h
    rw [ordered, shapeBefore, shapeBefore, shapeAll_orderedAll children hchildren, Element.look_ordered he]
  | later, .fragment children, h => by
    rw [haveDistinctNames_fragment] at h
    rw [ordered, shapeBefore, shapeBefore, shapeAll_orderedAll children h]
  | _, .text _, _ | _, .comment _, _ | _, .doctype _, _ => by rw [ordered]

theorem shapeAll_orderedAll : ∀ nodes : List Node, haveDistinctNames nodes = true →
    shapeAll (orderedAll nodes) = shapeAll nodes
  | [], _ => rfl
  | n :: rest, h => by
    obtain ⟨hn, hrest⟩ := haveDistinctNames_cons.mp h
    rw [orderedAll, shapeAll, shapeAll, shapeAll_orderedAll rest hrest, shapeBefore_ordered _ n hn]

end

theorem startsLine_orderedAll (nodes : List Node) : startsLine (orderedAll nodes) = startsLine nodes := by
  cases nodes with
  | nil => rfl
  | cons n rest => cases n <;> rfl

theorem orderedAll_eq_nil_iff {nodes : List Node} : orderedAll nodes = [] ↔ nodes = [] := by
  cases nodes with
  | nil => exact iff_of_true rfl rfl
  | cons n rest => simp [orderedAll]

/-- Raw text has no attributes. -/
theorem orderedAll_of_isRawContent {kind : RawKind} {label : String} {nodes : List Node}
    (h : isRawContent kind label (orderedAll nodes) = true) : orderedAll nodes = nodes := by
  cases nodes with
  | nil => rfl
  | cons n rest =>
    cases n with
    | text s =>
      cases rest with
      | nil => rfl
      | cons m more => cases h
    | _ => cases h

theorem orderedAll_of_comments {nodes : List Node} (h : (orderedAll nodes).all isPlainComment = true) :
    orderedAll nodes = nodes := by
  induction nodes with
  | nil => rfl
  | cons n rest ih =>
    simp only [orderedAll, List.all_cons, Bool.and_eq_true] at h
    rw [orderedAll, ih h.2]
    cases n with
    | comment => rfl
    | _ => cases h.1

/-! ## Plain trees are in order -/

/-- Whether the elements of some trees have attributes in order, and with distinct names. -/
def AreOrdered (nodes : List Node) : Prop := orderedAll nodes = nodes ∧ haveDistinctNames nodes = true

namespace AreOrdered

variable {n : Node} {rest children : List Node}

theorem nil : AreOrdered [] := ⟨rfl, rfl⟩

theorem cons (hn : AreOrdered [n]) (hrest : AreOrdered rest) : AreOrdered (n :: rest) := by
  have hfirst : n.ordered = n := (List.cons.inj hn.1).1
  exact ⟨by rw [orderedAll, hfirst, hrest.1], haveDistinctNames_cons.mpr ⟨hn.2, hrest.2⟩⟩

theorem element {e : Element} (he : e.isPlain = true) (h : AreOrdered children) :
    AreOrdered [.element e children] := by
  refine ⟨?_, haveDistinctNames_element.mpr ⟨Element.hasDistinctNames_of_isPlain he, h.2⟩⟩
  rw [orderedAll, ordered, Element.ordered_of_isPlain he, h.1]
  rfl

end AreOrdered

theorem areOrdered_of_isRawContent {kind : RawKind} {label : String} {nodes : List Node}
    (h : isRawContent kind label nodes = true) : AreOrdered nodes := by
  unfold isRawContent at h
  split at h
  · exact ⟨rfl, rfl⟩
  · exact ⟨rfl, rfl⟩
  · cases h

mutual

theorem areOrdered_of_isPlain : ∀ (n : Node) {path : List String}, n.isPlain path = true → AreOrdered [n]
  | .text _, _, _ | .comment _, _, _ => ⟨rfl, rfl⟩
  | .doctype _, _, h | .fragment _, _, h => nomatch h
  | .element e children, path, h => by
    simp only [isPlain, Bool.and_eq_true] at h
    obtain ⟨⟨he, -⟩, hrest⟩ := h
    refine .element he ?_
    split at hrest
    · obtain rfl := List.isEmpty_iff.mp (Bool.and_eq_true_iff.mp hrest).2
      exact .nil
    split at hrest
    · exact areOrdered_of_isRawContent (Bool.and_eq_true_iff.mp hrest).2
    · exact areOrdered_of_isPlainAll children (Bool.and_eq_true_iff.mp hrest).2

theorem areOrdered_of_isPlainAll : ∀ (nodes : List Node) {path : List String}, isPlainAll path nodes = true →
    AreOrdered nodes
  | [], _, _ => .nil
  | n :: rest, path, h => by
    simp only [isPlainAll, Bool.and_eq_true] at h
    exact (areOrdered_of_isPlain n h.1).cons (areOrdered_of_isPlainAll rest h.2)

end

theorem areOrdered_of_isPlainComment {n : Node} (h : n.isPlainComment = true) : AreOrdered [n] := by
  cases n with
  | comment => exact ⟨rfl, rfl⟩
  | _ => cases h

theorem areOrdered_of_comments {nodes : List Node} (h : nodes.all isPlainComment = true) : AreOrdered nodes := by
  induction nodes with
  | nil => exact .nil
  | cons n rest ih =>
    simp only [List.all_cons, Bool.and_eq_true] at h
    exact (areOrdered_of_isPlainComment h.1).cons (ih h.2)

theorem areOrdered_of_isPlainRest {nodes : List Node} (h : isPlainRest nodes = true) : AreOrdered nodes := by
  induction nodes with
  | nil => cases h
  | cons n rest ih =>
    cases n with
    | element e children =>
      simp only [isPlainRest, Bool.and_eq_true] at h
      obtain ⟨⟨⟨-, he⟩, hchildren⟩, hrest⟩ := h
      exact (AreOrdered.element he (areOrdered_of_isPlainAll children hchildren)).cons (areOrdered_of_comments hrest)
    | _ =>
      simp only [isPlainRest, Bool.and_eq_true] at h
      exact (areOrdered_of_isPlain _ h.1).cons (ih h.2)

theorem areOrdered_of_isPlainRoot {nodes : List Node} (h : isPlainRoot nodes = true) : AreOrdered nodes := by
  induction nodes with
  | nil => cases h
  | cons n rest ih =>
    cases n with
    | element e children =>
      simp only [isPlainRoot, Bool.and_eq_true] at h
      obtain ⟨⟨⟨-, he⟩, hchildren⟩, hrest⟩ := h
      exact (AreOrdered.element he (areOrdered_of_isPlainAll children hchildren)).cons
        (areOrdered_of_isPlainRest hrest)
    | _ =>
      simp only [isPlainRoot, Bool.and_eq_true] at h
      exact (areOrdered_of_isPlainComment h.1).cons (ih h.2)

/-- In the shape of nodes side by side one can stand for another of the same shape. -/
theorem shapeAll_append_cons {m n : Node} (h : ∀ later, m.shapeBefore later = n.shapeBefore later)
    (before after : List Node) : shapeAll (before ++ m :: after) = shapeAll (before ++ n :: after) := by
  induction before with
  | nil => exact h _
  | cons first before ih => rw [List.cons_append, List.cons_append, shapeAll, shapeAll, ih]

end Node

/-! ## Documents in order -/

namespace Document

variable {doc : Document}

/-- A document with the attributes in the root element, and of this itself, in order. -/
def ordered (doc : Document) : Document :=
  { doc with rootAttrs := doc.rootElement.ordered.attrs, children := Node.orderedAll doc.children }

/-- Whether a page is read back as it is written but for the order of attributes. -/
def isSpelled (doc : Document) : Bool :=
  doc.ordered.isPlain && Node.haveDistinctNames [doc.root] && !(doc.write noRevisions).toList.contains '\r'

theorem isPlain_of_isSpelled (h : doc.isSpelled = true) : doc.ordered.isPlain = true := by
  simp only [isSpelled, Bool.and_eq_true] at h
  exact h.1.1

theorem root_ordered (doc : Document) : doc.ordered.root = doc.root.ordered := by
  rw [root, root, Node.ordered]
  rfl

/-- The order of attributes has no part in the shape of a document. -/
theorem shape_ordered (h : doc.isSpelled = true) : doc.ordered.shape = doc.shape := by
  simp only [isSpelled, Bool.and_eq_true] at h
  rw [shape, shape, nodes, nodes, root_ordered]
  exact Node.shapeAll_append_cons (fun later => Node.shapeBefore_ordered later doc.root h.1.2) doc.before doc.after

theorem areOrdered_of_isPlain (h : doc.isPlain = true) : Node.AreOrdered [doc.root] := by
  simp only [isPlain, Bool.and_eq_true] at h
  obtain ⟨⟨⟨⟨-, hroot⟩, hchildren⟩, -⟩, -⟩ := h
  exact .element hroot (Node.areOrdered_of_isPlainRoot hchildren)

/-- In a plain document attributes are in order. -/
theorem ordered_of_isPlain (h : doc.isPlain = true) : doc.ordered = doc := by
  have hroot : doc.root.ordered = doc.root := (List.cons.inj (areOrdered_of_isPlain h).1).1
  rw [root, Node.ordered] at hroot
  obtain ⟨helement, hchildren⟩ := Node.element.inj hroot
  rw [ordered, helement, hchildren]
  rfl

theorem isSpelled_of_isPlain (h : doc.isPlain = true) : doc.isSpelled = true := by
  have hline : (!(doc.write noRevisions).toList.contains '\r') = true := by
    simp only [isPlain, Bool.and_eq_true] at h
    exact h.2
  rw [isSpelled, ordered_of_isPlain h, h, (areOrdered_of_isPlain h).2, hline]
  rfl

end Document

end PageEdit.Html
