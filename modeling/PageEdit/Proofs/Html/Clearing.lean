import PageEdit.Html.Content
import PageEdit.Proofs.Html.Around

/-!
# Documents without scripts

Scripts, styles and what stands in for scripts can be deleted from a tree with all that is in them, texts beside
them staying apart. The text of what is left is as it was. To compare documents, the ones below the body are
deleted and the elements lose their numbers, which tell in which order reading made them and so depend on what
has been deleted.

* `Node.runs_cleared`, `Node.runs_unnumbered`: the text of a tree.
* `Document.told_remaining`: what is told of the nodes that are left depends only on what is left.
-/

namespace PageEdit.Html

/-- An element without its number. -/
def Element.unnumbered (e : Element) : Element := { e with id := 0 }

namespace Node

/-- Whether a node is a script, a style or what stands in for scripts. -/
def isSkipped : Node → Bool
  | .element e _ => Html.isSkipped e.label
  | _ => false

mutual

/-- A node with no scripts, styles or what stands in for scripts in it. -/
def cleared : Node → Node
  | .element e children => .element e (clearedAll children)
  | .fragment children => .fragment (clearedAll children)
  | .text s => .text s
  | .comment s => .comment s
  | .doctype name => .doctype name

/-- Some nodes without these among them and in them. -/
def clearedAll : List Node → List Node
  | [] => []
  | n :: rest => if n.isSkipped then clearedAll rest else cleared n :: clearedAll rest

end

mutual

/-- A node in which no element has a number. -/
def unnumbered : Node → Node
  | .element e children => .element e.unnumbered (unnumberedAll children)
  | .fragment children => .fragment (unnumberedAll children)
  | .text s => .text s
  | .comment s => .comment s
  | .doctype name => .doctype name

/-- Some nodes in which no element has a number. -/
def unnumberedAll : List Node → List Node
  | [] => []
  | n :: rest => unnumbered n :: unnumberedAll rest

end

mutual

/-- The nodes of a tree in document order, without those below the first that are passed over, and without all
that is in these. -/
def within (passed : Node → Bool) : Node → List Node
  | .element e children => .element e children :: withinAll passed children
  | .fragment children => .fragment children :: withinAll passed children
  | .text s => [.text s]
  | .comment s => [.comment s]
  | .doctype name => [.doctype name]

/-- The nodes of some trees. -/
def withinAll (passed : Node → Bool) : List Node → List Node
  | [] => []
  | n :: rest => if passed n then withinAll passed rest else within passed n ++ withinAll passed rest

end

/-- A node with other content, if it can have any. -/
def withContent (content : List Node) : Node → Node
  | .element e _ => .element e content
  | .fragment _ => .fragment content
  | n => n

/-- What is told of a node: the element that it is, and its text. -/
def told (n : Node) : Option Element × String := (n.element?.map Element.unnumbered, n.textContent)

/-! ## The text of a tree -/

theorem isSkipped_cleared (n : Node) : n.cleared.isSkipped = n.isSkipped := by
  cases n <;> simp [cleared, isSkipped]

theorem isSkipped_unnumbered (n : Node) : n.unnumbered.isSkipped = n.isSkipped := by
  cases n <;> simp [unnumbered, isSkipped, Element.unnumbered]

theorem runs_of_isSkipped {n : Node} (h : n.isSkipped = true) : n.runs = [] := by
  cases n with
  | element e children =>
    have hskipped : Html.isSkipped e.label = true := h
    rw [runs, if_pos hskipped]
  | _ => cases h

mutual

theorem runs_cleared : ∀ n : Node, n.cleared.runs = n.runs
  | .element e children => by rw [cleared, runs, runs, runsAll_clearedAll children]
  | .fragment children => by simp only [cleared, runs]
  | .text s => by rw [cleared]
  | .comment s => by rw [cleared]
  | .doctype name => by rw [cleared]

theorem runsAll_clearedAll : ∀ nodes : List Node, runsAll (clearedAll nodes) = runsAll nodes
  | [] => by rw [clearedAll]
  | n :: rest => by
    rw [clearedAll, runsAll]
    split
    · next hskipped => rw [runsAll_clearedAll rest, runs_of_isSkipped hskipped, List.nil_append]
    · rw [runsAll, runs_cleared n, runsAll_clearedAll rest]

end

mutual

theorem runs_unnumbered : ∀ n : Node, n.unnumbered.runs = n.runs
  | .element e children => by
    rw [unnumbered, runs, runs, runsAll_unnumberedAll children]
    rfl
  | .fragment children => by simp only [unnumbered, runs]
  | .text s => by rw [unnumbered]
  | .comment s => by rw [unnumbered]
  | .doctype name => by rw [unnumbered]

theorem runsAll_unnumberedAll : ∀ nodes : List Node, runsAll (unnumberedAll nodes) = runsAll nodes
  | [] => by rw [unnumberedAll]
  | n :: rest => by rw [unnumberedAll, runsAll, runsAll, runs_unnumbered n, runsAll_unnumberedAll rest]

end

theorem runsAll_append (ns ms : List Node) : runsAll (ns ++ ms) = runsAll ns ++ runsAll ms := by
  induction ns with
  | nil => rfl
  | cons n ns ih => rw [List.cons_append, runsAll, ih, runsAll, List.append_assoc]

theorem runs_withContent {n : Node} {content : List Node} (h : runsAll content = runsAll n.children) :
    (n.withContent content).runs = n.runs := by
  cases n with
  | element e children =>
    have hchildren : runsAll content = runsAll children := h
    rw [withContent, runs, runs, hchildren]
  | _ => simp only [withContent, runs]

theorem element?_withContent (n : Node) (content : List Node) :
    (n.withContent content).element? = n.element? := by
  cases n <;> rfl

theorem element?_cleared (n : Node) : n.cleared.element? = n.element? := by
  cases n <;> rw [cleared] <;> rfl

theorem element?_unnumbered (n : Node) : n.unnumbered.element? = n.element?.map Element.unnumbered := by
  cases n <;> rw [unnumbered] <;> rfl

/-! ## What is told of the nodes of a tree -/

/-- Nodes are told alike that have the same text and are the same element but for its number. -/
theorem told_eq {n m : Node} (helement : n.element?.map Element.unnumbered = m.element?.map Element.unnumbered)
    (hruns : n.runs = m.runs) : n.told = m.told := by
  rw [told, told, textContent, textContent, helement, hruns]

theorem told_cleared (n : Node) : n.cleared.told = n.told :=
  told_eq (by rw [element?_cleared]) (runs_cleared n)

theorem told_unnumbered (n : Node) : n.unnumbered.told = n.told :=
  told_eq (by rw [element?_unnumbered, Option.map_map]; rfl) (runs_unnumbered n)

section Passed

variable {passed : Node → Bool}

mutual

theorem told_within_unnumbered (h : ∀ n, passed n.unnumbered = passed n) :
    ∀ n : Node, (n.unnumbered.within passed).map told = (n.within passed).map told
  | .element e children => by
    have hfirst := told_unnumbered (.element e children)
    rw [unnumbered] at hfirst ⊢
    rw [within, within, List.map_cons, List.map_cons, hfirst, told_withinAll_unnumberedAll h children]
  | .fragment children => by
    have hfirst := told_unnumbered (.fragment children)
    rw [unnumbered] at hfirst ⊢
    rw [within, within, List.map_cons, List.map_cons, hfirst, told_withinAll_unnumberedAll h children]
  | .text s => by rw [unnumbered]
  | .comment s => by rw [unnumbered]
  | .doctype name => by rw [unnumbered]

theorem told_withinAll_unnumberedAll (h : ∀ n, passed n.unnumbered = passed n) : ∀ nodes : List Node,
    (withinAll passed (unnumberedAll nodes)).map told = (withinAll passed nodes).map told
  | [] => by rw [unnumberedAll]
  | n :: rest => by
    rw [unnumberedAll, withinAll, withinAll, h n]
    split
    · exact told_withinAll_unnumberedAll h rest
    · rw [List.map_append, List.map_append, told_within_unnumbered h n, told_withinAll_unnumberedAll h rest]

end

end Passed

mutual

/-- The nodes that are left if a tree is cleared are told as they were. -/
theorem told_within_cleared : ∀ n : Node,
    (n.cleared.within isSkipped).map told = (n.within isSkipped).map told
  | .element e children => by
    have hfirst := told_cleared (.element e children)
    rw [cleared] at hfirst ⊢
    rw [within, within, List.map_cons, List.map_cons, hfirst, told_withinAll_clearedAll children]
  | .fragment children => by
    have hfirst := told_cleared (.fragment children)
    rw [cleared] at hfirst ⊢
    rw [within, within, List.map_cons, List.map_cons, hfirst, told_withinAll_clearedAll children]
  | .text s => by rw [cleared]
  | .comment s => by rw [cleared]
  | .doctype name => by rw [cleared]

theorem told_withinAll_clearedAll : ∀ nodes : List Node,
    (withinAll isSkipped (clearedAll nodes)).map told = (withinAll isSkipped nodes).map told
  | [] => by rw [clearedAll]
  | n :: rest => by
    rw [clearedAll, withinAll]
    split
    · exact told_withinAll_clearedAll rest
    · next hshown =>
      rw [withinAll, isSkipped_cleared, if_neg hshown, List.map_append, List.map_append, told_within_cleared n,
        told_withinAll_clearedAll rest]

end

/-- Nothing is passed over. -/
def nonePassed (_ : Node) : Bool := false

theorem withinAll_nonePassed (nodes : List Node) :
    withinAll nonePassed nodes = nodes.flatMap (within nonePassed) := by
  induction nodes with
  | nil => rfl
  | cons n rest ih => rw [withinAll, ih, List.flatMap_cons]; rfl

theorem unnumberedAll_eq_map (nodes : List Node) : unnumberedAll nodes = nodes.map unnumbered := by
  induction nodes with
  | nil => rfl
  | cons n rest ih => rw [unnumberedAll, ih, List.map_cons]

end Node

namespace Place

/-! ## Another node at a place -/

/-- A place with another node at it. -/
def put (m : Node) : Place → Place
  | .top ground before _ after => .top ground before m after
  | .inside q before _ after =>
    .inside (q.put (q.node.withContent (before.reverse ++ m :: after))) before m after

/-- A place in a tree in which no element has a number. -/
def unnumbered : Place → Place
  | .top ground before n after =>
    .top ground (Node.unnumberedAll before) n.unnumbered (Node.unnumberedAll after)
  | .inside q before n after =>
    .inside q.unnumbered (Node.unnumberedAll before) n.unnumbered (Node.unnumberedAll after)

theorem node_put (p : Place) (m : Node) : (p.put m).node = m := by
  cases p <;> rfl

theorem node_unnumbered (p : Place) : p.unnumbered.node = p.node.unnumbered := by
  cases p <;> rfl

theorem element?_ancestors_put (p : Place) (m : Node) :
    (p.put m).ancestors.map element? = p.ancestors.map element? := by
  induction p generalizing m with
  | top ground before n after => rfl
  | inside q before n after ih =>
    rw [put, ancestors, ancestors, List.map_cons, List.map_cons, ih, element?, node_put,
      Node.element?_withContent, element?]

theorem element?_ancestors_unnumbered (p : Place) :
    p.unnumbered.ancestors.map element? = p.ancestors.map fun a => a.element?.map Element.unnumbered := by
  induction p with
  | top ground before n after => rfl
  | inside q before n after ih =>
    rw [unnumbered, ancestors, ancestors, List.map_cons, List.map_cons, ih, element?, node_unnumbered,
      Node.element?_unnumbered, element?]

/-! ## The nodes around a place -/

mutual

theorem map_node_under : ∀ (p : Place) (n : Node), p.node = n →
    (under p n).map node = n.within Node.nonePassed
  | p, .element e children, hn => by
    rw [under, List.map_cons, hn, map_node_underAll (.inside p) (fun _ _ _ => rfl) [] children, Node.within]
  | p, .fragment children, hn => by
    rw [under, List.map_cons, hn, map_node_underAll (.inside p) (fun _ _ _ => rfl) [] children, Node.within]
  | p, .text _, hn => congrArg (fun n => [n]) hn
  | p, .comment _, hn => congrArg (fun n => [n]) hn
  | p, .doctype _, hn => congrArg (fun n => [n]) hn

theorem map_node_underAll (make : List Node → Node → List Node → Place)
    (hmake : ∀ b n a, (make b n a).node = n) :
    ∀ before nodes : List Node, (underAll make before nodes).map node = Node.withinAll Node.nonePassed nodes
  | _, [] => rfl
  | before, n :: rest => by
    rw [underAll, List.map_append, map_node_under (make before n rest) n (hmake before n rest),
      map_node_underAll make hmake (n :: before) rest]
    rfl

end

theorem map_node_flatMap_subtree (places : List Place) :
    (places.flatMap subtree).map node = Node.withinAll Node.nonePassed (places.map node) := by
  rw [Node.withinAll_nonePassed, List.map_flatMap, List.flatMap_map]
  exact List.flatMap_congr fun p _ => map_node_under p p.node rfl

theorem map_node_outside_top (ground : Ground) (before : List Node) (n : Node) (after : List Node) :
    (Place.top ground before n after).outside.map node = Node.withinAll Node.nonePassed (before ++ after) := by
  rw [outside, map_node_flatMap_subtree, map_node_beside_top]

theorem map_node_outside_inside (q : Place) (before : List Node) (n : Node) (after : List Node) :
    (Place.inside q before n after).outside.map node =
      q.node :: q.outside.map node ++ Node.withinAll Node.nonePassed (before ++ after) := by
  rw [outside, List.map_append, List.map_cons, map_node_flatMap_subtree, map_node_beside_inside]

/-- What is told of the nodes outside a place. -/
def toldOutside (p : Place) : List (Option Element × String) := (p.outside.map node).map Node.told

theorem toldOutside_unnumbered (p : Place) : p.unnumbered.toldOutside = p.toldOutside := by
  have hbeside : ∀ before after : List Node,
      (Node.withinAll Node.nonePassed (Node.unnumberedAll before ++ Node.unnumberedAll after)).map Node.told =
        (Node.withinAll Node.nonePassed (before ++ after)).map Node.told := fun before after => by
    rw [Node.unnumberedAll_eq_map, Node.unnumberedAll_eq_map, ← List.map_append, ← Node.unnumberedAll_eq_map]
    exact Node.told_withinAll_unnumberedAll (fun _ => rfl) _
  induction p with
  | top ground before n after =>
    rw [toldOutside, toldOutside, unnumbered, map_node_outside_top, map_node_outside_top, hbeside]
  | inside q before n after ih =>
    rw [toldOutside, toldOutside] at ih
    rw [toldOutside, toldOutside, unnumbered, map_node_outside_inside, map_node_outside_inside, List.map_append,
      List.map_append, List.map_cons, List.map_cons, ih, hbeside, node_unnumbered, Node.told_unnumbered]

/-- A node with the same text in place of another leaves what is told of the nodes outside. -/
theorem toldOutside_put {p : Place} {m : Node} (h : p.Fits) (hruns : m.runs = p.node.runs) :
    (p.put m).toldOutside = p.toldOutside := by
  induction p generalizing m with
  | top ground before n after =>
    rw [toldOutside, toldOutside, put, map_node_outside_top, map_node_outside_top]
  | inside q before n after ih =>
    obtain ⟨hchildren, hq⟩ := h
    have hruns : m.runs = n.runs := hruns
    have hcontent : (q.node.withContent (before.reverse ++ m :: after)).runs = q.node.runs := by
      refine Node.runs_withContent ?_
      rw [hchildren, Node.runsAll_append, Node.runsAll_append, Node.runsAll, Node.runsAll, hruns]
    have hparent : (q.node.withContent (before.reverse ++ m :: after)).told = q.node.told :=
      Node.told_eq (by rw [Node.element?_withContent]) hcontent
    have hrest := ih hq hcontent
    rw [toldOutside, toldOutside] at hrest
    rw [toldOutside, toldOutside, put, map_node_outside_inside, map_node_outside_inside, List.map_append,
      List.map_append, List.map_cons, List.map_cons, hrest, node_put, hparent]

end Place

namespace Document

variable (doc : Document)

theorem fits_bodyPlace : doc.bodyPlace.Fits := by
  unfold bodyPlace
  cases hfind : doc.elementPlaces.find? fun p => p.element?.any (·.label == "body") with
  | none => exact trivial
  | some p =>
    rcases (mem_elementPlaces.mp (List.mem_of_find?_eq_some hfind)).1 with hmem | hmem
    · exact fits_of_mem_places hmem
    · obtain ⟨n, -, hmem⟩ := List.mem_flatMap.mp hmem
      exact Place.fits_of_mem_subtree (p := .top .loose [] n []) trivial hmem

/-- The tree that the body is in, seen from the body, without numbers of elements, and without scripts, styles
and what stands in for scripts below the body. -/
def cleared : Place := (doc.bodyPlace.put doc.bodyPlace.node.cleared).unnumbered

/-- The nodes of this tree that are left below the body, after those that are not below it, as they were. -/
def remaining : List Node := doc.bodyPlace.outside.map Place.node ++ doc.bodyPlace.node.within Node.isSkipped

theorem node_cleared : doc.cleared.node = doc.bodyPlace.node.cleared.unnumbered := by
  rw [cleared, Place.node_unnumbered, Place.node_put]

/-- What is told of the nodes that are left is what is told of the cleared tree. -/
theorem told_remaining : doc.remaining.map Node.told =
    doc.cleared.toldOutside ++ (doc.cleared.node.within Node.isSkipped).map Node.told := by
  have houtside : doc.cleared.toldOutside = doc.bodyPlace.toldOutside := by
    rw [cleared, Place.toldOutside_unnumbered]
    exact Place.toldOutside_put doc.fits_bodyPlace (Node.runs_cleared _)
  have hbelow : (doc.cleared.node.within Node.isSkipped).map Node.told =
      (doc.bodyPlace.node.within Node.isSkipped).map Node.told := by
    rw [node_cleared, Node.told_within_unnumbered Node.isSkipped_unnumbered, Node.told_within_cleared]
  rw [remaining, List.map_append, houtside, hbelow, Place.toldOutside]

end Document

end PageEdit.Html
