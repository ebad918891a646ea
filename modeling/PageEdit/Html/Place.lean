import PageEdit.Html.Document
import PageEdit.Order.Stable

/-!
# Places in a document

A place is a node together with all that is around it, so that from a node one can look at its
siblings and its parents. Siblings before it are listed nearest first.

* `Place.forall_mem_under`: what goes on from nodes to their children holds at all places in a node.
* `Document.elementPlaces` lists the elements that selectors look at, in the order of their numbers.
-/

namespace PageEdit.Html

/-- What a tree stands in. -/
inductive Ground where
  /-- The document itself. -/
  | document
  /-- Nothing: the tree has been cut off. -/
  | loose
  deriving Repr, DecidableEq

/-- A node with what is around it. -/
inductive Place where
  | top (ground : Ground) (before : List Node) (node : Node) (after : List Node)
  | inside (parent : Place) (before : List Node) (node : Node) (after : List Node)

namespace Place

/-- The node at a place. -/
def node : Place → Node
  | .top _ _ node _ => node
  | .inside _ _ node _ => node

/-- The siblings before, nearest first. -/
def earlier : Place → List Node
  | .top _ before _ _ => before
  | .inside _ before _ _ => before

/-- The siblings after, nearest first. -/
def later : Place → List Node
  | .top _ _ _ after => after
  | .inside _ _ _ after => after

/-- The place of the parent node. -/
def parent? : Place → Option Place
  | .top .. => none
  | .inside parent _ _ _ => some parent

/-- The element at a place. -/
def element? (p : Place) : Option Element := p.node.element?

/-- The number of the element at a place. -/
def elementId (p : Place) : Nat := (p.element?.map Element.id).getD 0

/-- Whether the parent is the document itself. -/
def isTop : Place → Bool
  | .top .document _ _ _ => true
  | _ => false

/-- Whether a place has a parent node, the document counting as one. -/
def isAttached : Place → Bool
  | .top .loose _ _ _ => false
  | _ => true

/-- The places of the parents, nearest first. -/
def ancestors : Place → List Place
  | .top .. => []
  | .inside parent _ _ _ => parent :: ancestors parent

/-- The places of some siblings in a row, given those before them, nearest first. -/
def row (make : List Node → Node → List Node → Place) (before : List Node) : List Node → List Place
  | [] => []
  | n :: rest => make before n rest :: row make (n :: before) rest

/-- The places of the siblings after, nearest first. -/
def laterPlaces : Place → List Place
  | .top ground before node after => row (.top ground) (node :: before) after
  | .inside parent before node after => row (.inside parent) (node :: before) after

/-- The places of some siblings in a row towards the first, given those after them. -/
def rowBack (make : List Node → Node → List Node → Place) (after : List Node) :
    List Node → List Place
  | [] => []
  | n :: rest => make rest n after :: rowBack make (n :: after) rest

/-- The places of the siblings before, nearest first. -/
def earlierPlaces : Place → List Place
  | .top ground before node after => rowBack (.top ground) (node :: after) before
  | .inside parent before node after => rowBack (.inside parent) (node :: after) before

mutual

/-- The places of a node and all that is in it, in document order, given the place of the node. -/
def under (p : Place) : Node → List Place
  | .element _ children => p :: underAll (.inside p) [] children
  | .fragment children => p :: underAll (.inside p) [] children
  | _ => [p]

/-- The places of some siblings and all that is in them. -/
def underAll (make : List Node → Node → List Node → Place) (before : List Node) :
    List Node → List Place
  | [] => []
  | n :: rest => under (make before n rest) n ++ underAll make (n :: before) rest

end

/-- Whether a property goes on from each node to its children. -/
def GoesInside (P : Place → Prop) : Prop :=
  ∀ q before n after, q.node.children = before.reverse ++ n :: after → P q →
    P (.inside q before n after)

section Induction

variable {P : Place → Prop}

mutual

/-- What holds at a place, and goes on from each node to its children, holds at all places in the node. -/
theorem forall_mem_under (h : GoesInside P) :
    ∀ (q : Place) (n : Node), q.node = n → P q → ∀ p ∈ under q n, P p
  | q, .element e children, hn, hq, p, hp => by
    rw [under, List.mem_cons] at hp
    rcases hp with rfl | hp
    · exact hq
    · exact forall_mem_underAll h (.inside q) (fun _ _ _ => rfl) children
        (fun before n after hall => h q before n after (by rw [hn]; exact hall) hq) [] children rfl p hp
  | q, .fragment children, hn, hq, p, hp => by
    rw [under, List.mem_cons] at hp
    rcases hp with rfl | hp
    · exact hq
    · exact forall_mem_underAll h (.inside q) (fun _ _ _ => rfl) children
        (fun before n after hall => h q before n after (by rw [hn]; exact hall) hq) [] children rfl p hp
  | q, .text _, _, hq, p, hp => by
    obtain rfl : p = q := by simpa [under] using hp
    exact hq
  | q, .comment _, _, hq, p, hp => by
    obtain rfl : p = q := by simpa [under] using hp
    exact hq
  | q, .doctype _, _, hq, p, hp => by
    obtain rfl : p = q := by simpa [under] using hp
    exact hq

/-- So it is with some siblings, `all` being those before and behind them as well. -/
theorem forall_mem_underAll (h : GoesInside P) (make : List Node → Node → List Node → Place)
    (hnode : ∀ before n after, (make before n after).node = n) (all : List Node)
    (hall : ∀ before n after, all = before.reverse ++ n :: after → P (make before n after)) :
    ∀ before nodes : List Node, all = before.reverse ++ nodes → ∀ p ∈ underAll make before nodes, P p
  | _, [], _, _, hp => absurd hp List.not_mem_nil
  | before, n :: rest, heq, p, hp => by
    rw [underAll, List.mem_append] at hp
    rcases hp with hp | hp
    · exact forall_mem_under h (make before n rest) n (hnode before n rest) (hall before n rest heq) p hp
    · exact forall_mem_underAll h make hnode all hall (n :: before) rest (by rw [heq]; simp) p hp

end

end Induction

/-- The places of a node and all that is in it, in document order. -/
def subtree (p : Place) : List Place := under p p.node

/-- The places of all that is in a node, in document order. -/
def descendants (p : Place) : List Place := p.subtree.tail

end Place

namespace Document

/-- The place of the root element. -/
def rootPlace (doc : Document) : Place := .top .document doc.before.reverse doc.root doc.after

/-- The places of all nodes of the document, in document order. -/
def places (doc : Document) : List Place := Place.underAll (.top .document) [] doc.nodes

/-- The places of all nodes in the trees that have been cut off. -/
def loosePlaces (doc : Document) : List Place :=
  doc.loose.flatMap fun n => (Place.top .loose [] n []).subtree

/-- The places of the elements that have a parent, in the order of their numbers. -/
def elementPlaces (doc : Document) : List Place :=
  Order.stableSort (fun p q => p.elementId ≤ q.elementId)
    ((doc.places ++ doc.loosePlaces).filter fun p => p.isAttached && p.node.isElement)

/-- The place of the first `body` element, or of the root if there is none. -/
def bodyPlace (doc : Document) : Place :=
  (doc.elementPlaces.find? fun p => p.element?.any (·.label == "body")).getD doc.rootPlace

end Document

end PageEdit.Html
