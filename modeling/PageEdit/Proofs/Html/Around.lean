import Mathlib.Data.List.Nodup
import PageEdit.Proofs.Html.Pages
import PageEdit.Proofs.Html.Shape

/-!
# What stands around a place

Seen from one of its places a tree falls into two parts: the place with all that is in it, and the rest, which
is what is around the place and what stands before and behind all these. The parts have nothing in common, as
no place of a tree is listed twice: the steps that lead to places tell them apart.

* `Place.outside_append_subtree_perm`: the two parts make up the tree.
* `Place.tree_nodup`: no place is listed twice.
* `Document.mem_places_of_mem_outside`: what is outside is another place of the document.
-/

namespace PageEdit.Html

namespace Place

/-! ## Siblings -/

theorem subtree_eq (p : Place) : p.subtree = p :: underAll (.inside p) [] p.node.children := by
  rw [subtree]
  cases p.node <;> simp [under, underAll, Node.children]

section Rows

variable {make : List Node → Node → List Node → Place}

theorem underAll_eq_flatMap (hmake : ∀ b n a, (make b n a).node = n) (before nodes : List Node) :
    underAll make before nodes = (row make before nodes).flatMap subtree := by
  induction nodes generalizing before with
  | nil => rfl
  | cons n rest ih => rw [underAll, row, List.flatMap_cons, ih, subtree, hmake]

/-- The siblings of a node are those before it, which are listed from it on, and those behind it. -/
theorem row_eq (make : List Node → Node → List Node → Place) (before : List Node) (n : Node)
    (after : List Node) : row make [] (before.reverse ++ n :: after) =
      (rowBack make (n :: after) before).reverse ++ make before n after :: row make (n :: before) after := by
  induction before generalizing n after with
  | nil => rfl
  | cons m before ih =>
    rw [List.reverse_cons, List.append_assoc, List.singleton_append, ih, rowBack, List.reverse_cons,
      List.append_assoc, List.singleton_append, row]

theorem underAll_perm (hmake : ∀ b n a, (make b n a).node = n) (before : List Node) (n : Node)
    (after : List Node) : ((rowBack make (n :: after) before ++ row make (n :: before) after).flatMap subtree ++
      (make before n after).subtree).Perm (underAll make [] (before.reverse ++ n :: after)) := by
  rw [underAll_eq_flatMap hmake, row_eq, List.flatMap_append, List.flatMap_append, List.flatMap_cons,
    List.append_assoc]
  exact ((List.reverse_perm _).flatMap_right _).symm.append List.perm_append_comm

theorem map_node_row (hmake : ∀ b n a, (make b n a).node = n) (before nodes : List Node) :
    (row make before nodes).map node = nodes := by
  induction nodes generalizing before with
  | nil => rfl
  | cons n rest ih => rw [row, List.map_cons, hmake, ih]

theorem map_node_rowBack (hmake : ∀ b n a, (make b n a).node = n) (after nodes : List Node) :
    (rowBack make after nodes).map node = nodes := by
  induction nodes generalizing after with
  | nil => rfl
  | cons n rest ih => rw [rowBack, List.map_cons, hmake, ih]

end Rows

/-! ## The two parts of a tree -/

/-- Whether each node stands in the content of the one around it. -/
def Fits : Place → Prop
  | .top .. => True
  | .inside q before n after => q.node.children = before.reverse ++ n :: after ∧ q.Fits

/-- The siblings of a place. -/
def beside (p : Place) : List Place := p.earlierPlaces ++ p.laterPlaces

theorem map_node_beside_top (ground : Ground) (before : List Node) (n : Node) (after : List Node) :
    (Place.top ground before n after).beside.map node = before ++ after := by
  rw [beside, List.map_append, earlierPlaces, laterPlaces, map_node_rowBack fun _ _ _ => rfl,
    map_node_row fun _ _ _ => rfl]

theorem map_node_beside_inside (q : Place) (before : List Node) (n : Node) (after : List Node) :
    (Place.inside q before n after).beside.map node = before ++ after := by
  rw [beside, List.map_append, earlierPlaces, laterPlaces, map_node_rowBack fun _ _ _ => rfl,
    map_node_row fun _ _ _ => rfl]

/-- The places of a tree that are not in the tree of one of them: those around it, and what is before and
behind it and them. -/
def outside : Place → List Place
  | .top ground before n after => (Place.top ground before n after).beside.flatMap subtree
  | .inside q before n after =>
    q :: q.outside ++ (Place.inside q before n after).beside.flatMap subtree

/-- The nodes at the top of the tree that a place is in. -/
def tops : Place → List Node
  | .top _ before n after => before.reverse ++ n :: after
  | .inside q _ _ _ => q.tops

/-- All places of the tree that a place is in. -/
def tree (p : Place) : List Place := underAll (.top p.ground) [] p.tops

theorem outside_append_subtree_perm {p : Place} (h : p.Fits) :
    (p.outside ++ p.subtree).Perm p.tree := by
  induction p with
  | top ground before n after => exact underAll_perm (fun _ _ _ => rfl) before n after
  | inside q before n after ih =>
    obtain ⟨hchildren, hq⟩ := h
    have hq := ih hq
    rw [subtree_eq q, hchildren] at hq
    have hinside := @underAll_perm (.inside q) (fun _ _ _ => rfl) before n after
    refine .trans ?_ ((List.Perm.append_left q.outside (hinside.cons q)).trans hq)
    rw [outside, List.cons_append, List.cons_append, List.append_assoc]
    exact List.perm_middle.symm

theorem fits_of_mem_subtree {p q : Place} (h : p.Fits) (hq : q ∈ p.subtree) : q.Fits :=
  forall_mem_under (P := Fits) (fun _ _ _ _ hchildren hr => ⟨hchildren, hr⟩) p p.node rfl h q hq

/-! ## No place twice -/

theorem steps_prefix_of_mem_subtree {p q : Place} (hq : q ∈ p.subtree) : p.steps <+: q.steps :=
  forall_mem_under (P := fun r => p.steps <+: r.steps)
    (fun _ _ _ _ _ hr => hr.trans (List.prefix_append _ _)) p p.node rfl (List.prefix_refl _) q hq

section Steps

variable {make : List Node → Node → List Node → Place} {start : List Step}

/-- What comes in a row is reached by as many steps to a later sibling as nodes come before it. -/
theorem steps_prefix_of_mem_row (hsteps : ∀ b n a, (make b n a).steps = start ++ List.replicate b.length .later)
    {before nodes : List Node} {p : Place} (hp : p ∈ row make before nodes) :
    start ++ List.replicate before.length .later <+: p.steps := by
  induction nodes generalizing before with
  | nil => cases hp
  | cons n rest ih =>
    rcases List.mem_cons.mp hp with rfl | hp
    · exact hsteps before n rest ▸ List.prefix_refl _
    · refine .trans ?_ (ih hp)
      rw [List.length_cons, List.replicate_succ', ← List.append_assoc]
      exact List.prefix_append _ _

theorem steps_prefix_of_mem_underAll (hmake : ∀ b n a, (make b n a).node = n)
    (hsteps : ∀ b n a, (make b n a).steps = start ++ List.replicate b.length .later)
    {before nodes : List Node} {q : Place} (hq : q ∈ underAll make before nodes) :
    start ++ List.replicate before.length .later <+: q.steps := by
  rw [underAll_eq_flatMap hmake] at hq
  obtain ⟨p, hp, hq⟩ := List.mem_flatMap.mp hq
  exact (steps_prefix_of_mem_row hsteps hp).trans (steps_prefix_of_mem_subtree hq)

end Steps

theorem steps_inside (p : Place) (before : List Node) (n : Node) (after : List Node) :
    (Place.inside p before n after).steps = (p.steps ++ [.inside]) ++ List.replicate before.length .later := by
  rw [steps, List.append_assoc, List.singleton_append]

theorem inside_prefix_of_mem_underAll {p q : Place} {nodes : List Node}
    (hq : q ∈ underAll (.inside p) [] nodes) : p.steps ++ [.inside] <+: q.steps := by
  simpa using steps_prefix_of_mem_underAll (fun _ _ _ => rfl) (steps_inside p) hq

/-- Steps that go on to a later sibling do not go on inside. -/
theorem not_later_prefix {steps start : List Step} (h : steps = start ∨ start ++ [.inside] <+: steps) :
    ¬ start ++ [.later] <+: steps := by
  intro hlater
  rcases h with rfl | hinside
  · have hlength := hlater.length_le
    rw [List.length_append, List.length_singleton] at hlength
    omega
  · have hlength : (start ++ [Step.inside]).length = (start ++ [Step.later]).length := by simp
    have heq := (List.prefix_of_prefix_length_le hinside hlater (Nat.le_of_eq hlength)).eq_of_length hlength
    simp at heq

theorem notMem_underAll (p : Place) (nodes : List Node) : p ∉ underAll (.inside p) [] nodes := by
  intro h
  have hlength := (inside_prefix_of_mem_underAll h).length_le
  rw [List.length_append, List.length_singleton] at hlength
  omega

mutual

theorem under_nodup : ∀ (p : Place) (n : Node), p.node = n → (under p n).Nodup
  | p, .element e children, _ => by
    rw [under]
    exact List.nodup_cons.mpr ⟨notMem_underAll p children,
      underAll_nodup (.inside p) (fun _ _ _ => rfl) (steps_inside p) [] children⟩
  | p, .fragment children, _ => by
    rw [under]
    exact List.nodup_cons.mpr ⟨notMem_underAll p children,
      underAll_nodup (.inside p) (fun _ _ _ => rfl) (steps_inside p) [] children⟩
  | p, .text _, _ => List.nodup_singleton p
  | p, .comment _, _ => List.nodup_singleton p
  | p, .doctype _, _ => List.nodup_singleton p

theorem underAll_nodup {start : List Step} (make : List Node → Node → List Node → Place)
    (hmake : ∀ b n a, (make b n a).node = n)
    (hsteps : ∀ b n a, (make b n a).steps = start ++ List.replicate b.length .later) :
    ∀ before nodes : List Node, (underAll make before nodes).Nodup
  | _, [] => List.nodup_nil
  | before, n :: rest => by
    rw [underAll, List.nodup_append]
    refine ⟨under_nodup (make before n rest) n (hmake before n rest),
      underAll_nodup make hmake hsteps (n :: before) rest, ?_⟩
    rintro q hfirst _ hlater rfl
    -- what is in the first tree is reached through it, what is in the others past it
    have hpast := steps_prefix_of_mem_underAll hmake hsteps hlater
    rw [List.length_cons, List.replicate_succ', ← List.append_assoc, ← hsteps before n rest] at hpast
    refine not_later_prefix ?_ hpast
    have hmem : q ∈ (make before n rest).subtree := by rwa [subtree, hmake]
    rw [subtree_eq] at hmem
    exact (List.mem_cons.mp hmem).imp (congrArg steps) inside_prefix_of_mem_underAll

end

theorem tree_nodup (p : Place) : p.tree.Nodup :=
  @underAll_nodup [] (.top p.ground) (fun _ _ _ => rfl) (fun _ _ _ => (List.nil_append _).symm) []
    p.tops

/-- What is outside a place is another place of its tree. -/
theorem mem_tree_of_mem_outside {p q : Place} (h : p.Fits) (hq : q ∈ p.outside) : q ∈ p.tree ∧ q ≠ p := by
  have hperm := outside_append_subtree_perm h
  have hdisjoint := List.disjoint_of_nodup_append (hperm.nodup_iff.mpr p.tree_nodup)
  refine ⟨hperm.subset (List.mem_append_left _ hq), ?_⟩
  rintro rfl
  exact hdisjoint hq (mem_under_self q q.node)

end Place

namespace Document

variable {doc : Document} {p q : Place}

theorem fits_of_mem_places (h : p ∈ doc.places) : p.Fits := by
  obtain ⟨before, n, after, hmem, -⟩ := exists_top_of_mem_places h
  exact Place.fits_of_mem_subtree (p := .top .document before n after) trivial hmem

theorem tops_of_mem_places (h : p ∈ doc.places) : p.ground = .document ∧ p.tops = doc.nodes := by
  refine Place.forall_mem_underAll (P := fun q => q.ground = .document ∧ q.tops = doc.nodes)
    (fun _ _ _ _ _ hq => hq) (.top .document) (fun _ _ _ => rfl) doc.nodes ?_ [] doc.nodes rfl p h
  exact fun before n after hall => ⟨rfl, hall.symm⟩

theorem tree_of_mem_places (h : p ∈ doc.places) : p.tree = doc.places := by
  obtain ⟨hground, htops⟩ := tops_of_mem_places h
  rw [Place.tree, hground, htops]
  rfl

theorem mem_places_of_mem_outside (h : p ∈ doc.places) (hq : q ∈ p.outside) : q ∈ doc.places ∧ q ≠ p :=
  tree_of_mem_places h ▸ Place.mem_tree_of_mem_outside (fits_of_mem_places h) hq

end Document

end PageEdit.Html
