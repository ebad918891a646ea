import PageEdit.Html.Place
import PageEdit.Proofs.Html.Reading

/-!
# What holds of every page

What reading builds is turned into a document and then looked at place by place. The places of a page go on
from each node to its children and back to its parent. The names and attributes of its elements are fair. And
where trees have been cut off there is no body: only a body is ever cut off, and no second one is opened.

* `Place.inside_mem_subtree`, `Place.mem_subtree_of_parent?`: the places in a tree.
* `Document.isFair_ofHtml`, `Document.loose_eq_nil_of_body`: the two facts about what has been read.
-/

namespace PageEdit.Html

/-! ## Places in a tree -/

namespace Place

theorem mem_under_self (p : Place) (n : Node) : p ∈ under p n := by
  cases n <;> simp [under]

theorem mem_underAll_self (make : List Node → Node → List Node → Place) (m : Node) (after : List Node) :
    ∀ nodes earlier : List Node,
      make (nodes.reverse ++ earlier) m after ∈ underAll make earlier (nodes ++ m :: after)
  | [], earlier => by
    rw [List.nil_append, underAll]
    exact List.mem_append_left _ (mem_under_self _ m)
  | n :: rest, earlier => by
    rw [List.cons_append, underAll, List.reverse_cons, List.append_assoc]
    exact List.mem_append_right _ (mem_underAll_self make m after rest (n :: earlier))

section Inside

variable {q : Place} {before : List Node} {m : Node} {after : List Node}

/-- The children of a node have their places behind its own, and so have those of a place further in. -/
theorem inside_mem_cons (hq : q.node.children = before.reverse ++ m :: after) {p : Place} {children : List Node}
    (hp : p.node.children = children)
    (hdeep : q ∈ underAll (.inside p) [] children → .inside q before m after ∈ underAll (.inside p) [] children)
    (hmem : q ∈ p :: underAll (.inside p) [] children) :
    .inside q before m after ∈ p :: underAll (.inside p) [] children := by
  refine .tail _ ?_
  rcases List.mem_cons.mp hmem with rfl | hmem
  · have hself := mem_underAll_self (.inside q) m after before.reverse []
    rwa [← hq, hp, List.reverse_reverse, List.append_nil] at hself
  · exact hdeep hmem

mutual

/-- With a place, a tree has the places of the children of its node. -/
theorem inside_mem_under (hq : q.node.children = before.reverse ++ m :: after) :
    ∀ (p : Place) (n : Node), p.node = n → q ∈ under p n → .inside q before m after ∈ under p n
  | p, .element _ children, hp, hmem | p, .fragment children, hp, hmem => by
    rw [under] at hmem ⊢
    exact inside_mem_cons hq (by rw [hp]; rfl) (inside_mem_underAll hq (.inside p) (fun _ _ _ => rfl) [] children) hmem
  | p, .text _, hp, hmem | p, .comment _, hp, hmem | p, .doctype _, hp, hmem => by
    obtain rfl : q = p := by simpa [under] using hmem
    simp [hp, Node.children] at hq

theorem inside_mem_underAll (hq : q.node.children = before.reverse ++ m :: after)
    (make : List Node → Node → List Node → Place)
    (hmake : ∀ before n after, (make before n after).node = n) :
    ∀ earlier nodes : List Node, q ∈ underAll make earlier nodes →
      .inside q before m after ∈ underAll make earlier nodes
  | _, [], hmem => absurd hmem List.not_mem_nil
  | earlier, n :: rest, hmem => by
    rw [underAll, List.mem_append] at hmem ⊢
    exact hmem.imp (inside_mem_under hq _ n (hmake _ _ _)) (inside_mem_underAll hq make hmake _ rest)

end

theorem inside_mem_subtree {p : Place} (hmem : q ∈ p.subtree)
    (hq : q.node.children = before.reverse ++ m :: after) : .inside q before m after ∈ p.subtree :=
  inside_mem_under hq p p.node rfl hmem

end Inside

/-- A tree goes on from each of its places to all that is in it. -/
theorem subtree_subset {p q : Place} (h : q ∈ p.subtree) : q.subtree ⊆ p.subtree :=
  forall_mem_under (fun _ _ _ _ hq hmem => inside_mem_subtree hmem hq) q q.node rfl h

section Sublist

variable {q : Place}

theorem subtree_of_node {n : Node} (h : q.node = n) : q.subtree = under q n := by rw [subtree, h]

theorem subtree_sublist_cons {p : Place} {n : Node} {places : List Place} (hn : p.node = n)
    (hp : under p n = p :: places) (hdeep : q ∈ places → q.subtree.Sublist places) (hq : q ∈ under p n) :
    q.subtree.Sublist (under p n) := by
  rcases List.mem_cons.mp (hp ▸ hq) with rfl | hmem
  · exact subtree_of_node hn ▸ List.Sublist.refl _
  · rw [hp]
    exact (hdeep hmem).trans (List.sublist_cons_self _ _)

mutual

theorem subtree_sublist_under : ∀ (p : Place) (n : Node), p.node = n → q ∈ under p n → q.subtree.Sublist (under p n)
  | p, .element _ children, hn, hq | p, .fragment children, hn, hq =>
    subtree_sublist_cons hn (by rw [under]) (subtree_sublist_underAll (.inside p) (fun _ _ _ => rfl) [] children) hq
  | p, .text _, hn, hq | p, .comment _, hn, hq | p, .doctype _, hn, hq => by
    obtain rfl : q = p := List.mem_singleton.mp hq
    exact subtree_of_node hn ▸ List.Sublist.refl _

theorem subtree_sublist_underAll (make : List Node → Node → List Node → Place)
    (hmake : ∀ b n a, (make b n a).node = n) :
    ∀ before nodes : List Node, q ∈ underAll make before nodes → q.subtree.Sublist (underAll make before nodes)
  | _, [], hq => absurd hq List.not_mem_nil
  | before, n :: rest, hq => by
    rw [underAll, List.mem_append] at hq
    rcases hq with hq | hq
    · have hfirst := subtree_sublist_under (make before n rest) n (hmake before n rest) hq
      exact hfirst.trans (List.sublist_append_left _ _)
    · have hlater := subtree_sublist_underAll make hmake (n :: before) rest hq
      exact hlater.trans (List.sublist_append_right _ _)

end

end Sublist

/-- Apart from its first place, a tree has with a place that of its parent. -/
theorem mem_subtree_of_parent? {p q : Place} (h : q ∈ p.subtree) :
    q = p ∨ ∃ r ∈ p.subtree, q.parent? = some r := by
  have hall : ∀ q ∈ p.subtree, q ∈ p.subtree ∧ (q = p ∨ ∃ r ∈ p.subtree, q.parent? = some r) :=
    forall_mem_under (P := fun q => q ∈ p.subtree ∧ (q = p ∨ ∃ r ∈ p.subtree, q.parent? = some r))
      (fun q _ _ _ hq hmem => ⟨inside_mem_subtree hmem.1 hq, .inr ⟨q, hmem.1, rfl⟩⟩)
      p p.node rfl ⟨mem_under_self p _, .inl rfl⟩
  exact (hall q h).2

theorem length_ancestors_le_of_mem_subtree {top p : Place} (h : p ∈ top.subtree) :
    top.ancestors.length ≤ p.ancestors.length :=
  forall_mem_under (P := fun q => top.ancestors.length ≤ q.ancestors.length)
    (fun _ _ _ _ _ hq => Nat.le_succ_of_le hq) top top.node rfl (Nat.le_refl _) p h

/-- The places around one of a tree are in the tree or around it. -/
theorem mem_ancestors_of_mem_subtree {p q a : Place} (h : q ∈ p.subtree) (ha : a ∈ q.ancestors) :
    a ∈ p.subtree ∨ a ∈ p.ancestors := by
  induction q with
  | top => exact absurd ha List.not_mem_nil
  | inside parent before node after ih =>
    rcases mem_subtree_of_parent? h with rfl | ⟨r, hr, hparent⟩
    · exact .inr ha
    · obtain rfl := Option.some.inj hparent
      rcases List.mem_cons.mp ha with rfl | ha
      · exact .inl hr
      · exact ih hr ha

end Place

/-! ## Places of a document -/

namespace Document

variable {doc : Document} {p q a : Place}

theorem mem_elementPlaces : p ∈ doc.elementPlaces ↔
    (p ∈ doc.places ∨ p ∈ doc.loosePlaces) ∧ p.isAttached = true ∧ p.node.isElement = true := by
  rw [elementPlaces, (Order.stableSort_perm _ _).mem_iff, List.mem_filter, List.mem_append,
    Bool.and_eq_true]

/-- The places of a document are those of its top nodes and what is in them. -/
theorem exists_top_of_mem_places (h : p ∈ doc.places) :
    ∃ before n after, p ∈ (Place.top .document before n after).subtree ∧
      (Place.top .document before n after).subtree ⊆ doc.places := by
  have hall : ∀ earlier nodes : List Node, p ∈ Place.underAll (.top .document) earlier nodes →
      ∃ before n after, p ∈ (Place.top .document before n after).subtree ∧
        (Place.top .document before n after).subtree ⊆ Place.underAll (.top .document) earlier nodes := by
    intro earlier nodes
    induction nodes generalizing earlier with
    | nil => exact fun h => absurd h List.not_mem_nil
    | cons n rest ih =>
      intro h
      rw [Place.underAll] at h ⊢
      rcases List.mem_append.mp h with h | h
      · exact ⟨earlier, n, rest, h, List.subset_append_left _ _⟩
      · obtain ⟨before, m, after, hmem, hsub⟩ := ih (n :: earlier) h
        exact ⟨before, m, after, hmem, List.subset_append_of_subset_right _ hsub⟩
  exact hall [] doc.nodes h

theorem subtree_subset_places (h : p ∈ doc.places) : p.subtree ⊆ doc.places := by
  obtain ⟨before, n, after, hmem, hsub⟩ := exists_top_of_mem_places h
  exact fun q hq => hsub (Place.subtree_subset hmem hq)

theorem subtree_sublist_places (h : p ∈ doc.places) : p.subtree.Sublist doc.places :=
  Place.subtree_sublist_underAll (.top .document) (fun _ _ _ => rfl) [] doc.nodes h

theorem mem_places_of_mem_ancestors (h : p ∈ doc.places) (ha : a ∈ p.ancestors) : a ∈ doc.places := by
  obtain ⟨before, n, after, hmem, hsub⟩ := exists_top_of_mem_places h
  rcases Place.mem_ancestors_of_mem_subtree hmem ha with ha | ha
  · exact hsub ha
  · exact absurd ha List.not_mem_nil

theorem isAttached_of_mem_places (h : p ∈ doc.places) : p.isAttached = true := by
  obtain ⟨before, n, after, hmem, -⟩ := exists_top_of_mem_places h
  exact Place.forall_mem_under (P := fun q => q.isAttached = true) (fun _ _ _ _ _ _ => rfl)
    (.top .document before n after) n rfl rfl p hmem

theorem rootPlace_mem_places (doc : Document) : doc.rootPlace ∈ doc.places := by
  have := Place.mem_underAll_self (.top .document) doc.root doc.after doc.before []
  rwa [List.append_nil] at this

end Document

namespace Build

/-! ## Trees that have been built -/

variable {arena : Arena}

/-- What is known of a table when all has been read. -/
structure Arena.IsRead (arena : Arena) : Prop where
  consistent : ∀ p, ∀ id ∈ arena.children p, arena.parent? id = some p
  fair : ∀ id name attrs, arena.kind id = .element name attrs → IsFairElement name attrs
  /-- If anything is without a place, it is the only body. -/
  cut : (∀ id < arena.size, id ≠ Arena.documentId → arena.parent? id ≠ none) ∨
    ∃ body, (∀ id < arena.size, id ≠ Arena.documentId → arena.parent? id = none → id = body) ∧
      ∀ id name attrs, arena.kind id = .element name attrs → name.label = "body" → id = body

theorem Builder.IsReading.isRead {b : Builder} (h : b.IsReading) : b.arena.IsRead := by
  obtain ⟨c, hc, hw⟩ := h
  have hsound := hw.sound
  refine ⟨hsound.consistent, fun id name attrs hk => (hsound.elements id name attrs hk).1, ?_⟩
  have hplaced : c.IsPlaced → ∀ id < b.arena.size, id ≠ Arena.documentId →
      b.arena.parent? id ≠ none := fun hc id hid hne hp => hc id (hsound.placed id hid hne hp)
  cases hc with
  | shut => exact .inl (hplaced fun _ h => h)
  | early => exact .inl (hplaced fun _ h => h)
  | late => exact .inl (hplaced fun _ h => h)
  | framed body =>
    exact .inr ⟨body, hsound.placed, fun id name attrs hk hl => (hsound.elements id name attrs hk).2.1 hl⟩

namespace Arena

/-- Whether a place shows a node of the table, which has a parent if the place has one. -/
def IsDrawn (arena : Arena) (p : Place) : Prop :=
  ∃ depth id, p.node = arena.tree depth id ∧ (p.isAttached = true → ∃ q, arena.parent? id = some q)

theorem children_tree (arena : Arena) (depth id : Nat) : (arena.tree depth id).children = [] ∨
    ∃ depth', (arena.tree depth id).children = (arena.children id).toList.map (arena.tree depth') := by
  cases depth with
  | zero => exact .inl rfl
  | succ depth =>
    rw [tree]
    split
    · exact .inr ⟨depth, rfl⟩
    · exact .inr ⟨depth, rfl⟩
    · exact .inl rfl
    · exact .inl rfl
    · exact .inl rfl
    · exact .inr ⟨depth, rfl⟩

theorem kind_of_element? {p : Place} {depth id : Nat} (hnode : p.node = arena.tree depth id) {e : Element}
    (he : p.element? = some e) : arena.kind id = .element e.name e.attrs := by
  rw [Place.element?, hnode] at he
  cases depth with
  | zero => cases he
  | succ depth =>
    rw [tree] at he
    split at he <;> cases he
    next name attrs hk => exact hk

/-- A node that is listed as a child is drawn wherever its tree stands. -/
theorem isDrawn_of_mem_children (h : arena.IsRead) {id c : Nat} (hc : c ∈ (arena.children id).toList)
    {p : Place} {depth : Nat} (hp : p.node = arena.tree depth c) : arena.IsDrawn p :=
  ⟨depth, c, hp, fun _ => ⟨id, h.consistent id c (Array.mem_toList_iff.mp hc)⟩⟩

theorem isDrawn_inside (h : arena.IsRead) {ids : Array Nat} {id depth : Nat} (hids : ids = arena.children id)
    {q : Place} {before : List Node} {n : Node} {after : List Node}
    (hq : ids.toList.map (arena.tree depth) = before.reverse ++ n :: after) :
    arena.IsDrawn (.inside q before n after) := by
  have hmem : n ∈ ids.toList.map (arena.tree depth) := hq ▸ List.mem_append_right _ (.head _)
  obtain ⟨c, hc, hn⟩ := List.mem_map.mp hmem
  exact isDrawn_of_mem_children h (hids ▸ hc) hn.symm

theorem goesInside_isDrawn (h : arena.IsRead) : Place.GoesInside arena.IsDrawn := by
  rintro q before n after hq ⟨depth, id, hnode, -⟩
  rw [hnode] at hq
  rcases arena.children_tree depth id with hnone | ⟨depth', hchildren⟩
  · rw [hnone] at hq
    exact absurd hq (by simp)
  · exact isDrawn_inside h rfl (hchildren ▸ hq)

/-- The nodes that have no place. -/
def looseIds (arena : Arena) : List Nat :=
  (List.range arena.size).filter fun id => id != documentId && (arena.parent? id).isNone

/-- Whether a node is an element. -/
def isElement (arena : Arena) (id : Nat) : Bool :=
  match (arena.slot id).kind with
  | .element .. => true
  | _ => false

theorem exists_kind_of_isElement {id : Nat} (h : arena.isElement id = true) :
    ∃ name attrs, arena.kind id = .element name attrs := by
  unfold isElement at h
  split at h
  · next name attrs hk => exact ⟨name, attrs, hk⟩
  · cases h

/-- A document is empty, or the first element under its own node is the root. -/
theorem toDocument_eq (arena : Arena) : arena.toDocument = .empty ∨
    ∃ before root after name attrs, (arena.children documentId).toList = before ++ root :: after ∧
      arena.kind root = .element name attrs ∧
      arena.toDocument = ⟨before.map (arena.tree arena.size), root, attrs,
        (arena.children root).toList.map (arena.tree arena.size), after.map (arena.tree arena.size),
        arena.looseIds.map (arena.tree arena.size)⟩ := by
  have hsplit := List.takeWhile_append_dropWhile (p := (!arena.isElement ·))
    (l := (arena.children documentId).toList)
  have hhead := List.head?_dropWhile_not (!arena.isElement ·) (arena.children documentId).toList
  generalize hdoc : arena.toDocument = doc
  unfold toDocument at hdoc
  dsimp only at hdoc
  split at hdoc
  · exact .inl hdoc.symm
  · next root after hdrop =>
    have hdrop : (arena.children documentId).toList.dropWhile (!arena.isElement ·) = root :: after := hdrop
    rw [hdrop] at hsplit hhead
    obtain ⟨name, attrs, hkind⟩ := exists_kind_of_isElement (by simpa using hhead)
    refine .inr ⟨_, root, after, name, attrs, hsplit.symm, hkind, ?_⟩
    have hslot : (arena.slot root).kind = .element name attrs := hkind
    rw [hslot] at hdoc
    exact hdoc.symm

/-- Each top node of the document is drawn from the table or is the root. -/
theorem isDrawn_of_mem_nodes (h : arena.IsRead) {n : Node} (hn : n ∈ arena.toDocument.nodes)
    (b a : List Node) : arena.IsDrawn (.top .document b n a) ∨ n = arena.toDocument.root := by
  have hchild : ∀ ids ⊆ (arena.children documentId).toList,
      n ∈ ids.map (arena.tree arena.size) → arena.IsDrawn (.top .document b n a) := by
    intro ids hids hn
    obtain ⟨c, hc, hn⟩ := List.mem_map.mp hn
    exact isDrawn_of_mem_children h (hids hc) hn.symm
  rcases arena.toDocument_eq with hempty | ⟨before, root, after, name, attrs, htop, -, hdoc⟩
  · rw [hempty] at hn ⊢
    exact .inr (List.mem_singleton.mp hn)
  · have hbefore : before ⊆ (arena.children documentId).toList := htop ▸ List.subset_append_left _ _
    have hafter : after ⊆ (arena.children documentId).toList := htop ▸ fun c hc =>
      List.mem_append_right _ (.tail _ hc)
    rw [Document.nodes, List.mem_append, List.mem_cons] at hn
    rcases hn with hn | hroot | hn
    · rw [hdoc] at hn
      exact .inl (hchild before hbefore hn)
    · exact .inr hroot
    · rw [hdoc] at hn
      exact .inl (hchild after hafter hn)

theorem goesInside_toDocument (h : arena.IsRead) :
    Place.GoesInside fun q => arena.IsDrawn q ∨ q.node = arena.toDocument.root := by
  rintro q b n a hq (hdrawn | hroot)
  · exact .inl (goesInside_isDrawn h q b n a hq hdrawn)
  · rw [hroot] at hq
    rcases arena.toDocument_eq with hempty | ⟨_, _, _, _, _, -, -, hdoc⟩
    · rw [hempty] at hq
      exact absurd hq (by simp [Document.empty, Document.root, Node.children])
    · rw [hdoc] at hq
      exact .inl (isDrawn_inside h rfl hq)

/-- Each place of the document is drawn from the table or is that of the root. -/
theorem isDrawn_toDocument (h : arena.IsRead) {p : Place}
    (hp : p ∈ arena.toDocument.places ∨ p ∈ arena.toDocument.loosePlaces) :
    arena.IsDrawn p ∨ p.node = arena.toDocument.root := by
  have hinside := goesInside_toDocument h
  rcases hp with hp | hp
  · refine Place.forall_mem_underAll hinside (.top .document) (fun _ _ _ => rfl) _ ?_ [] _ rfl p hp
    intro b n a hall
    refine isDrawn_of_mem_nodes h ?_ b a
    rw [← List.nil_append arena.toDocument.nodes, ← List.reverse_nil, hall]
    exact List.mem_append_right _ (.head _)
  · obtain ⟨n, hn, hp⟩ := List.mem_flatMap.mp hp
    refine Place.forall_mem_under hinside (.top .loose [] n []) n rfl (.inl ?_) p hp
    rcases arena.toDocument_eq with hempty | ⟨_, _, _, _, _, -, -, hdoc⟩
    · rw [hempty] at hn
      exact absurd hn List.not_mem_nil
    · rw [hdoc] at hn
      obtain ⟨id, -, hn⟩ := List.mem_map.mp hn
      -- what has been cut off is not attached, so nothing is asked of its parent
      exact ⟨_, id, hn.symm, fun hattached => by cases hattached⟩

theorem IsRead.isFairElement_of_element? (h : arena.IsRead) {p : Place}
    (hp : p ∈ arena.toDocument.places ∨ p ∈ arena.toDocument.loosePlaces) {e : Element}
    (he : p.element? = some e) : IsFairElement e.name e.attrs := by
  rcases isDrawn_toDocument h hp with ⟨depth, id, hnode, -⟩ | hnode
  · exact h.fair id _ _ (kind_of_element? hnode he)
  · obtain rfl : arena.toDocument.rootElement = e := by
      rw [Place.element?, hnode] at he
      exact Option.some.inj he
    refine ⟨(isFair_bare "html" (by decide) (by decide)).name, ?_⟩
    rcases arena.toDocument_eq with hempty | ⟨before, root, after, name, attrs, -, hkind, hdoc⟩
    · rw [hempty]
      exact fun a ha => absurd ha List.not_mem_nil
    · rw [hdoc]
      exact (h.fair root name attrs hkind).attrs

theorem loose_eq_nil_of_placed
    (h : ∀ id < arena.size, id ≠ documentId → arena.parent? id ≠ none) : arena.toDocument.loose = [] := by
  have hnone : arena.looseIds = [] := by
    refine List.filter_eq_nil_iff.mpr fun id hid hcond => ?_
    rw [Bool.and_eq_true, bne_iff_ne, Option.isNone_iff_eq_none] at hcond
    exact h id (List.mem_range.mp hid) hcond.1 hcond.2
  rcases arena.toDocument_eq with hempty | ⟨_, _, _, _, _, -, -, hdoc⟩
  · rw [hempty]
    rfl
  · rw [hdoc, hnone]
    rfl

/-- If the page has a body, nothing of it has been cut off. -/
theorem IsRead.loose_eq_nil_of_label (h : arena.IsRead) {p : Place}
    (hp : p ∈ arena.toDocument.elementPlaces)
    (hbody : (p.element?.any (·.label == "body")) = true) : arena.toDocument.loose = [] := by
  obtain ⟨hmem, hattached, -⟩ := Document.mem_elementPlaces.mp hp
  obtain ⟨e, he, hlabel⟩ : ∃ e, p.element? = some e ∧ e.label = "body" := by
    simpa [Option.any_eq_true] using hbody
  rcases isDrawn_toDocument h hmem with ⟨depth, id, hnode, hparent⟩ | hnode
  · obtain ⟨q, hq⟩ := hparent hattached
    have hkind := kind_of_element? hnode he
    rcases h.cut with hcut | ⟨body, hloose, hall⟩
    · exact loose_eq_nil_of_placed hcut
    · -- only this body could be without a place, and it has one
      refine loose_eq_nil_of_placed fun i hi hne hnone => ?_
      have heq : i = id := (hloose i hi hne hnone).trans (hall id _ _ hkind hlabel).symm
      rw [heq, hq] at hnone
      cases hnone
  · rw [Place.element?, hnode] at he
    obtain rfl := Option.some.inj he
    have hhtml : "html" ≠ "body" := by decide
    exact absurd hlabel hhtml

end Arena

end Build

/-! ## Pages -/

namespace Document

theorem exists_isRead_ofHtml (html : String) :
    ∃ arena : Build.Arena, arena.IsRead ∧ ofHtml html = arena.toDocument :=
  ⟨_, (Build.Reader.isReading_text (sourceChars html)).isRead, rfl⟩

/-- The names and attributes of the elements of a page are fair. -/
theorem isFair_ofHtml (html : String) {p : Place} (hp : p ∈ (ofHtml html).elementPlaces ∨
    p = (ofHtml html).rootPlace) {e : Element} (he : p.element? = some e) :
    Build.IsFairElement e.name e.attrs := by
  obtain ⟨arena, hread, hdoc⟩ := exists_isRead_ofHtml html
  rw [hdoc] at hp
  refine hread.isFairElement_of_element? (hp.elim (fun hp => (mem_elementPlaces.mp hp).1) ?_) he
  rintro rfl
  exact .inl (rootPlace_mem_places _)

/-- A page with a body has no trees that have been cut off. -/
theorem loose_eq_nil_of_body (html : String) {p : Place} (hp : p ∈ (ofHtml html).elementPlaces)
    (hbody : (p.element?.any (·.label == "body")) = true) : (ofHtml html).loose = [] := by
  obtain ⟨arena, hread, hdoc⟩ := exists_isRead_ofHtml html
  rw [hdoc] at hp ⊢
  exact hread.loose_eq_nil_of_label hp hbody

/-- The outline of a page begins in the document, not in what has been cut off. -/
theorem bodyPlace_mem_places (html : String) :
    (Document.ofHtml html).bodyPlace ∈ (Document.ofHtml html).places := by
  have hloose : ∀ p, p ∈ (ofHtml html).elementPlaces → (p.element?.any (·.label == "body")) = true →
      (ofHtml html).loose = [] := fun p => loose_eq_nil_of_body html
  generalize ofHtml html = doc at hloose
  unfold bodyPlace
  cases hfind : doc.elementPlaces.find? fun p => p.element?.any (·.label == "body") with
  | none => exact rootPlace_mem_places doc
  | some p =>
    have hmem := List.mem_of_find?_eq_some hfind
    have hbody := List.find?_some (p := fun p : Place => p.element?.any (·.label == "body")) hfind
    have hnone := hloose p hmem hbody
    rcases (mem_elementPlaces.mp hmem).1 with hp | hp
    · exact hp
    · rw [loosePlaces, hnone] at hp
      exact absurd hp List.not_mem_nil

end Document

end PageEdit.Html
