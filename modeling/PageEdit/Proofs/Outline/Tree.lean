import Mathlib.Data.List.Nodup
import PageEdit.Outline.Record
import PageEdit.Proofs.Outline.Building

/-!
# The tree of an outline

An outline is a list of entries that name each other. It stands for a tree: its entries are the elements
below the body in document order, each but the first names the entry of the element around it, and each
entry lists the entries that name it. The invariant is a list of places with their entries that grows at its
end, each new entry naming one that is there already; all that is said of the tree is read off this growth.

The content of a template hangs under a node of its own, and the walk does not go into it. So the outline has
all elements that are outside scripts exactly if none of them is in a template.

* `Grown.nodup_ids`, `Grown.head`, `Grown.parent_before`: what growth keeps.
* `outline_is_the_tree_below_the_body`: the entries of a page and how they hang together.
-/

namespace PageEdit.Outline

open Html

/-! ## One addition -/

/-- What an entry says of the element at a place, apart from where it stands in the outline. -/
structure Entry.Shows (entry : Entry) (p : Place) : Prop where
  element : ∃ e, p.element? = some e ∧ entry.tag = e.label ∧ entry.classes = e.classes ∧
    entry.selector = selectorOf e ∧ entry.attributes = attributesOf e
  markup : entry.markup = p.node.outerMarkup
  text : entry.text = Text.cut textLimit p.node.textContent

/-- What an entry passes on to what is in its element. -/
def Entry.owner (entry : Entry) : Owner := ⟨entry.id, entry.sectionId, entry.selector, entry.path⟩

/-- What adding an element comes to. -/
structure Adds (owner : Option Owner) (outer : Option String) (p : Place) (d d' : Draft)
    (o : Owner) (entry : Entry) : Prop where
  entries : d'.entries = d.entries ++ [entry]
  given : d'.given = d.given ++ [entry.id]
  runs : d'.runs = d.runs
  owner_eq : o = entry.owner
  fresh : entry.id ∉ d.given
  shows : entry.Shows p
  parent : entry.parent = owner.map (·.id)
  path : entry.path = (owner.elim "" fun o => o.path ++ "/") ++ entry.tag
  section_eq : entry.sectionId =
    (p.element?.bind Element.section?).or (owner.elim outer fun o => o.sectionId)

theorem adds_addElement (hash : String → String) (owner : Option Owner) (outer : Option String)
    {p : Place} {e : Element} {children : List Node} (hn : p.node = .element e children) (d : Draft) :
    ∃ entry, Adds owner outer p d (d.addElement hash owner outer e children).1
      (d.addElement hash owner outer e children).2 entry := by
  have helement : p.element? = some e := by simp [Place.element?, Node.element?, hn]
  refine ⟨_, rfl, rfl, rfl, rfl, fresh_not_mem _ _ _ _, ⟨⟨e, helement, rfl, rfl, rfl, rfl⟩, ?_, ?_⟩,
    rfl, ?_, ?_⟩
  · rw [hn]
  · rw [hn]
  · cases owner <;> simp
  · rw [helement]
    cases owner <;> rfl

theorem entries_addRun (hash : String → String) (o : Owner) (s : String) (d : Draft) :
    (d.addRun hash o s).entries = d.entries := by
  simp only [Draft.addRun]
  split <;> rfl

theorem mem_given_addRun {hash : String → String} {o : Owner} {s id : String} {d : Draft}
    (h : id ∈ d.given) : id ∈ (d.addRun hash o s).given := by
  simp only [Draft.addRun]
  split
  · exact h
  · exact List.mem_append_left _ h

/-! ## Growth -/

/-- Places with their entries as additions make them: the first has no parent, and each of the others is
put under one that is there. -/
inductive Grown : List (Place × Entry) → Prop
  | root {p : Place} {entry : Entry} (shows : entry.Shows p) (parent : entry.parent = none)
      (path : entry.path = entry.tag) : Grown [(p, entry)]
  | child {rows : List (Place × Entry)} {p q : Place} {entry f : Entry} (grown : Grown rows)
      (mem : (q, f) ∈ rows) (around : p.parent? = some q) (shows : entry.Shows p)
      (parent : entry.parent = some f.id) (path : entry.path = f.path ++ "/" ++ entry.tag)
      (fresh : entry.id ∉ rows.map (·.2.id)) : Grown (rows ++ [(p, entry)])

/-- The draft that additions have built has grown. -/
theorem Built.exists_grown {hash : String → String} {outer : Option String} {walked : List Place}
    {owners : List (Place × Owner)} {d : Draft} (built : Built hash outer walked owners d) :
    ∃ rows, Grown rows ∧ rows.map (·.2) = d.entries ∧
      rows.map (·.1) = walked.filter (·.node.isElement) ∧
      rows.map (fun r => (r.1, r.2.owner)) = owners ∧ ∀ r ∈ rows, r.2.id ∈ d.given := by
  induction built with
  | @root p e children node shown =>
    obtain ⟨entry, h⟩ := adds_addElement hash none outer node Draft.empty
    have hpath : entry.path = entry.tag := by simpa using h.path
    have helement : p.node.isElement = true := by simp [node, Node.isElement, Node.element?]
    refine ⟨[(p, entry)], .root h.shows h.parent hpath, ?_, by simp [helement],
      by simp [h.owner_eq], by simp [h.given]⟩
    rw [h.entries]
    rfl
  | @element walked owners d p q o e children built mem parent node shown ih =>
    obtain ⟨rows, hgrown, hentries, hplaces, howners, hgiven⟩ := ih
    obtain ⟨entry, h⟩ := adds_addElement hash (some o) none node d
    have helement : p.node.isElement = true := by simp [node, Node.isElement, Node.element?]
    obtain ⟨⟨q', f⟩, hf, hqo⟩ := List.mem_map.mp (howners ▸ mem)
    obtain ⟨rfl, rfl⟩ := Prod.mk.inj hqo
    refine ⟨rows ++ [(p, entry)], .child hgrown hf parent h.shows h.parent ?_ ?_, ?_, ?_, ?_, ?_⟩
    · simpa [Entry.owner] using h.path
    · intro hmem
      obtain ⟨r, hr, hid⟩ := List.mem_map.mp hmem
      exact h.fresh (hid ▸ hgiven r hr)
    · rw [List.map_append, hentries, h.entries]
      rfl
    · simp [hplaces, helement]
    · simp [howners, h.owner_eq]
    · intro r hr
      rw [h.given]
      rcases List.mem_append.mp hr with hr | hr
      · exact List.mem_append_left _ (hgiven r hr)
      · rw [List.mem_singleton.mp hr]
        exact List.mem_append_right _ List.mem_cons_self
  | @run walked owners d p q o s built mem parent node ih =>
    obtain ⟨rows, hgrown, hentries, hplaces, howners, hgiven⟩ := ih
    have helement : p.node.isElement = false := by simp [node, Node.isElement, Node.element?]
    exact ⟨rows, hgrown, by rw [hentries, entries_addRun], by simp [hplaces, helement], howners,
      fun r hr => mem_given_addRun (hgiven r hr)⟩

namespace Grown

variable {rows : List (Place × Entry)}

theorem nodup_ids (h : Grown rows) : (rows.map (·.2.id)).Nodup := by
  induction h with
  | root => simp
  | child grown mem around shows parent path fresh ih =>
    rw [List.map_append, List.nodup_append]
    refine ⟨ih, by simp, ?_⟩
    rintro id hid _ hnew rfl
    rw [List.mem_singleton.mp hnew] at hid
    exact fresh hid

theorem shows (h : Grown rows) : ∀ r ∈ rows, r.2.Shows r.1 := by
  induction h with
  | root shows => simpa using shows
  | child grown mem around shows parent path fresh ih =>
    intro r hr
    rcases List.mem_append.mp hr with hr | hr
    · exact ih r hr
    · rw [List.mem_singleton.mp hr]
      exact shows

theorem head (h : Grown rows) :
    ∃ p entry rest, rows = (p, entry) :: rest ∧ entry.parent = none ∧ entry.path = entry.tag := by
  induction h with
  | root shows parent path => exact ⟨_, _, [], rfl, parent, path⟩
  | child grown mem around shows parent path fresh ih =>
    obtain ⟨p, entry, rest, rfl, hparent, hpath⟩ := ih
    exact ⟨p, entry, _, rfl, hparent, hpath⟩

/-- Whoever is not first has been put under one that stands before it. -/
theorem parent_before (h : Grown rows) {i : Nat} {p : Place} {entry : Entry}
    (hi : rows[i + 1]? = some (p, entry)) :
    ∃ j, ∃ q f, j ≤ i ∧ rows[j]? = some (q, f) ∧ p.parent? = some q ∧ entry.parent = some f.id ∧
      entry.path = f.path ++ "/" ++ entry.tag := by
  induction h generalizing i p entry with
  | root => simp at hi
  | @child rows p' q entry' f grown mem around shows parent path fresh ih =>
    by_cases hlt : i + 1 < rows.length
    · rw [List.getElem?_append_left hlt] at hi
      obtain ⟨j, q, f, hj, hrow, hrest⟩ := ih hi
      exact ⟨j, q, f, hj, by rw [List.getElem?_append_left (by omega), hrow], hrest⟩
    · rw [List.getElem?_append_right (Nat.le_of_not_lt hlt), List.getElem?_singleton] at hi
      split at hi
      · cases hi
        obtain ⟨j, hj, hrow⟩ := List.getElem_of_mem mem
        refine ⟨j, q, f, by omega, ?_, around, parent, path⟩
        rw [List.getElem?_append_left hj, List.getElem?_eq_getElem hj, hrow]
      · cases hi

end Grown

/-! ## Children -/

/-- The entries with the children that finishing gives them. -/
def linked (entries : List Entry) : List Entry := entries.map (Draft.withChildren entries)

theorem mem_children_withChildren {entries : List Entry} {entry : Entry} {id : String} :
    id ∈ (Draft.withChildren entries entry).children ↔
      ∃ child ∈ entries, child.parent = some entry.id ∧ child.id = id := by
  simp [Draft.withChildren, and_assoc]

theorem children_withChildren_sublist (entries : List Entry) (entry : Entry) :
    (Draft.withChildren entries entry).children.Sublist (entries.map (·.id)) :=
  List.filter_sublist.map _

/-- No two places in the lists of children hold the same entry. -/
theorem nodup_flatMap_children {entries : List Entry} (h : (entries.map (·.id)).Nodup) :
    ((linked entries).flatMap (·.children)).Nodup := by
  rw [linked, List.flatMap_map, List.Nodup, List.pairwise_flatMap]
  refine ⟨fun entry _ => h.sublist (children_withChildren_sublist entries entry), ?_⟩
  refine (List.pairwise_map.mp h).imp fun {a b} hne x hx y hy hxy => hne ?_
  obtain ⟨c, hc, hca, rfl⟩ := mem_children_withChildren.mp hx
  obtain ⟨d, hd, hdb, hid⟩ := mem_children_withChildren.mp hy
  -- an entry is known by its identifier, and it has one parent
  obtain rfl : c = d := List.inj_on_of_nodup_map h hc hd (hxy.trans hid.symm)
  exact Option.some.inj (hca.symm.trans hdb)

/-! ## The tree -/

/-- The places below `top` of elements that are not in scripts, styles and what stands in for scripts, in
document order. -/
def plainElements (top : Place) : List Place :=
  top.subtree.filter fun p => p.node.isElement && !(Place.upTo top p).any Place.isSkipped

/-- Whether a place below `top` is in the content of a template. -/
def isInTemplate (top p : Place) : Bool := (Place.upTo top p).any Place.isContent

/-- The places below `top` of elements that are neither there nor in the content of a template. -/
def shownElements (top : Place) : List Place := (plainElements top).filter (!isInTemplate top ·)

/-- Whether entries are those of some places, and hang together as the elements there do. -/
structure IsTreeOf (entries : List Entry) (places : List Place) : Prop where
  length_eq : entries.length = places.length
  nodup_ids : (entries.map (·.id)).Nodup
  shows : ∀ (i : Nat) (p : Place) (entry : Entry), places[i]? = some p → entries[i]? = some entry →
    entry.Shows p
  root : ∃ entry, entries[0]? = some entry ∧ entry.parent = none ∧ entry.path = entry.tag
  /-- All but the first stand under the element around them, which comes before. -/
  child : ∀ (i : Nat) (p : Place) (entry : Entry), places[i + 1]? = some p → entries[i + 1]? = some entry →
    ∃ j, ∃ q f, j ≤ i ∧ places[j]? = some q ∧ entries[j]? = some f ∧
      p.ancestors.find? (·.node.isElement) = some q ∧ entry.parent = some f.id ∧
      entry.id ∈ f.children ∧ entry.path = f.path ++ "/" ++ entry.tag
  once : ∀ (i : Nat) (entry : Entry), entries[i + 1]? = some entry →
    (entries.flatMap (·.children)).count entry.id = 1
  ordered : ∀ f ∈ entries, f.children.Sublist (entries.map (·.id))

theorem all_isOpen (places : List Place) :
    places.all Place.isOpen =
      (!places.any Place.isSkipped && !places.any Place.isContent) := by
  induction places with
  | nil => rfl
  | cons p rest ih =>
    rw [List.all_cons, List.any_cons, List.any_cons, ih, Place.isOpen]
    cases p.isSkipped <;> cases p.isContent <;> simp

theorem filter_isWalked_isElement (top : Place) :
    (top.subtree.filter top.isWalked).filter (·.node.isElement) = shownElements top := by
  rw [shownElements, plainElements, List.filter_filter, List.filter_filter]
  refine List.filter_congr fun p _ => ?_
  have hstop : p.node.isElement = (p.node.isElement && p.isStop) := by
    cases hn : p.node <;> simp [Place.isStop, hn, Node.isElement, Node.element?]
  rw [Place.isWalked, all_isOpen, ← Bool.and_assoc, ← hstop, ← Bool.and_assoc, Bool.and_comm]
  rfl

theorem ancestors_of_parent? {p q : Place} (h : p.parent? = some q) :
    p.ancestors = q :: q.ancestors := by
  cases p with
  | top => cases h
  | inside parent before node after =>
    cases h
    rfl

theorem Entry.Shows.isElement {entry : Entry} {p : Place} (h : entry.Shows p) :
    p.node.isElement = true := by
  obtain ⟨e, he, -⟩ := h.element
  exact Option.isSome_iff_exists.mpr ⟨e, he⟩

theorem Entry.Shows.withChildren {entry : Entry} {p : Place} (h : entry.Shows p)
    (entries : List Entry) : (Draft.withChildren entries entry).Shows p :=
  ⟨h.element, h.markup, h.text⟩

section Rows

variable {rows : List (Place × Entry)} {i : Nat} {p : Place} {entry : Entry}

theorem exists_row (hp : (rows.map (·.1))[i]? = some p)
    (he : (linked (rows.map (·.2)))[i]? = some entry) :
    ∃ f, rows[i]? = some (p, f) ∧ entry = Draft.withChildren (rows.map (·.2)) f := by
  rw [List.getElem?_map] at hp
  obtain ⟨⟨q, f⟩, hrow, rfl⟩ := Option.map_eq_some_iff.mp hp
  simp only [linked, List.getElem?_map, hrow, Option.map_some, Option.some.injEq] at he
  exact ⟨f, hrow, he.symm⟩

theorem getElem?_linked (hrow : rows[i]? = some (p, entry)) :
    (rows.map (·.1))[i]? = some p ∧
      (linked (rows.map (·.2)))[i]? = some (Draft.withChildren (rows.map (·.2)) entry) := by
  simp [linked, hrow]

theorem ids_linked (entries : List Entry) : (linked entries).map (·.id) = entries.map (·.id) := by
  rw [linked, List.map_map]
  rfl

theorem Grown.linked_child (h : Grown rows) (hp : (rows.map (·.1))[i + 1]? = some p)
    (he : (linked (rows.map (·.2)))[i + 1]? = some entry) :
    ∃ j, ∃ q f, j ≤ i ∧ (rows.map (·.1))[j]? = some q ∧ (linked (rows.map (·.2)))[j]? = some f ∧
      p.ancestors.find? (·.node.isElement) = some q ∧ entry.parent = some f.id ∧
      entry.id ∈ f.children ∧ entry.path = f.path ++ "/" ++ entry.tag := by
  obtain ⟨g, hrow, rfl⟩ := exists_row hp he
  obtain ⟨j, q, f, hj, hq, haround, hparent, hpath⟩ := h.parent_before hrow
  obtain ⟨hplace, hentry⟩ := getElem?_linked hq
  have hmem : g ∈ rows.map (·.2) := List.mem_map_of_mem (List.mem_of_getElem? hrow)
  have helement : q.node.isElement = true := (h.shows _ (List.mem_of_getElem? hq)).isElement
  refine ⟨j, q, _, hj, hplace, hentry, ?_, hparent, ?_, hpath⟩
  · simp [ancestors_of_parent? haround, helement]
  · exact mem_children_withChildren.mpr ⟨g, hmem, hparent, rfl⟩

/-- What has grown is a tree when its entries know their children. -/
theorem Grown.isTreeOf_linked (h : Grown rows) :
    IsTreeOf (linked (rows.map (·.2))) (rows.map (·.1)) := by
  have hids : ((rows.map (·.2)).map (·.id)).Nodup := by
    rw [List.map_map]
    exact h.nodup_ids
  refine ⟨by simp [linked], ?_, ?_, ?_, fun i p entry hp he => h.linked_child hp he, ?_, ?_⟩
  · rw [ids_linked]
    exact hids
  · intro i p entry hp he
    obtain ⟨f, hrow, rfl⟩ := exists_row hp he
    exact (h.shows _ (List.mem_of_getElem? hrow)).withChildren _
  · obtain ⟨p, f, rest, rfl, hparent, hpath⟩ := h.head
    exact ⟨_, rfl, hparent, hpath⟩
  · intro i entry he
    have hlt : i + 1 < rows.length := by
      have hlength := (List.getElem?_eq_some_iff.mp he).1
      simpa [linked] using hlength
    have hp : (rows.map (·.1))[i + 1]? = some rows[i + 1].1 := by simp [hlt]
    obtain ⟨j, q, f, -, -, hf, -, -, hmem, -⟩ := h.linked_child hp he
    refine List.count_eq_one_of_mem (nodup_flatMap_children hids) ?_
    exact List.mem_flatMap.mpr ⟨f, List.mem_of_getElem? hf, hmem⟩
  · intro f hf
    obtain ⟨g, -, rfl⟩ := List.mem_map.mp hf
    rw [ids_linked]
    exact children_withChildren_sublist _ g

end Rows

/-! ## Main statement -/

theorem isTreeOf_ofDocument (hash : String → String) (doc : Document) (size : Nat) :
    IsTreeOf (ofDocument hash doc size).entries (shownElements doc.bodyPlace) := by
  obtain ⟨owners, hbuilt⟩ := built_ofDocument hash doc
  obtain ⟨rows, hgrown, hentries, hplaces, -, -⟩ := hbuilt.exists_grown
  have htree := hgrown.isTreeOf_linked
  rw [hentries, hplaces, filter_isWalked_isElement] at htree
  exact htree

/-- The entries of a page are a tree: they are, in document order, the elements below the body that are
neither in scripts, styles and what stands in for scripts nor in the content of a template, and they hang
together as these do. There is at least one. They are all elements that are outside scripts exactly if none
of these is in the content of a template. -/
theorem outline_is_the_tree_below_the_body (html : String) :
    let top := (Document.ofHtml html).bodyPlace
    let entries := (ofHtml html).entries
    IsTreeOf entries (shownElements top) ∧
      (ofHtml html).toJson.get? "total_nodes" = some (count entries.length) ∧ 1 ≤ entries.length ∧
      (IsTreeOf entries (plainElements top) ↔
        ∀ p ∈ plainElements top, isInTemplate top p = false) := by
  intro top entries
  have htree : IsTreeOf entries (shownElements top) := isTreeOf_ofDocument _ _ _
  refine ⟨htree, rfl, ?_, ?_⟩
  · obtain ⟨entry, hentry, -⟩ := htree.root
    exact (List.getElem?_eq_some_iff.mp hentry).1
  · constructor
    · intro hall
      have hlength : (shownElements top).length = (plainElements top).length :=
        htree.length_eq.symm.trans hall.length_eq
      simpa using List.length_filter_eq_length_iff.mp hlength
    · intro hnone
      have hsame : shownElements top = plainElements top :=
        List.filter_eq_self.mpr fun p hp => by simp [hnone p hp]
      exact hsame ▸ htree

/-- An element in the content of a template has no entry. -/
theorem not_isTreeOf_plainElements_template :
    ¬ IsTreeOf (ofHtml "<body><template><p></p></template>").entries
      (plainElements (Document.ofHtml "<body><template><p></p></template>").bodyPlace) := by
  intro h
  have hlength : (ofHtml "<body><template><p></p></template>").entries.length ≠
      (plainElements (Document.ofHtml "<body><template><p></p></template>").bodyPlace).length := by
    decide +kernel
  exact hlength h.length_eq

end PageEdit.Outline
