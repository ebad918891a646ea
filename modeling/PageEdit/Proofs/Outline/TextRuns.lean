import PageEdit.Proofs.Html.Clearing
import PageEdit.Proofs.Outline.Sections
import PageEdit.Proofs.Text.Words

/-!
# The runs of an outline

Text stands in runs between elements. A run that has at least two characters without the blanks at its ends is
listed under the element that it stands in, if this is listed itself; what an entry passes on to the runs in it
is what it says of itself. Characters without the blanks at the ends are counted here, and characters that are no
blanks where runs are added: two of the ones are two of the others.

A shorter run takes no number and no identifier. So runs like that can be deleted from a page, or put into it,
and all other runs and the identifiers of all entries stay.

* `Built.forall₂_runs`: the runs that the walk has added.
* `mem_filter_isWalked`: which runs these are.
* `Draft.withoutContent_visit`: the walk through a tree and through the tree without its short runs.
* `runs_are_listed_under_their_elements`: the runs of a page.
-/

namespace PageEdit

namespace Html

/-- The run of text that a node is, without the blanks at its ends. -/
def Node.run? : Node → Option String
  | .text s => some (Text.trim s)
  | _ => none

/-- Whether a node is a run of text with at least two characters without the blanks at its ends. -/
def Node.isLongRun (n : Node) : Bool := n.run?.any (2 ≤ ·.length)

/-- Whether a node is a shorter run of text. -/
def Node.isShortRun (n : Node) : Bool := n.run?.any (·.length < 2)

namespace Node

mutual

/-- A node without the short runs in it. -/
def withoutShortRuns : Node → Node
  | .element e children => .element e (withoutShortRunsAll children)
  | .fragment children => .fragment (withoutShortRunsAll children)
  | .text s => .text s
  | .comment s => .comment s
  | .doctype name => .doctype name

/-- Some nodes without the short runs among them and in them. -/
def withoutShortRunsAll : List Node → List Node
  | [] => []
  | n :: rest => if n.isShortRun then withoutShortRunsAll rest else withoutShortRuns n :: withoutShortRunsAll rest

end

end Node

end Html

namespace Outline

open Html

/-! ## The runs that are listed -/

/-- What a run says of the run of text at a place: its text, and what the entry of the element around it says of
this element. `rows` are the entries with the places of their elements. -/
structure Run.Shows (rows : List (Entry × Place)) (run : Run) (p : Place) : Prop where
  text : p.node.run? = some run.text
  owner : ∃ entry q, (entry, q) ∈ rows ∧ entry.Shows q ∧ p.parent? = some q ∧ run.parent = entry.id ∧
    run.selector = entry.selector ∧ run.path = entry.path ∧ run.sectionId = entry.sectionId

/-- What a run takes from what the element around it passes on. -/
def Owner.Owns (o : Owner) (run : Run) : Prop :=
  run.parent = o.id ∧ run.selector = o.selector ∧ run.path = o.path ∧ run.sectionId = o.sectionId

/-- A run is added if it is long. -/
theorem addRun_eq (hash : String → String) (o : Owner) (s : String) (d : Draft) :
    (Node.text s).isLongRun = false ∧ d.addRun hash o s = d ∨
      (Node.text s).isLongRun = true ∧
        ∃ run : Run, (d.addRun hash o s).runs = d.runs ++ [run] ∧ run.text = Text.trim s ∧ o.Owns run := by
  have hlong : (Node.text s).isLongRun = true ↔ ¬ (Text.trim s).toList.countP (!Text.isBlank ·) < runMinimum := by
    have htrim : (Text.trim s).toList.countP (!Text.isBlank ·) = s.toList.countP (!Text.isBlank ·) := by
      rw [Text.trim, String.toList_ofList, Text.countP_trimChars]
    rw [htrim, runMinimum, Nat.not_lt, ← Text.two_le_length_trim_iff]
    simp [Node.isLongRun, Node.run?]
  by_cases hshort : (Text.trim s).toList.countP (!Text.isBlank ·) < runMinimum
  · exact .inl ⟨by rw [← Bool.not_eq_true, hlong]; exact not_not_intro hshort, by simp only [Draft.addRun, if_pos hshort]⟩
  · refine .inr ⟨hlong.mpr hshort, ?_⟩
    simp only [Draft.addRun, if_neg hshort]
    exact ⟨_, rfl, rfl, rfl, rfl, rfl, rfl⟩

/-- The runs that the walk has added are the long ones that it has come to, each under an element that it has come
to. -/
theorem Built.forall₂_runs {hash : String → String} {outer : Option String} {walked : List Place}
    {owners : List (Place × Owner)} {d : Draft} (built : Built hash outer walked owners d) :
    List.Forall₂ (fun run p => p.node.run? = some run.text ∧
        ∃ q o, (q, o) ∈ owners ∧ p.parent? = some q ∧ o.Owns run)
      d.runs (walked.filter (·.node.isLongRun)) := by
  induction built with
  | root node => simp [node, Node.isLongRun, Node.run?, Draft.addElement, Draft.empty]
  | element built mem parent node shown ih =>
    rw [List.filter_append, List.filter_singleton, node]
    simp only [Node.isLongRun, Node.run?, Option.any_none, cond_false, List.append_nil]
    refine ih.imp fun run p hrun => ?_
    obtain ⟨htext, q, o, hmem, howns⟩ := hrun
    exact ⟨htext, q, o, List.mem_append_left _ hmem, howns⟩
  | @run walked owners d p q o s built mem parent node ih =>
    rw [List.filter_append, List.filter_singleton, node]
    rcases addRun_eq hash o s d with ⟨hshort, hd⟩ | ⟨hlong, run, hruns, htext, howns⟩
    · rw [hshort, hd, cond_false, List.append_nil]
      exact ih
    · rw [hlong, hruns, cond_true]
      refine List.rel_append ih (.cons ⟨?_, q, o, mem, parent, howns⟩ .nil)
      rw [node, Node.run?, htext]

/-! ## Which runs these are -/

theorem mem_shownElements {top q : Place} : q ∈ shownElements top ↔
    q ∈ top.subtree ∧ q.node.isElement = true ∧ (Place.upTo top q).all Place.isOpen = true := by
  have hstop : q.node.isElement = true → q.isStop = true := by
    cases hn : q.node <;> simp [Place.isStop, hn, Node.isElement, Node.element?]
  rw [← filter_isWalked_isElement, List.mem_filter, List.mem_filter, Place.isWalked, Bool.and_eq_true]
  exact ⟨fun ⟨⟨hmem, _, hopen⟩, helement⟩ => ⟨hmem, helement, hopen⟩,
    fun ⟨hmem, helement, hopen⟩ => ⟨⟨hmem, hstop helement, hopen⟩, helement⟩⟩

/-- The walk comes to a run of text if it goes on at the node around it. -/
theorem isWalked_of_run {top p q : Place} (hmem : q ∈ top.subtree) (hparent : p.parent? = some q)
    (hrun : p.node.run?.isSome = true) : top.isWalked p = (Place.upTo top q).all Place.isOpen := by
  cases p with
  | top => cases hparent
  | inside parent before node after =>
    obtain rfl := Option.some.inj hparent
    have hdepth := Place.length_ancestors_le_of_mem_subtree hmem
    cases node with
    | text s =>
      have hstop : (Place.inside parent before (.text s) after).isStop = true := rfl
      have hopen : (Place.inside parent before (.text s) after).isOpen = true := rfl
      rw [Place.isWalked, Place.upTo_inside hdepth, List.all_cons, hstop, hopen, Bool.true_and, Bool.true_and]
    | _ => cases hrun

/-- What has a node in it is an element, or the content of a template. -/
theorem isElement_of_children {q : Place} (hne : q.node.children ≠ []) (hopen : q.isOpen = true) :
    q.node.isElement = true := by
  cases hn : q.node with
  | element e children => rfl
  | fragment children =>
    rw [Place.isOpen, Place.isContent, hn, Bool.not_true, Bool.and_false] at hopen
    cases hopen
  | _ => exact absurd (by rw [hn]; rfl) hne

/-- The walk comes to a run of text exactly if it is in an element that is listed. -/
theorem mem_filter_isWalked {top p : Place} (htop : top.Fits) (helement : top.node.isElement = true)
    (hp : p.Fits) (hrun : p.node.run?.isSome = true) :
    p ∈ top.subtree.filter top.isWalked ↔ ∃ q ∈ shownElements top, p.parent? = some q := by
  rw [List.mem_filter]
  constructor
  · rintro ⟨hmem, hwalked⟩
    rcases Place.mem_subtree_of_parent? hmem with rfl | ⟨q, hq, hparent⟩
    · cases hn : p.node with
      | text s =>
        rw [hn] at helement
        cases helement
      | _ => rw [hn] at hrun; cases hrun
    · rw [isWalked_of_run hq hparent hrun] at hwalked
      refine ⟨q, mem_shownElements.mpr ⟨hq, ?_, hwalked⟩, hparent⟩
      have hopen : q.isOpen = true := by
        rw [Place.all_upTo, Bool.and_eq_true] at hwalked
        exact hwalked.1
      refine isElement_of_children (fun hnil => ?_) hopen
      cases p with
      | top => cases hparent
      | inside parent before node after =>
        obtain rfl := Option.some.inj hparent
        have hchildren := hp.1
        rw [hnil] at hchildren
        simp at hchildren
  · rintro ⟨q, hq, hparent⟩
    obtain ⟨hmem, -, hopen⟩ := mem_shownElements.mp hq
    refine ⟨?_, by rw [isWalked_of_run hmem hparent hrun, hopen]⟩
    cases p with
    | top => cases hparent
    | inside parent before node after =>
      obtain rfl := Option.some.inj hparent
      exact Place.inside_mem_subtree hmem hp.1

/-- The runs of a document are the long ones that the walk comes to. -/
theorem forall₂_runs_ofDocument (hash : String → String) (doc : Document) (size : Nat) :
    let o := ofDocument hash doc size
    List.Forall₂ (Run.Shows (o.entries.zip (shownElements doc.bodyPlace))) o.runs
      ((doc.bodyPlace.subtree.filter doc.bodyPlace.isWalked).filter (·.node.isLongRun)) := by
  intro o
  obtain ⟨owners, hbuilt⟩ := built_ofDocument hash doc
  obtain ⟨rows, hgrown, hentries, hplaces, howners, -⟩ := hbuilt.exists_grown
  have hfinish : o.entries = linked (rows.map (·.2)) := by
    rw [hentries]
    rfl
  have hzip : o.entries.zip (shownElements doc.bodyPlace) =
      rows.map fun r => (Draft.withChildren (rows.map (·.2)) r.2, r.1) := by
    rw [hfinish, ← filter_isWalked_isElement, ← hplaces, linked, List.map_map, List.zip_map']
    rfl
  rw [hzip]
  refine hbuilt.forall₂_runs.imp fun run p hrun => ?_
  obtain ⟨htext, q, owner, hmem, hparent, howns⟩ := hrun
  obtain ⟨r, hr, heq⟩ := List.mem_map.mp (howners ▸ hmem)
  obtain ⟨rfl, rfl⟩ := Prod.mk.inj heq
  exact ⟨htext, _, r.1, List.mem_map_of_mem hr, (hgrown.shows r hr).withChildren _, hparent, howns⟩

/-! ## Without short runs -/

/-- An entry without the markup and the text of its element. -/
def Entry.withoutContent (e : Entry) : Entry := { e with markup := "", text := "" }

namespace Draft

/-- All of a draft but markup and text of elements. -/
def withoutContent (d : Draft) : Draft := { d with entries := d.entries.map Entry.withoutContent }

variable (hash : String → String) {d d' : Draft}

/-- An element is added alike to drafts that differ at most in content, whatever its number and what is in it. -/
theorem withoutContent_addElement (h : d.withoutContent = d'.withoutContent) (owner : Option Owner)
    (outer : Option String) (e : Element) (children children' : List Node) :
    (d.addElement hash owner outer e children).1.withoutContent =
        (d'.addElement hash owner outer e.unnumbered children').1.withoutContent ∧
      (d.addElement hash owner outer e children).2 = (d'.addElement hash owner outer e.unnumbered children').2 := by
  simp only [withoutContent, mk.injEq] at h
  obtain ⟨hcount, hentries, hrun, hgiven⟩ := h
  refine ⟨?_, ?_⟩
  · simp only [addElement, withoutContent, List.map_append, hcount, hentries, hrun, hgiven]
    rfl
  · simp only [addElement, hcount, hgiven]
    rfl

/-- The walk passes over a short run. -/
theorem visit_of_isShortRun {n : Node} (h : n.isShortRun = true) (owner : Owner) (outer : Option String) :
    d.visit hash (some owner) outer n = d := by
  cases n with
  | text s =>
    rw [visit]
    rcases addRun_eq hash owner s d with ⟨-, hd⟩ | ⟨hlong, -⟩
    · exact hd
    · simp only [Node.isShortRun, Node.isLongRun, Node.run?, Option.any_some, decide_eq_true_eq] at h hlong
      omega
  | _ => cases h

mutual

/-- The walk through a tree and through the tree without its short runs differ at most in content. -/
theorem withoutContent_visit : ∀ (n : Node) {d d' : Draft} (owner : Option Owner) (outer : Option String),
    d.withoutContent = d'.withoutContent → (d.visit hash owner outer n).withoutContent =
      (d'.visit hash owner outer n.withoutShortRuns.unnumbered).withoutContent
  | .element e children, d, d', owner, outer, h => by
    obtain ⟨hadded, howner⟩ := withoutContent_addElement hash h owner outer e children
      (Node.unnumberedAll (Node.withoutShortRunsAll children))
    have hlabel : e.unnumbered.label = e.label := rfl
    rw [Node.withoutShortRuns, Node.unnumbered, visit, visit, hlabel]
    split
    · exact h
    · simp only [howner]
      exact withoutContent_visitAll children _ hadded
  | .text s, d, d', owner, outer, h => by
    rw [Node.withoutShortRuns, Node.unnumbered]
    cases owner with
    | none => simpa only [visit] using h
    | some o =>
      rw [visit, visit]
      exact mapEntries_addRun Entry.withoutContent hash h o s
  | .fragment _, _, _, _, _, h => by simpa only [Node.withoutShortRuns, Node.unnumbered, visit] using h
  | .comment _, _, _, _, _, h => by simpa only [Node.withoutShortRuns, Node.unnumbered, visit] using h
  | .doctype _, _, _, _, _, h => by simpa only [Node.withoutShortRuns, Node.unnumbered, visit] using h

theorem withoutContent_visitAll : ∀ (nodes : List Node) {d d' : Draft} (owner : Owner),
    d.withoutContent = d'.withoutContent → (d.visitAll hash owner nodes).withoutContent =
      (d'.visitAll hash owner (Node.unnumberedAll (Node.withoutShortRunsAll nodes))).withoutContent
  | [], d, d', owner, h => by
    rw [Node.withoutShortRunsAll, Node.unnumberedAll, visitAll, visitAll]
    exact h
  | n :: rest, d, d', owner, h => by
    rw [Node.withoutShortRunsAll, visitAll]
    split
    · next hshort =>
      rw [visit_of_isShortRun hash hshort]
      exact withoutContent_visitAll rest owner h
    · rw [Node.unnumberedAll, visitAll]
      exact withoutContent_visitAll rest owner (withoutContent_visit n (some owner) none h)

end

/-- The children of an entry do not depend on content. -/
theorem withoutContent_finish (d : Draft) (size : Nat) :
    (d.finish size).entries.map Entry.withoutContent =
      d.withoutContent.entries.map (withChildren d.withoutContent.entries) :=
  map_withChildren Entry.withoutContent (fun _ => rfl) (fun _ => rfl) (fun _ _ => rfl) d.entries

end Draft

/-- Whether two documents become one below their bodies when the short runs are deleted and the numbers of elements
are left out, and what is around the bodies marks the same section. -/
structure AgreeWithoutShortRuns (doc doc' : Document) : Prop where
  below : doc.bodyPlace.node.withoutShortRuns.unnumbered = doc'.bodyPlace.node.withoutShortRuns.unnumbered
  around : outerSection doc.bodyPlace = outerSection doc'.bodyPlace

theorem AgreeWithoutShortRuns.outlines (hash : String → String) {doc doc' : Document}
    (h : AgreeWithoutShortRuns doc doc') (size size' : Nat) :
    (ofDocument hash doc size).runs = (ofDocument hash doc' size').runs ∧
      (ofDocument hash doc size).entries.map Entry.withoutContent =
        (ofDocument hash doc' size').entries.map Entry.withoutContent := by
  have hwalk : ∀ doc : Document,
      (Draft.empty.visit hash none (outerSection doc.bodyPlace) doc.bodyPlace.node).withoutContent =
        (Draft.empty.visit hash none (outerSection doc.bodyPlace)
          doc.bodyPlace.node.withoutShortRuns.unnumbered).withoutContent := fun doc =>
    Draft.withoutContent_visit hash doc.bodyPlace.node none (outerSection doc.bodyPlace) rfl
  have hdraft : (Draft.empty.visit hash none (outerSection doc.bodyPlace) doc.bodyPlace.node).withoutContent =
      (Draft.empty.visit hash none (outerSection doc'.bodyPlace) doc'.bodyPlace.node).withoutContent := by
    rw [hwalk doc, hwalk doc', h.below, h.around]
  rw [ofDocument, ofDocument, Draft.withoutContent_finish, Draft.withoutContent_finish, hdraft]
  exact ⟨congrArg (·.runs) hdraft, rfl⟩

/-! ## Main statement -/

/-- Whether the runs of an outline of a document are those at `places`: in document order, all the long ones that
stand in an element that is listed. -/
structure ListsRunsAt (doc : Document) (o : Outline) (places : List Place) : Prop where
  /-- The elements that are listed. -/
  entries : List.Forall₂ Entry.Shows o.entries (shownElements doc.bodyPlace)
  ordered : places.Sublist doc.places
  nodup : places.Nodup
  mem_iff : ∀ p, p ∈ places ↔ (p ∈ doc.places ∨ p ∈ doc.loosePlaces) ∧ p.node.isLongRun = true ∧
    ∃ q ∈ shownElements doc.bodyPlace, p.parent? = some q
  shows : List.Forall₂ (Run.Shows (o.entries.zip (shownElements doc.bodyPlace))) o.runs places

theorem exists_listsRunsAt (hash : String → String) {doc : Document} (htop : doc.bodyPlace ∈ doc.places)
    (size : Nat) : ∃ places, ListsRunsAt doc (ofDocument hash doc size) places := by
  obtain ⟨e, children, hn, -⟩ := exists_bodyPlace_node doc
  have helement : doc.bodyPlace.node.isElement = true := by rw [hn]; rfl
  have hsub : ((doc.bodyPlace.subtree.filter doc.bodyPlace.isWalked).filter (·.node.isLongRun)).Sublist doc.places :=
    (List.filter_sublist.trans List.filter_sublist).trans (Document.subtree_sublist_places htop)
  refine ⟨_, (forall₂_ofDocument hash doc size).imp fun _ _ h => h.1, hsub, ?_, fun p => ?_,
    forall₂_runs_ofDocument hash doc size⟩
  · exact (Document.tree_of_mem_places htop ▸ doc.bodyPlace.tree_nodup).sublist hsub
  · rw [List.mem_filter]
    constructor
    · rintro ⟨hmem, hlong⟩
      have hplace := Document.subtree_subset_places htop (List.mem_filter.mp hmem).1
      have hrun : p.node.run?.isSome = true := Option.isSome_of_any hlong
      exact ⟨.inl hplace, hlong,
        (mem_filter_isWalked doc.fits_bodyPlace helement (Document.fits_of_mem_places hplace) hrun).mp hmem⟩
    · rintro ⟨hplace, hlong, hshown⟩
      have hrun : p.node.run?.isSome = true := Option.isSome_of_any hlong
      have hfits : p.Fits := by
        rcases hplace with hplace | hplace
        · exact Document.fits_of_mem_places hplace
        · obtain ⟨n, -, hplace⟩ := List.mem_flatMap.mp hplace
          exact Place.fits_of_mem_subtree (p := .top .loose [] n []) trivial hplace
      exact ⟨(mem_filter_isWalked doc.fits_bodyPlace helement hfits hrun).mpr hshown, hlong⟩

/-- The runs of a page are, in document order, its runs of text with at least two characters without the blanks
at their ends, or at least two that are no blanks, in elements that are listed, each with its text and with what the
entry of its element says. Documents that become one when shorter runs are deleted have the same runs and, but for
markup and text, the same entries. -/
theorem runs_are_listed_under_their_elements (html : String) :
    (∃ places, ListsRunsAt (.ofHtml html) (ofHtml html) places) ∧
      (∀ s, 2 ≤ (Text.trim s).length ↔ 2 ≤ s.toList.countP (!Text.isBlank ·)) ∧
      ∀ doc doc' : Document, AgreeWithoutShortRuns doc doc' → ∀ size size',
        (ofDocument shortHash doc size).runs = (ofDocument shortHash doc' size').runs ∧
          (ofDocument shortHash doc size).entries.map Entry.withoutContent =
            (ofDocument shortHash doc' size').entries.map Entry.withoutContent :=
  ⟨exists_listsRunsAt shortHash (Document.bodyPlace_mem_places html) _, Text.two_le_length_trim_iff,
    fun _ _ h => h.outlines shortHash⟩

/-- Before and behind the text "ok" there is nothing in one document, and there are blanks and single letters in the
other. -/
theorem runs_are_listed_under_their_elements_among_letters :
    let body (content : List Node) : Node :=
      .element ⟨2, .html "body", []⟩ [.element ⟨3, .html "p", []⟩ content]
    let doc : Document := ⟨[], 1, [], [body [.text "ok"]], [], []⟩
    let doc' : Document := ⟨[], 1, [], [body [.text " \n", .text "ok", .text "b "]], [], []⟩
    AgreeWithoutShortRuns doc doc' ∧ (ofDocument shortHash doc 9).runs = (ofDocument shortHash doc' 0).runs ∧
      (ofDocument shortHash doc 9).entries.map Entry.withoutContent =
        (ofDocument shortHash doc' 0).entries.map Entry.withoutContent := by
  intro body doc doc'
  have hdoc : doc.bodyPlace.node = body [.text "ok"] := by cbv
  have hdoc' : doc'.bodyPlace.node = body [.text " \n", .text "ok", .text "b "] := by cbv
  have hagree : AgreeWithoutShortRuns doc doc' := ⟨by rw [hdoc, hdoc']; rfl, by cbv⟩
  exact ⟨hagree, (runs_are_listed_under_their_elements "").2.2 doc doc' hagree 9 0⟩

end Outline

end PageEdit
