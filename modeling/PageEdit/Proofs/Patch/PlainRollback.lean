import PageEdit.Proofs.Html.Putting
import PageEdit.Proofs.Patch.Attributes

/-!
# Taking patches back on plain pages

How a page is read after a patch need not be asked for if the page is plain, but for the order of attributes. A patch
that picks a single element leaves the page with another element there: one with the attributes and the nodes that
the patch has written. If this document is plain in the same sense, what is read of its text is the document itself,
so that the patch takes a turn. What is left to ask for is that the patches, and those that take them back, pick what
they should, and that content stands for itself: it has to be written as some nodes are.

* `Patch.made?`: the document that a patch makes of a page.
* `PlainTurn.turn`: what is made plain of a plain page is a turn.
* `reversible_of_reversesPlainly`: plain pages that are patched and patched back.
* `rollback_of_reversesPlainly`: what comes back then.
-/

namespace PageEdit

open Html
open Html.Node (writeAll)

/-! ## What a revision makes of an element -/

section Revision

variable {e : Element} {r : Revision} {children content nodes : List Node}

/-- An element with the attributes that a revision gives it. -/
def Html.Element.under (e : Element) (r : Revision) : Element :=
  match r.attributes with
  | some pairs => e.withAttributes pairs
  | none => e

theorem Html.Element.attributes_under (e : Element) (r : Revision) :
    (e.under r).attributes = r.attributes.getD e.attributes := by
  unfold under
  cases r.attributes with
  | none => rfl
  | some pairs => exact attributes_withAttributes e pairs

theorem Html.Element.name_under (e : Element) (r : Revision) : (e.under r).name = e.name := by
  unfold under
  cases r.attributes <;> rfl

theorem Html.Element.look_under (e : Element) (r : Revision) : (e.under r).look = e.lookUnder r := by
  rw [look, name_under, attributes_under, lookUnder]

/-- The nodes in an element under a revision, if what this brings is read as `content`. -/
def Html.Revision.nodesFrom (r : Revision) (children content : List Node) : List Node :=
  if r.content = .keep then children else content

/-- Whether a revision keeps an element, and some nodes are written as what is in it then. -/
def Html.Revision.leaves (r : Revision) (verbatim : Bool) (children nodes : List Node) : Bool :=
  !r.remove && writeAll noRevisions verbatim nodes == r.content.write (writeAll noRevisions verbatim children)

theorem Html.Revision.write_of_leaves (h : r.leaves (verbatimLabels.contains e.label) children nodes = true) :
    (e.under r).write none (writeAll noRevisions (verbatimLabels.contains (e.under r).label) nodes) =
      e.write (some r) (writeAll noRevisions (verbatimLabels.contains e.label) children) := by
  have hlabel : (e.under r).label = e.label := congrArg Name.label (e.name_under r)
  simp only [leaves, Bool.and_eq_true, Bool.not_eq_true', beq_iff_eq] at h
  simp only [Element.write, hlabel, h, e.attributes_under r, Option.getD_none, Option.getD_some, Revision.none,
    ContentRevision.write]

theorem Html.Revision.shapeAll_nodesFrom (r : Revision) (children content : List Node) :
    Node.shapeAll (r.nodesFrom children content) =
      r.contentFrom (Node.shapeAll children) (Node.shapeAll content) := by
  rw [nodesFrom, contentFrom]
  split <;> rfl

end Revision

/-- The document that a patch makes of a page in which it picks a single element, if what it brings is written as
`content` is. -/
def Patch.made? (html : String) (p : Patch) (content : List Node) : Option Document :=
  match p.places html with
  | [place] =>
    match place.node with
    | .element e children =>
      (p.revision? e).bind fun r =>
        let nodes := r.nodesFrom children content
        if r.leaves (verbatimLabels.contains e.label) children nodes then
          Document.ofNodes? (place.put (.element (e.under r) nodes)).tops
        else none
    | _ => none
  | _ => none

/-- Whether a page has been written and is plain but for the order of attributes. -/
def IsPlainPage (html : String) : Prop := ∃ doc : Document, doc.isSpelled = true ∧ html = doc.write noRevisions

/-- A patch picks a single element, and what it makes of the page is plain but for the order of attributes, content
that it brings being `content`. -/
structure PlainTurn (html : String) (p : Patch) (content : List Node) (edit : Edit) (made : Document) : Prop where
  edits : p.onlyEdit? html = some edit
  makes : p.made? html content = some made
  plain : made.isSpelled = true

/-! ## Turns -/

theorem lookupEdit_singleton (id : Nat) (r : Revision) (j : Nat) :
    lookupEdit [(id, r)] j = if j = id then some r else none := by
  by_cases h : j = id
  · simp [lookupEdit, h]
  · simp [lookupEdit, h, Ne.symm h]

theorem Patch.revisions_of_places {html : String} {p : Patch} {place : Place} {e : Element} {children : List Node}
    {r : Revision} (hplaces : p.places html = [place]) (hnode : place.node = .element e children)
    (hr : p.revision? e = some r) :
    p.edited html = [e] ∧ ∀ id, p.revisions html id = if id = e.id then some r else none := by
  have helement : place.element? = some e := by rw [Place.element?, hnode, Node.element?]
  have hpicked : p.picked html = [e] := by rw [Patch.picked, hplaces, List.filterMap_cons_some helement]; rfl
  refine ⟨by rw [Patch.edited, hpicked, List.filter_cons_of_pos (by rw [hr]; rfl)]; rfl, fun id => ?_⟩
  cases hplan : p.plan with
  | error fault =>
    rw [Patch.revision?, hplan] at hr
    cases hr
  | ok plan =>
    rw [Patch.revision?_of_plan hplan] at hr
    rw [Patch.picked_of_plan hplan] at hpicked
    rw [Patch.revisions_of_plan hplan, hpicked, ← lookupEdit_singleton, editTable]
    simp only [List.filterMap_cons, hr, Option.map_some, List.filterMap_nil]

theorem PlainTurn.turn {html : String} {p : Patch} {content : List Node} {edit : Edit} {made : Document}
    (hhtml : IsPlainPage html) (h : PlainTurn html p content edit made) :
    Turn html (made.write noRevisions) p edit (Node.shapeAll content) := by
  obtain ⟨place, e, children, r, hplaces, hplace, hnode, hr, -, hedit⟩ := exists_of_onlyEdit? h.edits
  generalize hnodes : r.nodesFrom children content = nodes
  obtain ⟨hleaves, hmade⟩ : r.leaves (verbatimLabels.contains e.label) children nodes = true ∧
      Document.ofNodes? (place.put (.element (e.under r) nodes)).tops = some made := by
    have hmakes := h.makes
    simp only [Patch.made?, hplaces, hnode, hr, Option.bind_some, hnodes] at hmakes
    exact Option.ite_none_right_eq_some.mp hmakes
  have htops := Document.nodes_of_ofNodes? hmade
  obtain ⟨hedited, hrevisions⟩ := Patch.revisions_of_places hplaces hnode hr
  have hordered : (Document.ofHtml html).IsNumberedInOrder := by
    obtain ⟨doc, hplain, rfl⟩ := hhtml
    exact (isNumberedInOrder_ofHtml_write hplain).1
  refine ⟨h.edits, Patch.apply_eq_ok_iff.mpr ⟨by rw [hedited]; exact List.cons_ne_nil _ _, ?_⟩, ?_⟩
  · have honly : ∀ id, id ≠ e.id → p.revisions html id = none := fun id hid => by rw [hrevisions, if_neg hid]
    have hsame := Revision.write_of_leaves hleaves
    have hrevision : p.revisions html e.id = some r := by rw [hrevisions, if_pos rfl]
    rw [← hrevision] at hsame
    rw [Document.write, htops, Document.write_eq_write_put hordered hplace hnode honly hsame]
  · have hfits := Document.fits_of_mem_places hplace
    rw [Document.shape_ofHtml_write h.plain, Document.shape, htops, Place.shapeAll_tops_put hfits hnode,
      (Document.tops_of_mem_places hplace).2, Element.look_under, ← hnodes,
      Revision.shapeAll_nodesFrom, contentFrom_eq, hedit]
    rfl

/-! ## Runs of turns -/

/-- Whether patches take turns at the element that some steps lead to, each making a plain page. -/
def RetracesPlainly (steps : List Step) (content : List Node) : String → List Patch → Prop
  | _, [] => True
  | html, q :: rest => ∃ edit made, PlainTurn html q content edit made ∧ edit.steps = steps ∧
    RetracesPlainly steps content (made.write noRevisions) rest

/-- Whether patches take turns on a page, each making a plain page, and the patches that take them back, in the
opposite order, take such turns at the same elements. Of each inverse the content is the nodes that were in the
element before. -/
def ReversesPlainly : String → List Patch → Prop
  | _, [] => True
  | html, p :: rest => ∃ edit made content old inverse, PlainTurn html p content edit made ∧
    p.action ≠ .removeElement ∧ p.inverse? html = some inverse ∧ Node.shapeAll old = edit.inner ∧
    let next := made.write noRevisions
    ReversesPlainly next rest ∧
      RetracesPlainly edit.steps old (applyAll (applyAll next rest).html (rollback next rest)).html inverse

theorem retraces_of_retracesPlainly {steps : List Step} {content : List Node} {html : String}
    {patches : List Patch} (hhtml : IsPlainPage html) (h : RetracesPlainly steps content html patches) :
    Retraces steps (Node.shapeAll content) html patches ∧ IsPlainPage (applyAll html patches).html := by
  induction patches generalizing html with
  | nil => exact ⟨trivial, hhtml⟩
  | cons q rest ih =>
    obtain ⟨edit, made, hplain, hsteps, hrest⟩ := h
    have hturn := hplain.turn hhtml
    obtain ⟨hretraces, hpage⟩ := ih ⟨made, hplain.plain, rfl⟩ hrest
    rw [applyAll_cons_of_ok hturn.applies, Report.html_followedBy]
    exact ⟨⟨_, edit, hturn, hsteps, hretraces⟩, hpage⟩

theorem reversible_of_reversesPlainly {html : String} {patches : List Patch} (hhtml : IsPlainPage html)
    (h : ReversesPlainly html patches) :
    Reversible html patches ∧ IsPlainPage (applyAll (applyAll html patches).html (rollback html patches)).html := by
  induction patches generalizing html with
  | nil => exact ⟨trivial, hhtml⟩
  | cons p rest ih =>
    obtain ⟨edit, made, content, old, inverse, hplain, hremove, hinverse, hold, hrest, hback⟩ := h
    have hturn := hplain.turn hhtml
    obtain ⟨hreversible, hpage⟩ := ih ⟨made, hplain.plain, rfl⟩ hrest
    obtain ⟨hretraces, hpage⟩ := retraces_of_retracesPlainly hpage hback
    rw [hold] at hretraces
    refine ⟨⟨_, edit, _, inverse, hturn, hremove, hinverse, hreversible, hretraces⟩, ?_⟩
    rwa [applyAll_cons_of_ok hturn.applies, Report.html_followedBy,
      rollback_cons_of_inverse hturn.applies hinverse, applyAll_append_eq, Report.html_followedBy]

/-- On plain pages the patches that take others back lead to a plain page of the same shape, all of them applying,
if each patch picks a single element and finds it again, and what it makes of the page is plain. -/
theorem rollback_of_reversesPlainly {html : String} {patches : List Patch} (hhtml : IsPlainPage html)
    (h : ReversesPlainly html patches) :
    let back := applyAll (applyAll html patches).html (rollback html patches)
    back.failures = [] ∧ IsPlainPage back.html ∧ (Document.ofHtml back.html).shape = (Document.ofHtml html).shape := by
  intro back
  obtain ⟨hreversible, hpage⟩ := reversible_of_reversesPlainly hhtml h
  obtain ⟨hfailures, hshape⟩ := shape_of_reversible hreversible
  exact ⟨hfailures, hpage, hshape⟩

/-- A turn that makes a plain page can be found by running it. -/
theorem exists_plainTurn {html next : String} {p : Patch} {content : List Node} {edit : Edit}
    (hedit : p.onlyEdit? html = some edit)
    (hnext : ((p.made? html content).filter Document.isSpelled).map (Document.write noRevisions) = some next) :
    ∃ made, PlainTurn html p content edit made ∧ made.write noRevisions = next := by
  obtain ⟨made, hmade, hwrite⟩ := Option.map_eq_some_iff.mp hnext
  obtain ⟨hmakes, hplain⟩ := Option.filter_eq_some_iff.mp hmade
  exact ⟨made, ⟨hedit, hmakes, hplain⟩, hwrite⟩

/-- An element that is picked by its identifier gets a class and then another text, and both are taken back. The
class goes behind the identifier, and before it when the page has been read. -/
theorem rollback_of_reversesPlainly_by_id :
    let html := "<html><head></head><body><p id=\"i\">x</p></body></html>"
    let patches : List Patch :=
      [{ Patch.bare "#i" .addClass with newValue := some "a" }, { Patch.bare "#i" .setText with value := some "y" }]
    let back := applyAll (applyAll html patches).html (rollback html patches)
    (applyAll html patches).html = "<html><head></head><body><p class=\"a\" id=\"i\">y</p></body></html>" ∧
      ReversesPlainly html patches ∧ back.failures = [] ∧
      (Document.ofHtml back.html).shape = (Document.ofHtml html).shape := by
  intro html patches back
  let p : Patch := { Patch.bare "#i" .addClass with newValue := some "a" }
  let p' : Patch := { Patch.bare "#i" .setText with value := some "y" }
  let q : Patch := { Patch.bare "#i" .removeClass with oldValue := some "a" }
  let q' : Patch := { Patch.bare "#i" .setHtml with value := some "x" }
  let next := "<html><head></head><body><p id=\"i\" class=\"a\">x</p></body></html>"
  let last := "<html><head></head><body><p class=\"a\" id=\"i\">y</p></body></html>"
  let returned := "<html><head></head><body><p class=\"a\" id=\"i\">x</p></body></html>"
  let steps : List Step := [.inside, .later, .inside]
  let bare : Look := ⟨.html "p", [], [("id", "i")]⟩
  let classed : Look := ⟨.html "p", ["a"], [("id", "i")]⟩
  let x := Shape.leaf (.text "x") .nil
  let y := Shape.leaf (.text "y") .nil
  have hpage : IsPlainPage html := ⟨Document.ofHtml html, by decide +kernel, by decide +kernel⟩
  obtain ⟨m, hm, hnext⟩ : ∃ made, PlainTurn html p [] ⟨steps, bare, x, classed, true⟩ made ∧
      made.write noRevisions = next := exists_plainTurn (by decide +kernel) (by decide +kernel)
  obtain ⟨m', hm', hlast⟩ : ∃ made, PlainTurn next p' [.text "y"] ⟨steps, classed, x, classed, false⟩ made ∧
      made.write noRevisions = last := exists_plainTurn (by decide +kernel) (by decide +kernel)
  obtain ⟨n', hn', hreturned⟩ : ∃ made, PlainTurn last q' [.text "x"] ⟨steps, classed, y, classed, false⟩ made ∧
      made.write noRevisions = returned := exists_plainTurn (by decide +kernel) (by decide +kernel)
  obtain ⟨n, hn, -⟩ : ∃ made, PlainTurn returned q [.text "x"] ⟨steps, classed, x, bare, true⟩ made ∧
      made.write noRevisions = html := exists_plainTurn (by decide +kernel) (by decide +kernel)
  have hp : p.apply html = .ok next := hnext ▸ (hm.turn hpage).applies
  have hp' : p'.apply next = .ok last := hlast ▸ (hm'.turn ⟨m, hm.plain, hnext.symm⟩).applies
  have hq' : q'.apply last = .ok returned := hreturned ▸ (hn'.turn ⟨m', hm'.plain, hlast.symm⟩).applies
  have hinverse' : p'.inverse? next = some [q'] := by decide +kernel
  have hback : (applyAll (applyAll next [p']).html (rollback next [p'])).html = returned := by
    rw [applyAll_cons_of_ok hp', rollback_cons_of_inverse hp' hinverse', Report.html_followedBy]
    exact congrArg Report.html (applyAll_cons_of_ok hq' [])
  have hlater : ReversesPlainly next [p'] := by
    refine ⟨_, m', _, [.text "x"], [q'], hm', by decide, hinverse', rfl, trivial, ?_⟩
    rw [hlast]
    exact ⟨_, n', hn', rfl, trivial⟩
  have hreverses : ReversesPlainly html patches := by
    refine ⟨_, m, _, [.text "x"], [q], hm, by decide, by decide +kernel, rfl, ?_, ?_⟩
    · rw [hnext]
      exact hlater
    · rw [hnext, hback]
      exact ⟨_, n, hn, rfl, trivial⟩
  obtain ⟨hfailures, -, hshape⟩ := rollback_of_reversesPlainly hpage hreverses
  refine ⟨?_, hreverses, hfailures, hshape⟩
  rw [applyAll_cons_of_ok hp, Report.html_followedBy, applyAll_cons_of_ok hp', Report.html_followedBy]
  rfl

end PageEdit
