import PageEdit.Proofs.Html.Clearing
import PageEdit.Proofs.Outline.Building

/-!
# What is hidden leaves no trace

Scripts, styles and what stands in for scripts can be deleted from below the body, and nothing of the outline
changes but the markup of what they were in and the sizes that are counted from it. So it is the same for any two
documents that become one when these are deleted: every identifier, selector, path and text, the sections and
their order. The text of each element that is left is the same too.

The walk passes over what is deleted without counting it, so drafts that differ at most in markup go on to differ
at most in markup when one is led through a tree and the other through what is left of it.

* `Draft.withoutMarkup_visit`: the walk through a tree and through what is left of it.
* `withoutMarkup_ofDocument`: the outline of a document comes from what is left of it.
* `hidden_content_leaves_no_trace`: documents that become one.
-/

namespace PageEdit.Outline

open Html

/-! ## Outlines without markup -/

/-- An entry without its markup. -/
def Entry.withoutMarkup (e : Entry) : Entry := { e with markup := "" }

/-- A section without the size of its markup. -/
def Section.withoutSize (s : Section) : Section := { s with size := 0 }

/-- All of an outline but markup and sizes. -/
def withoutMarkup (o : Outline) : Outline where
  entries := o.entries.map Entry.withoutMarkup
  runs := o.runs
  sectionIndex := o.sectionIndex
  sections := o.sections.map Section.withoutSize
  size := 0

theorem sectionIds_withoutMarkup (entries : List Entry) :
    sectionIds (entries.map Entry.withoutMarkup) = sectionIds entries := by
  rw [sectionIds, sectionIds, List.filterMap_map]
  rfl

theorem membersOf_withoutMarkup (id : String) (entries : List Entry) :
    membersOf id (entries.map Entry.withoutMarkup) = (membersOf id entries).map Entry.withoutMarkup := by
  rw [membersOf, List.filter_map]
  rfl

theorem map_id_withoutMarkup (entries : List Entry) :
    (entries.map Entry.withoutMarkup).map (·.id) = entries.map (·.id) := by
  rw [List.map_map]
  rfl

theorem withoutSize_ofMembers (id : String) (members : List Entry) :
    (Section.ofMembers id (members.map Entry.withoutMarkup)).withoutSize =
      (Section.ofMembers id members).withoutSize := by
  have htext : (members.map Entry.withoutMarkup).map (·.text) = members.map (·.text) := by
    rw [List.map_map]
    rfl
  simp only [Section.withoutSize, Section.ofMembers, htext, map_id_withoutMarkup]

theorem withoutMarkup_ofEntries (entries : List Entry) (runs : List Run) (size size' : Nat) :
    (ofEntries (entries.map Entry.withoutMarkup) runs size).withoutMarkup =
      (ofEntries entries runs size').withoutMarkup := by
  have hentries : (entries.map Entry.withoutMarkup).map Entry.withoutMarkup =
      entries.map Entry.withoutMarkup := by
    rw [List.map_map]
    rfl
  simp only [ofEntries, sectionIds_withoutMarkup, membersOf_withoutMarkup, map_id_withoutMarkup]
  rw [withoutMarkup, withoutMarkup, hentries, List.map_map, List.map_map]
  simp only [Function.comp_def, withoutSize_ofMembers]

/-! ## Drafts without markup -/

namespace Draft

/-- All of a draft but markup. -/
def withoutMarkup (d : Draft) : Draft := { d with entries := d.entries.map Entry.withoutMarkup }

theorem withoutMarkup_finish (d : Draft) (size size' : Nat) :
    (d.withoutMarkup.finish size).withoutMarkup = (d.finish size').withoutMarkup := by
  have hchildren :=
    map_withChildren Entry.withoutMarkup (fun _ => rfl) (fun _ => rfl) (fun _ _ => rfl) d.entries
  rw [finish, withoutMarkup, ← hchildren]
  exact withoutMarkup_ofEntries _ _ _ _

variable (hash : String → String) {d d' : Draft}

/-- An element is added alike to drafts that differ at most in markup, whatever its number, if its text is the
same. -/
theorem withoutMarkup_addElement (h : d.withoutMarkup = d'.withoutMarkup) (owner : Option Owner)
    (outer : Option String) {e : Element} {children children' : List Node}
    (hruns : (Node.element e children).runs = (Node.element e.unnumbered children').runs) :
    (d.addElement hash owner outer e children).1.withoutMarkup =
        (d'.addElement hash owner outer e.unnumbered children').1.withoutMarkup ∧
      (d.addElement hash owner outer e children).2 = (d'.addElement hash owner outer e.unnumbered children').2 := by
  simp only [withoutMarkup, mk.injEq] at h
  obtain ⟨hcount, hentries, hrun, hgiven⟩ := h
  have htext : (Node.element e children).textContent = (Node.element e.unnumbered children').textContent := by
    rw [Node.textContent, Node.textContent, hruns]
  refine ⟨?_, ?_⟩
  · simp only [addElement, withoutMarkup, List.map_append, hcount, hentries, hrun, hgiven, htext]
    rfl
  · simp only [addElement, hcount, hgiven]
    rfl

theorem visit_of_isSkipped {n : Node} (h : n.isSkipped = true) (owner : Option Owner) (outer : Option String) :
    d.visit hash owner outer n = d := by
  cases n with
  | element e children =>
    have hskipped : Html.isSkipped e.label = true := h
    rw [visit, if_pos hskipped]
  | _ => cases h

mutual

/-- The walk through a tree and through what is left of it differ at most in markup. -/
theorem withoutMarkup_visit : ∀ (n : Node) {d d' : Draft} (owner : Option Owner) (outer : Option String),
    d.withoutMarkup = d'.withoutMarkup → (d.visit hash owner outer n).withoutMarkup =
      (d'.visit hash owner outer n.cleared.unnumbered).withoutMarkup
  | .element e children, d, d', owner, outer, h => by
    have hruns : (Node.element e children).runs =
        (Node.element e.unnumbered (Node.unnumberedAll (Node.clearedAll children))).runs := by
      have hleft := (Node.runs_unnumbered _).trans (Node.runs_cleared (.element e children))
      rw [Node.cleared, Node.unnumbered] at hleft
      exact hleft.symm
    have hlabel : e.unnumbered.label = e.label := rfl
    obtain ⟨hadded, howner⟩ := withoutMarkup_addElement hash h owner outer hruns
    rw [Node.cleared, Node.unnumbered, visit, visit, hlabel]
    split
    · exact h
    · simp only [howner]
      exact withoutMarkup_visitAll children _ hadded
  | .text s, d, d', owner, outer, h => by
    rw [Node.cleared, Node.unnumbered]
    cases owner with
    | none => simpa only [visit] using h
    | some o =>
      rw [visit, visit]
      exact mapEntries_addRun Entry.withoutMarkup hash h o s
  | .fragment _, _, _, _, _, h => by simpa only [Node.cleared, Node.unnumbered, visit] using h
  | .comment _, _, _, _, _, h => by simpa only [Node.cleared, Node.unnumbered, visit] using h
  | .doctype _, _, _, _, _, h => by simpa only [Node.cleared, Node.unnumbered, visit] using h

theorem withoutMarkup_visitAll : ∀ (nodes : List Node) {d d' : Draft} (owner : Owner),
    d.withoutMarkup = d'.withoutMarkup → (d.visitAll hash owner nodes).withoutMarkup =
      (d'.visitAll hash owner (Node.unnumberedAll (Node.clearedAll nodes))).withoutMarkup
  | [], d, d', owner, h => by
    rw [Node.clearedAll, Node.unnumberedAll, visitAll, visitAll]
    exact h
  | n :: rest, d, d', owner, h => by
    rw [Node.clearedAll, visitAll]
    split
    · next hskipped =>
      -- what is deleted is not counted either
      rw [visit_of_isSkipped hash hskipped]
      exact withoutMarkup_visitAll rest owner h
    · rw [Node.unnumberedAll, visitAll]
      exact withoutMarkup_visitAll rest owner (withoutMarkup_visit n (some owner) none h)

end

end Draft

/-! ## Documents -/

theorem outerSection_eq (p : Place) : outerSection p =
    (p.ancestors.map Place.element?).findSome? fun e => e.bind Element.section? := by
  rw [outerSection, List.findSome?_map]
  rfl

theorem outerSection_put (p : Place) (m : Node) : outerSection (p.put m) = outerSection p := by
  rw [outerSection_eq, outerSection_eq, Place.element?_ancestors_put]

theorem outerSection_unnumbered (p : Place) : outerSection p.unnumbered = outerSection p := by
  have hsection : ∀ a : Place, (a.element?.map Element.unnumbered).bind Element.section? =
      a.element?.bind Element.section? := fun a => by
    cases a.element? <;> rfl
  rw [outerSection_eq, Place.element?_ancestors_unnumbered, List.findSome?_map, outerSection]
  simp only [Function.comp_def, hsection]

/-- But for markup, the outline of a document is that of what is left of it. -/
theorem withoutMarkup_ofDocument (hash : String → String) (doc : Document) (size : Nat) :
    (ofDocument hash doc size).withoutMarkup =
      ((Draft.empty.visit hash none (outerSection doc.cleared) doc.cleared.node).finish 0).withoutMarkup := by
  have houter : outerSection doc.cleared = outerSection doc.bodyPlace := by
    rw [Document.cleared, outerSection_unnumbered, outerSection_put]
  have hwalk := Draft.withoutMarkup_visit hash doc.bodyPlace.node none (outerSection doc.bodyPlace)
    (Eq.refl Draft.empty.withoutMarkup)
  rw [ofDocument, houter, Document.node_cleared, ← Draft.withoutMarkup_finish _ 0 size, hwalk,
    Draft.withoutMarkup_finish _ 0 0]

/-- Documents that become one when scripts, styles and what stands in for scripts are deleted from below the body
have the same outline but for markup, and the elements that are left have the same text. -/
theorem hidden_content_leaves_no_trace (hash : String → String) {doc doc' : Document}
    (h : doc.cleared = doc'.cleared) (size size' : Nat) :
    (ofDocument hash doc size).withoutMarkup = (ofDocument hash doc' size').withoutMarkup ∧
      doc.remaining.map Node.told = doc'.remaining.map Node.told := by
  rw [withoutMarkup_ofDocument, withoutMarkup_ofDocument, Document.told_remaining, Document.told_remaining, h]
  exact ⟨rfl, rfl⟩

/-- Between two texts in a body there is a script in one document, and two other elements in the other. -/
theorem hidden_content_leaves_no_trace_between_texts :
    let page (content : List Node) : Document := ⟨[], 1, [], [.element ⟨2, .html "body", []⟩ content], [], []⟩
    let doc : Document := page [.text "ab", .element ⟨3, .html "script", []⟩ [.text "x"], .text "cd"]
    let doc' : Document := page [.text "ab", .element ⟨3, .html "style", []⟩ [],
      .element ⟨4, .html "noscript", []⟩ [.element ⟨5, .html "p", []⟩ [.text "yz"]], .text "cd"]
    doc.cleared = doc'.cleared ∧
      (ofDocument shortHash doc 9).withoutMarkup = (ofDocument shortHash doc' 0).withoutMarkup ∧
      doc.remaining.map Node.told = doc'.remaining.map Node.told := by
  intro page doc doc'
  have hleft : doc.cleared = doc'.cleared := by cbv
  exact ⟨hleft, hidden_content_leaves_no_trace shortHash hleft 9 0⟩

end PageEdit.Outline
