import PageEdit.Context.Hit
import PageEdit.Proofs.Outline.Selectors

/-!
# The selectors of hits

The hit of an excerpt has the selector of its section, which stands between quotes with a backslash before
quotes and backslashes. Between quotes every character stands for itself but these two and the line break, for
which nothing is written. So the selector either is a test for the very characters of the section, in whatever
document it is looked for, or cannot be read at all; no section makes it a selector of something else.

* `mem_select_section`: what a test for the value of the attribute picks.
* `hits_select_what_marks_their_section`: which sections have such a selector.
-/

namespace PageEdit

open Html Css

/-! ## What a selector picks -/

/-- Whether an attribute of an element marks a section, character for character. -/
def Html.Element.Marks (e : Element) (id : String) : Prop :=
  ∃ a ∈ e.attrs, a.name = AttrName.plain sectionAttr ∧ a.value = id

/-- Whether a selector can be read and picks the elements with a property from any document, and no others. -/
def Css.PicksWhere (wanted : Element → Prop) (selector : String) : Prop :=
  ∃ selectors, Selector.parse selector = .ok selectors ∧ ∀ (doc : Document) (p : Place),
    p ∈ Css.select selectors doc ↔ p ∈ doc.elementPlaces ∧ ∃ e, p.element? = some e ∧ wanted e

theorem holds_section_iff (e : Element) (id : String) :
    AttrTest.holds ⟨sectionAttr, false, some (.equal, id, .exact)⟩ e = true ↔ e.Marks id := by
  simp only [AttrTest.holds, foldName_sectionAttr, List.any_eq_true, Element.Marks]
  refine exists_congr fun a => and_congr_right fun _ => ?_
  obtain ⟨⟨space, label⟩, value⟩ := a
  simp [AttrName.plain, CaseRule.fold, Comparison.holds, and_assoc, String.toList_inj]

/-- A test for a section picks the elements that are marked with it. -/
theorem mem_select_section (doc : Document) (p : Place) (id : String) :
    p ∈ Css.select [.tests [.attr ⟨sectionAttr, false, some (.equal, id, .exact)⟩]] doc ↔
      p ∈ doc.elementPlaces ∧ ∃ e, p.element? = some e ∧ e.Marks id := by
  rw [Css.select, List.mem_filter]
  refine and_congr_right fun _ => ?_
  cases he : p.element? with
  | none => simp [anyMatches, Selector.holds, he]
  | some e => simp [anyMatches, Selector.holds, allHold, Test.holds, he, holds_section_iff]

/-- The selector of a section without line breaks and without U+0000 picks the elements that are marked with
it. -/
theorem picksWhere_sectionSelector {id : String} (hline : Outline.hasLineBreak id = false)
    (hnull : '\x00' ∉ id.toList) : PicksWhere (·.Marks id) (sectionSelector id) := by
  have hparse := Selector.parse_section (by simpa [Outline.hasLineBreak] using hline)
    (Outline.toList_sectionSelector id)
  rw [map_readAs hnull, String.ofList_toList] at hparse
  exact ⟨_, hparse, fun doc p => mem_select_section doc p id⟩

namespace Relevance

/-! ## Excerpts of a page -/

/-- The section of an excerpt is the value of an attribute that has been read, and holds no U+0000. -/
theorem nul_notMem_of_mem_excerpts {html : String} {x : Excerpt} (h : x ∈ excerpts html) :
    '\x00' ∉ x.id.toList := by
  have hfair := fun p hp => @Document.isFair_ofHtml html p (.inl hp)
  rw [excerpts] at h
  generalize Document.ofHtml html = doc at h hfair
  obtain ⟨p, hp, hx⟩ := List.mem_filterMap.mp h
  obtain ⟨id, hid, rfl⟩ := Option.map_eq_some_iff.mp hx
  obtain ⟨e, he, hsection⟩ := Option.bind_eq_some_iff.mp hid
  obtain ⟨a, ha, -, rfl⟩ := exists_attr_of_section? hsection
  exact ((hfair p hp he).attrs a ha).value

/-- The selector of the hit of an excerpt can be read if there is no line break in the section, and only then. It
picks the elements that are marked with this section from any document, and no others. -/
theorem hits_select_what_marks_their_section (html : String) : ∀ x ∈ excerpts html,
    ∃ selector, (Hit.ofExcerpt x).selector = some selector ∧
      (Outline.hasLineBreak x.id = false → PicksWhere (·.Marks x.id) selector) ∧
      (Outline.hasLineBreak x.id = true → ∃ fault, Selector.parse selector = .error fault) := by
  intro x hx
  refine ⟨_, rfl, fun hline => picksWhere_sectionSelector hline (nul_notMem_of_mem_excerpts hx), fun hline => ?_⟩
  exact Selector.exists_error_of_section (by simpa [Outline.hasLineBreak] using hline)
    (Outline.toList_sectionSelector x.id)

/-- A section may hold quotes, brackets and a backslash at its end. -/
theorem hits_select_what_marks_their_section_in_brackets :
    ∃ x ∈ excerpts "<p data-section-id=\"a'] b\\\">x</p>", x.id = "a'] b\\" ∧
      ∃ selector, (Hit.ofExcerpt x).selector = some selector ∧ PicksWhere (·.Marks x.id) selector := by
  have hids : ∃ x ∈ excerpts "<p data-section-id=\"a'] b\\\">x</p>", x.id = "a'] b\\" := by decide +kernel
  obtain ⟨x, hx, hid⟩ := hids
  obtain ⟨selector, hselector, hpicks, -⟩ := hits_select_what_marks_their_section _ x hx
  exact ⟨x, hx, hid, selector, hselector, hpicks (by rw [hid]; decide)⟩

/-- A section with a line feed in it has a hit with a selector that cannot be read. -/
theorem section_with_line_feed_is_not_selected :
    ¬ ∀ x ∈ excerpts "<p data-section-id=\"a\nb\">x</p>",
      ∃ selector, (Hit.ofExcerpt x).selector = some selector ∧ PicksWhere (·.Marks x.id) selector := by
  have hids : ∃ x ∈ excerpts "<p data-section-id=\"a\nb\">x</p>", x.id = "a\nb" := by decide +kernel
  have hrefused : (Selector.parse (sectionSelector "a\nb")).toOption = none := by decide +kernel
  obtain ⟨x, hx, hid⟩ := hids
  intro h
  obtain ⟨selector, hselector, selectors, hparse, -⟩ := h x hx
  obtain rfl : sectionSelector x.id = selector := Option.some.inj hselector
  rw [hid] at hparse
  rw [hparse] at hrefused
  cases hrefused

end Relevance

end PageEdit
