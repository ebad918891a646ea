import PageEdit.Proofs.Html.Entering

/-!
# End tags that only close

The end tag of the innermost open element closes that element and leaves everything as it was before its start tag,
but for what has been put in the table meanwhile: the entry or mark of the element is gone, no form is open if none
was, and the mode is the one around the element.

* `Builder.Leaves`: being outside again.
* `Builder.Steady.leaves`: the end tag of an element, wherever it fits.
-/

namespace PageEdit.Html.Build

namespace Builder

variable {path : List String} {s b : Builder} {id : Nat} {tag : Tag} {label : String} {rest : List Opened}

/-! ## The innermost open element -/

section

variable (hstack : b.stack = ⟨id, .html label⟩ :: rest)

include hstack

theorem current_of_stack : b.current.name = .html label := by
  rw [current, hstack]
  rfl

theorem currentIs_of_stack (other : String) : b.currentIs other = (label == other) := by
  rw [currentIs, current_of_stack hstack]
  simp [Name.isHtml, Name.html]

theorem hasIn_of_stack (scope : ElementSet) : b.hasIn scope label = true := by
  simp [hasIn, hstack, inScope, Name.isHtml, Name.html]

theorem popUntil_of_stack {set : ElementSet} (hset : set (.html label) = true) :
    b.popUntil set = { b with stack := rest } := by
  rw [popUntil, popUntilCurrent_of_current (by rw [current_of_stack hstack, hset]), pop, hstack]
  rfl

theorem popUntilNamed_of_stack : b.popUntilNamed label = { b with stack := rest } :=
  popUntil_of_stack hstack (by simp [Name.isHtml, Name.html])

theorem closeImplied_of_stack {set : ElementSet} (hset : set (.html label) = false) : b.closeImplied set = b :=
  closeImplied_of_current (by rw [current_of_stack hstack, hset])

theorem closeNamed_of_stack (himplied : ElementSet.impliedEnd (.html label) = false) :
    b.closeNamed label = { b with stack := rest } := by
  rw [closeNamed, closeImplied_of_stack hstack himplied, popUntilNamed_of_stack hstack]

theorem closeItem_of_stack : b.closeItem label = { b with stack := rest } := by
  rw [closeItem, closeImpliedExcept, closeImplied_of_stack hstack (by simp [Name.isHtml, Name.html]),
    popUntilNamed_of_stack hstack]

theorem endPlain_of_stack : b.endPlain label = { b with stack := rest } := by
  have hname : (Name.html label).isHtml label = true := by simp [Name.isHtml, Name.html]
  simp only [endPlain, hstack, List.dropWhile_cons, hname, Bool.not_true, Bool.false_and, Bool.false_eq_true, if_false,
    if_true]

end

/-! ## Going out -/

/-- Whether a rule has gone out of the innermost open element, so that all is as in a builder that is not in it. -/
def Leaves (s b : Builder) (outcome : Outcome) : Prop :=
  outcome.2 = .done ∧ outcome.1.core = s.core ∧ (outcome.1.skipLine = true → b.skipLine = true)

section

variable (h : Steady path s) (hin : b.core = (s.enter id tag).core)

include hin

theorem stack_of_core : b.stack = ⟨id, .html tag.name⟩ :: s.stack := (core_eq_iff.mp hin).2.1

theorem formatting_of_core : b.formatting = entriesFor id tag ++ s.formatting := (core_eq_iff.mp hin).2.2.1

theorem formatting_of_core_of_plain (hplain : (isFormat tag.name || isBound tag.name) = false) :
    b.formatting = s.formatting := by
  rw [formatting_of_core hin, entriesFor_eq_nil hplain, List.nil_append]

/-- What is left to be seen to when the element has been closed. -/
theorem leaves_of_eq {formatting : List Entry} {mode : Mode} {form : Option Nat}
    (hformatting : formatting = s.formatting) (hmode : mode = s.mode) (hform : form = s.form) :
    Leaves s b { b with stack := s.stack, formatting, mode, form }.done := by
  obtain ⟨harena, -, -, -, htemplates, hhead, -, hfostering, hkeeps, htext⟩ := core_eq_iff.mp hin
  exact ⟨rfl, core_eq_iff.mpr ⟨harena, rfl, hformatting, hmode, htemplates, hhead, hform, hfostering, hkeeps, htext⟩,
    fun hline => hline⟩

/-- The mark of an element that bounds the formatting goes with it. -/
theorem clearToMark_of_core (hbound : isBound tag.name = true) :
    { b with stack := s.stack }.clearToMark = { b with stack := s.stack, formatting := s.formatting } := by
  have hclear : { b with stack := s.stack }.clearToMark =
      { b with stack := s.stack, formatting := (b.formatting.dropWhile (· != .mark)).tail } := rfl
  rw [hclear, formatting_of_core hin, entriesFor_of_isBound hbound]
  simp

theorem form_of_core (hne : tag.name ≠ "form") : b.form = s.form := by
  rw [(core_eq_iff.mp hin).2.2.2.2.2.2.1]
  simp [enter, hne]

include h

theorem Steady.mode_of_core : b.mode = modeIn (tag.name :: path) := by
  rw [(core_eq_iff.mp hin).2.2.2.1]
  simp [enter, h.labels]

theorem Steady.mode_of_core_of_flow (hmode : modeLabels.contains tag.name = false) : b.mode = s.mode := by
  rw [h.mode_of_core hin, modeIn_cons hmode, h.mode]

omit hin in
theorem Steady.mode_of_head (hhead : path.head? = some "table") : s.mode = .inTable := by
  rw [h.mode]
  cases path with
  | nil => cases hhead
  | cons label rest =>
    obtain rfl : label = "table" := Option.some.inj hhead
    rfl

theorem Steady.resetMode_of_core : { b with stack := s.stack }.resetMode = s.mode := by
  obtain ⟨-, -, -, -, htemplates, hhead, -⟩ := core_eq_iff.mp hin
  have hsame : { b with stack := s.stack }.resetMode = s.resetMode :=
    modeFor_congr rfl htemplates (by rw [hhead]; rfl)
  rw [hsame, h.resetMode, h.mode]

/-- Closing an ordinary element goes out of it. -/
theorem Steady.leaves_of_ordinary (hordinary : isOrdinary tag.name = true) :
    Leaves s b { b with stack := s.stack }.done := by
  simp only [isOrdinary, Bool.and_eq_true, Bool.not_eq_true', bne_iff_ne] at hordinary
  obtain ⟨⟨⟨hformat, hbound⟩, hform⟩, hmode⟩ := hordinary
  have hentries := formatting_of_core_of_plain hin (Bool.or_eq_false_iff.mpr ⟨hformat, hbound⟩)
  exact leaves_of_eq hin hentries (h.mode_of_core_of_flow hin hmode) (form_of_core hin hform)

/-! ## Rules in the body -/

theorem Steady.leaves_closable (hlabel : closableLabels.contains tag.name = true) :
    Leaves s b (b.onBodyEnd tag.name) := by
  have hall : ∀ l ∈ closableLabels, (l == "template") = false ∧ (l == "body") = false ∧ (l == "html") = false ∧
      ElementSet.impliedEnd (.html l) = false ∧ isOrdinary l = true := by decide
  obtain ⟨htemplate, hbody, hhtml, himplied, hordinary⟩ := hall tag.name (by simpa using hlabel)
  have hstack := stack_of_core hin
  have hrule : b.onBodyEnd tag.name = { b with stack := s.stack }.done := by
    simp only [onBodyEnd, htemplate, hbody, hhtml, hlabel, hasIn_of_stack hstack, closeNamed_of_stack hstack himplied,
      Bool.false_eq_true, if_true, if_false]
  rw [hrule]
  exact h.leaves_of_ordinary hin hordinary

theorem Steady.leaves_paragraph (hlabel : tag.name = "p") : Leaves s b (b.onBodyEnd tag.name) := by
  have hstack := stack_of_core hin
  rw [hlabel] at hstack
  have hclose : b.closeParagraph = { b with stack := s.stack } := closeItem_of_stack hstack
  have hrule : b.onBodyEnd tag.name = { b with stack := s.stack }.done := by
    simp +decide only [onBodyEnd, hlabel, hasIn_of_stack hstack, hclose, if_true, if_false]
  rw [hrule]
  exact h.leaves_of_ordinary hin (by rw [hlabel]; decide)

theorem Steady.leaves_item (hlabel : tag.name = "li" ∨ tag.name = "dd" ∨ tag.name = "dt") :
    Leaves s b (b.onBodyEnd tag.name) := by
  have hstack := stack_of_core hin
  have hrule : b.onBodyEnd tag.name = { b with stack := s.stack }.done := by
    rcases hlabel with hlabel | hlabel | hlabel <;> rw [hlabel] at hstack <;>
      simp +decide only [onBodyEnd, hlabel, hasIn_of_stack hstack, closeItem_of_stack hstack, if_true, if_false]
  rw [hrule]
  exact h.leaves_of_ordinary hin (by rcases hlabel with hlabel | hlabel | hlabel <;> rw [hlabel] <;> decide)

theorem Steady.leaves_heading (hlabel : headingLabels.contains tag.name = true) :
    Leaves s b (b.onBodyEnd tag.name) := by
  have hall : ∀ l ∈ headingLabels, (l == "template") = false ∧ (l == "body") = false ∧ (l == "html") = false ∧
      closableLabels.contains l = false ∧ (l == "form") = false ∧ (l == "p") = false ∧ (l == "li") = false ∧
      (l == "dd" || l == "dt") = false ∧ ElementSet.impliedEnd (.html l) = false ∧
      ElementSet.headings (.html l) = true ∧ isOrdinary l = true := by decide
  obtain ⟨htemplate, hbody, hhtml, hclosable, hform, hp, hli, hterm, himplied, hheading, hordinary⟩ :=
    hall tag.name (by simpa using hlabel)
  have hstack := stack_of_core hin
  have hscope : inScope ElementSet.scope (ElementSet.headings ·.name) b.stack = true := by
    rw [hstack, inScope, hheading, Bool.true_or]
  have hrule : b.onBodyEnd tag.name = { b with stack := s.stack }.done := by
    simp only [onBodyEnd, htemplate, hbody, hhtml, hclosable, hform, hp, hli, hterm, hlabel, hscope,
      closeImplied_of_stack hstack himplied, popUntil_of_stack hstack hheading, Bool.false_eq_true, if_true, if_false]
  rw [hrule]
  exact h.leaves_of_ordinary hin hordinary

theorem Steady.leaves_form (hlabel : tag.name = "form") (hform : path.contains "form" = false) :
    Leaves s b (b.onBodyEnd tag.name) := by
  have hstack := stack_of_core hin
  have htemplate : b.hasOpen "template" = false := by
    have hopen : b.hasOpen "template" = (s.enter id tag).hasOpen "template" := by
      rw [Builder.hasOpen, hstack]
      rfl
    rw [hopen, (h.entered id (by rw [hlabel]; decide)).hasOpen, hlabel]
    simpa using h.noTemplate
  have hnone : s.form = none := by
    rw [h.form, List.find?_eq_none.mpr, Option.map_none]
    rw [← h.hasOpen] at hform
    exact List.any_eq_false.mp hform
  have hsome : b.form = some id := by
    rw [(core_eq_iff.mp hin).2.2.2.2.2.2.1]
    simp [enter, hlabel]
  have hopen : { b with form := none }.stack = ⟨id, .html "form"⟩ :: s.stack := by rw [← hlabel, ← hstack]
  have hremove : ({ b with form := none }.closeImplied ElementSet.impliedEnd).removeOpen id =
      { b with stack := s.stack, form := none } := by
    rw [closeImplied_of_stack hopen rfl, removeOpen, hopen]
    simp
  have hscope : inScope ElementSet.scope (·.id == id) b.stack = true := by simp [hstack, inScope]
  have hrule : b.onBodyEnd tag.name = { b with stack := s.stack, form := none }.done := by
    simp +decide only [onBodyEnd, endForm, hlabel, htemplate, hsome, hscope, hremove, if_true, if_false]
  have hmode : modeLabels.contains tag.name = false := by rw [hlabel]; decide
  have hentries := formatting_of_core_of_plain hin (by rw [hlabel]; rfl)
  rw [hrule]
  exact leaves_of_eq hin hentries (h.mode_of_core_of_flow hin hmode) hnone.symm

/-- Where the latest entry is that of the innermost open element, the end tag closes both. -/
theorem Steady.leaves_format (hformat : isFormat tag.name = true) : Leaves s b (b.onBodyEnd tag.name) := by
  have hall : ∀ l ∈ "a" :: "nobr" :: formatLabels, (l == "template") = false ∧ (l == "body") = false ∧
      (l == "html") = false ∧ closableLabels.contains l = false ∧ (l == "form") = false ∧ (l == "p") = false ∧
      (l == "li") = false ∧ (l == "dd" || l == "dt") = false ∧ headingLabels.contains l = false ∧ l ≠ "form" ∧
      modeLabels.contains l = false := by decide
  obtain ⟨htemplate, hbody, hhtml, hclosable, hform, hp, hli, hterm, hheading, hne, hmode⟩ :=
    hall tag.name (by simpa [isFormat, or_assoc] using hformat)
  have hstack := stack_of_core hin
  have hentries : b.formatting = .element id tag :: s.formatting := by
    rw [formatting_of_core hin, entriesFor_of_isFormat hformat, List.singleton_append]
  have hcurrent : b.current.id = id := by rw [current, hstack]; rfl
  have hentry : b.hasEntry b.current.id = true := by simp [hasEntry, hentries, isEntry, hcurrent]
  have hactive : b.activeEntries = .element id tag :: s.activeEntries := by simp [activeEntries, hentries]
  have hscope : inScope ElementSet.scope (·.id == id) (⟨id, .html tag.name⟩ :: s.stack) = true := by simp [inScope]
  have honce : b.endFormattingOnce tag.name =
      ({ b with stack := s.stack, formatting := s.formatting }, false) := by
    unfold endFormattingOnce
    simp only [hactive, List.find?_cons, beq_self_eq_true, hstack, List.takeWhile_cons, bne_self_eq_false,
      Bool.false_eq_true, if_false, List.length_nil, List.drop_zero, hscope, Bool.not_true, List.reverse_nil,
      List.dropWhile_nil]
    simp [removeEntry, hentries, isEntry]
  have hrule : b.onBodyEnd tag.name = { b with stack := s.stack, formatting := s.formatting }.done := by
    have hlabel : (tag.name == "a" || tag.name == "nobr" || formatLabels.contains tag.name) = true := hformat
    simp only [onBodyEnd, htemplate, hbody, hhtml, hclosable, hform, hp, hli, hterm, hheading, hlabel,
      Bool.false_eq_true, if_true, if_false]
    rw [endFormatting, hentry, Bool.not_true, Bool.and_false, if_neg Bool.false_ne_true, endFormattingRounds, honce]
  rw [hrule]
  exact leaves_of_eq hin rfl (h.mode_of_core_of_flow hin hmode) (form_of_core hin hne)

theorem Steady.leaves_bound (hlabel : ["applet", "marquee", "object"].contains tag.name = true) :
    Leaves s b (b.onBodyEnd tag.name) := by
  have hname : tag.name = "applet" ∨ tag.name = "marquee" ∨ tag.name = "object" := by simpa using hlabel
  have hfacts : isBound tag.name = true ∧ tag.name ≠ "form" ∧ modeLabels.contains tag.name = false ∧
      ElementSet.impliedEnd (.html tag.name) = false := by
    rcases hname with hname | hname | hname <;> rw [hname] <;> decide
  obtain ⟨hbound, hne, hmode, himplied⟩ := hfacts
  have hstack := stack_of_core hin
  have hrule : b.onBodyEnd tag.name = { b with stack := s.stack, formatting := s.formatting }.done := by
    rw [← clearToMark_of_core hin hbound, ← closeNamed_of_stack hstack himplied]
    have hopen := hasIn_of_stack hstack ElementSet.scope
    rcases hname with hname | hname | hname <;> rw [hname] at hopen ⊢ <;>
      simp +decide only [onBodyEnd, hopen, if_true, if_false]
  rw [hrule]
  exact leaves_of_eq hin rfl (h.mode_of_core_of_flow hin hmode) (form_of_core hin hne)

/-- Labels whose end tags have a rule of their own in the body. -/
def endRuledLabels : List String :=
  closableLabels ++ headingLabels ++ formatLabels ++
    ["template", "body", "html", "form", "p", "li", "dd", "dt", "a", "nobr", "applet", "marquee", "object", "br"]

theorem Steady.leaves_other (hlabel : endRuledLabels.contains tag.name = false)
    (hordinary : isOrdinary tag.name = true) : Leaves s b (b.onBodyEnd tag.name) := by
  have hnot : tag.name ∉ endRuledLabels := by simpa using hlabel
  have hlists : ∀ labels ⊆ endRuledLabels, labels.contains tag.name = false := by
    intro labels hsubset
    simpa using fun hmem => hnot (hsubset hmem)
  have hne : ∀ l ∈ endRuledLabels, (tag.name == l) = false := by
    intro l hl
    rw [beq_eq_false_iff_ne]
    exact fun heq => hnot (heq ▸ hl)
  have hstack := stack_of_core hin
  have hrule : b.onBodyEnd tag.name = { b with stack := s.stack }.done := by
    simp (disch := decide) only [onBodyEnd, hne, hlists, endPlain_of_stack hstack, Bool.or_false, Bool.false_eq_true,
      if_false]
  rw [hrule]
  exact h.leaves_of_ordinary hin hordinary

/-- Among text, the end tag of an element that fits there goes out of it. -/
theorem Steady.leaves_inFlow (hfits : fitsInFlow path tag.name = true) (hbr : tag.name ≠ "br")
    (hmode : modeLabels.contains tag.name = false) : Leaves s b (b.onBodyEnd tag.name) := by
  by_cases hclosable : closableLabels.contains tag.name = true
  · exact h.leaves_closable hin hclosable
  by_cases hheading : headingLabels.contains tag.name = true
  · exact h.leaves_heading hin hheading
  by_cases hp : tag.name = "p"
  · exact h.leaves_paragraph hin hp
  by_cases hitem : tag.name = "li" ∨ tag.name = "dd" ∨ tag.name = "dt"
  · exact h.leaves_item hin hitem
  by_cases hform : tag.name = "form"
  · refine h.leaves_form hin hform ?_
    rw [hform] at hfits
    have hfree : !hasParagraph path && !path.contains "form" := hfits
    simpa using (Bool.and_eq_true_iff.mp hfree).2
  by_cases hformat : isFormat tag.name = true
  · exact h.leaves_format hin hformat
  by_cases hlabel : ["applet", "marquee", "object"].contains tag.name = true
  · exact h.leaves_bound hin hlabel
  have hbound : isBound tag.name = false := by
    have hall : ∀ l ∈ ["applet", "marquee", "object", "caption", "td", "th"],
        ["applet", "marquee", "object"].contains l ∨ modeLabels.contains l := by decide
    by_contra hbound
    rcases hall tag.name (by simpa [isBound] using (Bool.not_eq_false _).mp hbound) with hmem | hmem
    · exact hlabel hmem
    · rw [hmode] at hmem
      cases hmem
  have hruled : endRuledLabels.contains tag.name = false := by
    have hall : ∀ l ∈ endRuledLabels, closableLabels.contains l ∨ headingLabels.contains l ∨ l = "p" ∨
        (l = "li" ∨ l = "dd" ∨ l = "dt") ∨ l = "form" ∨ isFormat l ∨ ["applet", "marquee", "object"].contains l ∨
        l = "br" ∨ modeLabels.contains l := by decide
    by_contra hruled
    have hseen := hall tag.name (by simpa using hruled)
    simp only [hclosable, hheading, hp, hitem, hform, hformat, hlabel, hbr, hmode, Bool.false_eq_true, or_self] at hseen
  have hordinary : isOrdinary tag.name = true := by
    simp only [isOrdinary, hformat, hbound, hmode, bne_iff_ne.mpr hform, Bool.not_false, Bool.and_self]
  exact h.leaves_other hin hruled hordinary

/-! ## Rules in tables and selections -/

theorem Steady.leaves_table (hlabel : tag.name = "table") : Leaves s b (b.inTable (.endTag tag.name)) := by
  have hstack := stack_of_core hin
  rw [hlabel] at hstack
  have hclose : b.popUntilNamed "table" = { b with stack := s.stack } := popUntilNamed_of_stack hstack
  have hrule : b.inTable (.endTag "table") =
      if b.hasInTable "table" then
        { b.popUntilNamed "table" with mode := (b.popUntilNamed "table").resetMode }.done
      else b.done := rfl
  have hentries := formatting_of_core_of_plain hin (by rw [hlabel]; rfl)
  have hform : b.form = s.form := form_of_core hin (by rw [hlabel]; decide)
  rw [hlabel, hrule, hasInTable, hasIn_of_stack hstack, if_pos rfl, hclose]
  exact leaves_of_eq hin hentries (h.resetMode_of_core hin) hform

theorem Steady.leaves_select (hlabel : tag.name = "select") : Leaves s b (b.inSelect (.endTag tag.name)) := by
  have hstack := stack_of_core hin
  rw [hlabel] at hstack
  have hclose : b.closeSelect = { b with stack := s.stack, mode := { b with stack := s.stack }.resetMode } := by
    rw [closeSelect, popUntilNamed_of_stack hstack]
  have hrule : b.inSelect (.endTag "select") =
      (if b.hasIn ElementSet.selectScope "select" then b.closeSelect else b).done := rfl
  have hentries := formatting_of_core_of_plain hin (by rw [hlabel]; rfl)
  rw [hlabel, hrule, hasIn_of_stack hstack, if_pos rfl, hclose]
  exact leaves_of_eq hin hentries (h.resetMode_of_core hin) (form_of_core hin (by rw [hlabel]; decide))

theorem Steady.leaves_option (hlabel : tag.name = "option" ∨ tag.name = "optgroup") :
    Leaves s b (b.inSelect (.endTag tag.name)) := by
  have hstack := stack_of_core hin
  have hpop : b.pop = { b with stack := s.stack } := by rw [pop, hstack, List.tail_cons]
  have hordinary : isOrdinary tag.name = true := by rcases hlabel with hlabel | hlabel <;> rw [hlabel] <;> decide
  have hleaves := h.leaves_of_ordinary hin hordinary
  rw [← hpop] at hleaves
  rcases hlabel with hlabel | hlabel <;> rw [hlabel] at hstack ⊢
  · have hrule : b.inSelect (.endTag "option") = (if b.currentIs "option" then b.pop else b).done := rfl
    rw [hrule, currentIs_of_stack hstack, beq_self_eq_true, if_pos rfl]
    exact hleaves
  · have hgroup : b.inGroupedOption = false := by
      unfold inGroupedOption
      rw [hstack]
      cases s.stack <;> rfl
    have hrule : b.inGroupedOption = false →
        b.inSelect (.endTag "optgroup") = (if b.currentIs "optgroup" then b.pop else b).done := fun hgroup => by
      simp only [inSelect, hgroup, Bool.false_eq_true, if_false]
    rw [hrule hgroup, currentIs_of_stack hstack, beq_self_eq_true, if_pos rfl]
    exact hleaves

theorem Steady.leaves_caption (hlabel : tag.name = "caption") (hhead : path.head? = some "table") :
    Leaves s b (b.inCaption (.endTag tag.name)) := by
  have hstack := stack_of_core hin
  have hclear := clearToMark_of_core hin (by rw [hlabel]; decide)
  have hform : b.form = s.form := form_of_core hin (by rw [hlabel]; decide)
  rw [hlabel] at hstack ⊢
  have hclose : b.closeCaption = { b with stack := s.stack, formatting := s.formatting } := by
    rw [closeCaption, closeNamed_of_stack hstack rfl, hclear]
  have hrule : b.inCaption (.endTag "caption") =
      if b.hasInTable "caption" then { b.closeCaption with mode := .inTable }.done else b.done := rfl
  rw [hrule, hasInTable, hasIn_of_stack hstack, if_pos rfl, hclose]
  exact leaves_of_eq hin rfl (h.mode_of_head hhead).symm hform

theorem Steady.leaves_columns (hlabel : tag.name = "colgroup") (hhead : path.head? = some "table") :
    Leaves s b (b.inColumnGroup (.endTag tag.name)) := by
  have hstack := stack_of_core hin
  have hform : b.form = s.form := form_of_core hin (by rw [hlabel]; decide)
  have hentries := formatting_of_core_of_plain hin (by rw [hlabel]; rfl)
  have hpop : b.pop = { b with stack := s.stack } := by rw [pop, hstack, List.tail_cons]
  rw [hlabel] at hstack ⊢
  have hrule : b.inColumnGroup (.endTag "colgroup") =
      if b.currentIs "colgroup" then { b.pop with mode := .inTable }.done else b.done := rfl
  rw [hrule, currentIs_of_stack hstack, beq_self_eq_true, if_pos rfl, hpop]
  exact leaves_of_eq hin hentries (h.mode_of_head hhead).symm hform

theorem Steady.leaves_rows (hlabel : tag.name = "tbody" ∨ tag.name = "tfoot" ∨ tag.name = "thead")
    (hhead : path.head? = some "table") : Leaves s b (b.inTableBody (.endTag tag.name)) := by
  have hstack := stack_of_core hin
  have hform : b.form = s.form :=
    form_of_core hin (by rcases hlabel with hlabel | hlabel | hlabel <;> rw [hlabel] <;> decide)
  have hentries := formatting_of_core_of_plain hin
    (by rcases hlabel with hlabel | hlabel | hlabel <;> rw [hlabel] <;> rfl)
  have hcontext : ElementSet.bodyContext (.html tag.name) = true := by
    rcases hlabel with hlabel | hlabel | hlabel <;> rw [hlabel] <;> rfl
  have hclose : b.closeRows = { b with stack := s.stack } := popUntil_of_stack hstack hcontext
  have hrule : b.inTableBody (.endTag tag.name) =
      if b.hasInTable tag.name then { b.closeRows with mode := .inTable }.done else b.done := by
    rcases hlabel with hlabel | hlabel | hlabel <;> rw [hlabel] <;> rfl
  rw [hrule, hasInTable, hasIn_of_stack hstack, if_pos rfl, hclose]
  exact leaves_of_eq hin hentries (h.mode_of_head hhead).symm hform

theorem Steady.leaves_row (hlabel : tag.name = "tr") (hmode : modeIn path = .inTableBody) :
    Leaves s b (b.inRow (.endTag tag.name)) := by
  have hstack := stack_of_core hin
  have hform : b.form = s.form := form_of_core hin (by rw [hlabel]; decide)
  have hentries := formatting_of_core_of_plain hin (by rw [hlabel]; rfl)
  rw [hlabel] at hstack ⊢
  have hclose : b.closeRow = { b with stack := s.stack } := popUntil_of_stack hstack rfl
  have hrule : b.inRow (.endTag "tr") =
      if b.hasInTable "tr" then { b.closeRow with mode := .inTableBody }.done else b.done := rfl
  rw [hrule, hasInTable, hasIn_of_stack hstack, if_pos rfl, hclose]
  exact leaves_of_eq hin hentries (hmode.symm.trans h.mode.symm) hform

theorem Steady.leaves_cell (hlabel : tag.name = "td" ∨ tag.name = "th") (hmode : modeIn path = .inRow) :
    Leaves s b (b.inCell (.endTag tag.name)) := by
  have hstack := stack_of_core hin
  have hfacts : isBound tag.name = true ∧ tag.name ≠ "form" ∧ ElementSet.impliedEnd (.html tag.name) = false := by
    rcases hlabel with hlabel | hlabel <;> rw [hlabel] <;> decide
  obtain ⟨hbound, hne, himplied⟩ := hfacts
  have hclose : (b.closeNamed tag.name).clearToMark = { b with stack := s.stack, formatting := s.formatting } := by
    rw [closeNamed_of_stack hstack himplied, clearToMark_of_core hin hbound]
  have hrule : b.inCell (.endTag tag.name) =
      if b.hasInTable tag.name then { (b.closeNamed tag.name).clearToMark with mode := .inRow }.done else b.done := by
    rcases hlabel with hlabel | hlabel <;> rw [hlabel] <;> rfl
  have hform : b.form = s.form := form_of_core hin hne
  rw [hrule, hasInTable, hasIn_of_stack hstack, if_pos rfl, hclose]
  exact leaves_of_eq hin rfl (hmode.symm.trans h.mode.symm) hform

/-! ## Everywhere -/

omit h hin in
theorem inFlow_endTag (hmode : b.mode ∈ flowModes) (hlabel : modeLabels.contains label = false)
    (hcol : label ≠ "col") : b.inMode b.mode (.endTag label) = b.onBodyEnd label := by
  have hnone : ∀ l ∈ "col" :: modeLabels, label ≠ l := by
    rintro l hl rfl
    rcases List.mem_cons.mp hl with hl | hl
    · exact hcol hl
    · simp [hl] at hlabel
  have hnot : ∀ labels ⊆ "col" :: modeLabels, isEnd labels (.endTag label) = false := by
    intro labels hsubset
    have hmem : label ∉ labels := fun hl => hnone label (hsubset hl) rfl
    simpa [isEnd] using hmem
  have hstart : ∀ labels, isStart labels (.endTag label) = false := fun _ => rfl
  simp only [flowModes, List.mem_cons, List.not_mem_nil, or_false] at hmode
  rcases hmode with hmode | hmode | hmode <;> rw [hmode]
  · rfl
  · change b.inCaption (.endTag label) = _
    simp (disch := decide) only [inCaption, hstart, hnot, Bool.or_self, Bool.false_eq_true, if_false, inBody]
  · change b.inCell (.endTag label) = _
    unfold inCell
    split
    · next heq => cases heq
    · next heq =>
      cases heq
      split <;> first | rfl | exact absurd rfl (hnone _ (by decide))
    · next hend => exact (hend label rfl).elim

omit h hin in
/-- Among elements that fit among text, only tables and selections have a mode of their own. -/
theorem not_modeLabels_of_fitsInFlow (h : fitsInFlow path label = true) (htable : label ≠ "table")
    (hselect : label ≠ "select") : modeLabels.contains label = false := by
  by_contra hlabel
  have hmem : label ∈ modeLabels := by simpa using hlabel
  have hall : ∀ l ∈ modeLabels, l = "table" ∨ l = "select" ∨ fitsInFlow path l = false := by
    intro l hl
    simp only [modeLabels, List.mem_cons, List.not_mem_nil, or_false] at hl
    rcases hl with rfl | rfl | rfl | rfl | rfl | rfl | rfl | rfl | rfl | rfl | rfl | rfl | rfl | rfl | rfl
    case inl => exact .inr (.inl rfl)
    all_goals first | exact .inl rfl | exact .inr (.inr rfl)
  rcases hall label hmem with heq | heq | heq
  · exact htable heq
  · exact hselect heq
  · rw [heq] at h
    cases h

omit h hin in
theorem ne_template_of_fitsIn (h : fitsIn path label = true) : label ≠ "template" := by
  rintro rfl
  have hflow : fitsInFlow path "template" = false := rfl
  cases hin : modeIn path <;> simp [fitsIn, hin, hflow] at h

/-- The mode inside the element says which rule the end tag gets. -/
theorem Steady.leaves_inMode (mode : Mode) (hmode : modeIn (tag.name :: path) = mode)
    (hleaves : Leaves s b (b.inMode mode (.endTag tag.name))) : Leaves s b (b.inMode b.mode (.endTag tag.name)) := by
  rw [h.mode_of_core hin, hmode]
  exact hleaves

theorem Steady.leaves_inFlowMode (hmode : modeIn path ∈ flowModes) (hfits : fitsInFlow path tag.name = true)
    (hvoid : isVoid tag.name = false) : Leaves s b (b.inMode b.mode (.endTag tag.name)) := by
  by_cases htable : tag.name = "table"
  · exact h.leaves_inMode hin .inTable (by rw [htable]; rfl) (h.leaves_table hin htable)
  by_cases hselect : tag.name = "select"
  · have hleaves := h.leaves_select hin hselect
    have hinside : modeIn (tag.name :: path) = selectMode (openedAs path) := by rw [hselect]; rfl
    rw [selectMode_openedAs h.noTemplate] at hinside
    split at hinside
    · refine h.leaves_inMode hin .inSelectInTable hinside ?_
      rw [hselect] at hleaves ⊢
      exact hleaves
    · exact h.leaves_inMode hin .inSelect hinside hleaves
  have hne : ∀ l, isVoid l = true → tag.name ≠ l := by
    intro l hl heq
    rw [heq, hl] at hvoid
    cases hvoid
  have hlabel := not_modeLabels_of_fitsInFlow hfits htable hselect
  have hflow : b.mode ∈ flowModes := by rwa [h.mode_of_core hin, modeIn_cons hlabel]
  rw [inFlow_endTag hflow hlabel (hne "col" rfl)]
  exact h.leaves_inFlow hin hfits (hne "br" rfl) hlabel

theorem Steady.leaves_inSelectMode (hmode : modeIn path = .inSelect ∨ modeIn path = .inSelectInTable)
    (hlabel : tag.name = "option" ∨ tag.name = "optgroup") : Leaves s b (b.inMode b.mode (.endTag tag.name)) := by
  have hleaves := h.leaves_option hin hlabel
  have hinside : modeIn (tag.name :: path) = modeIn path :=
    modeIn_cons (by rcases hlabel with hlabel | hlabel <;> rw [hlabel] <;> decide)
  rcases hmode with hmode | hmode
  · exact h.leaves_inMode hin .inSelect (hinside.trans hmode) hleaves
  · have hrule : b.inSelectInTable (.endTag tag.name) = b.inSelect (.endTag tag.name) := by
      rcases hlabel with hlabel | hlabel <;> rw [hlabel] <;> rfl
    rw [← hrule] at hleaves
    exact h.leaves_inMode hin .inSelectInTable (hinside.trans hmode) hleaves

theorem Steady.leaves_inTableMode (hhead : path.head? = some "table")
    (hlabel : tag.name = "caption" ∨ tag.name = "colgroup" ∨ tag.name = "tbody" ∨ tag.name = "tfoot" ∨
      tag.name = "thead") : Leaves s b (b.inMode b.mode (.endTag tag.name)) := by
  rcases hlabel with hlabel | hlabel | hlabel
  · exact h.leaves_inMode hin .inCaption (by rw [hlabel]; rfl) (h.leaves_caption hin hlabel hhead)
  · exact h.leaves_inMode hin .inColumnGroup (by rw [hlabel]; rfl) (h.leaves_columns hin hlabel hhead)
  · have hinside : modeIn (tag.name :: path) = .inTableBody := by
      rcases hlabel with hlabel | hlabel | hlabel <;> rw [hlabel] <;> rfl
    exact h.leaves_inMode hin .inTableBody hinside (h.leaves_rows hin hlabel hhead)

/-- Wherever an element with content fits, its end tag goes out of it. -/
theorem Steady.leaves (hfits : fitsIn path tag.name = true) (hvoid : isVoid tag.name = false) :
    Leaves s b (b.inMode b.mode (.endTag tag.name)) := by
  cases hcase : modeIn path <;> simp only [fitsIn, hcase, Bool.false_eq_true] at hfits
  case inBody | inCaption | inCell => exact h.leaves_inFlowMode hin (by rw [hcase]; decide) hfits hvoid
  case inTable =>
    simp only [Bool.and_eq_true, beq_iff_eq] at hfits
    exact h.leaves_inTableMode hin hfits.1 (by simpa using hfits.2)
  case inTableBody =>
    simp only [Bool.and_eq_true, beq_iff_eq] at hfits
    exact h.leaves_inMode hin .inRow (by rw [hfits.2]; rfl) (h.leaves_row hin hfits.2 hcase)
  case inRow =>
    simp only [Bool.and_eq_true, beq_iff_eq] at hfits
    have hlabel : tag.name = "td" ∨ tag.name = "th" := by simpa using hfits.2
    have hinside : modeIn (tag.name :: path) = .inCell := by
      cases path with
      | nil => cases hfits.1
      | cons label rest => rcases hlabel with hlabel | hlabel <;> rw [hlabel] <;> rfl
    exact h.leaves_inMode hin .inCell hinside (h.leaves_cell hin hlabel hcase)
  case inSelect | inSelectInTable =>
    have hlabel : tag.name = "option" ∧ path.head? ≠ some "option" ∨
        tag.name = "optgroup" ∧ path.head? = some "select" := by simpa using hfits
    exact h.leaves_inSelectMode hin (by rw [hcase]; decide) (hlabel.imp And.left And.left)

end

end Builder

end PageEdit.Html.Build
