import PageEdit.Proofs.Html.Opening

/-!
# Content where it belongs

What is put into an open element goes last in it, whichever rules read it: elements with content, void elements,
elements with raw text, comments and text. Text between the parts of a table waits for the tag that follows it.

* `Builder.Steady.enters`: an element with content, wherever it fits.
* `Builder.Steady.adds_void`, `Builder.Steady.opens_raw`: elements without content and with raw text.
-/

namespace PageEdit.Html.Build

open Text (isAsciiBlank)

namespace Builder

variable {path : List String} {b : Builder} {tag : Tag}

/-! ## Elements with content -/

theorem popUntilCurrent_of_current {set : ElementSet} (hset : set b.current.name = true) : b.popUntilCurrent set = b := by
  have hnot : (fun name => !set name) b.current.name = false := by simp [hset]
  exact closeImplied_of_current hnot

theorem Steady.current_eq (h : Steady path b) {label : String} (hhead : path.head? = some label) :
    b.current.name = .html label := by
  rw [h.current_name, hhead]
  rfl

theorem isStart_startTag (labels : List String) : isStart labels (.startTag tag) = labels.contains tag.name := rfl

theorem isEnd_startTag (labels : List String) : isEnd labels (.startTag tag) = false := rfl

/-- Elements that fit among text are no parts of a table. -/
theorem not_partLabels_of_fitsInFlow {label : String} (h : fitsInFlow path label = true) :
    partLabels.contains label = false := by
  by_contra hpart
  have hmem : label ∈ partLabels := by simpa using hpart
  have hall : ∀ l ∈ partLabels, fitsInFlow path l = false := by
    intro l hl
    simp only [partLabels, List.mem_cons, List.not_mem_nil, or_false] at hl
    rcases hl with rfl | rfl | rfl | rfl | rfl | rfl | rfl | rfl | rfl <;> rfl
  rw [hall label hmem] at h
  cases h

theorem inFlow_startTag (hmode : b.mode ∈ flowModes) (hpart : partLabels.contains tag.name = false) :
    b.inMode b.mode (.startTag tag) = b.onBodyStart tag := by
  have hcaption : b.inCaption (.startTag tag) = b.onBodyStart tag := by
    simp only [inCaption, isStart_startTag, isEnd_startTag, hpart, Bool.or_self, Bool.false_eq_true, if_false, inBody]
  have hcell : b.inCell (.startTag tag) = b.onBodyStart tag := by
    simp only [inCell, hpart, Bool.false_eq_true, if_false, inBody]
  simp only [flowModes, List.mem_cons, List.not_mem_nil, or_false] at hmode
  rcases hmode with hmode | hmode | hmode <;> rw [hmode]
  · rfl
  · exact hcaption
  · exact hcell

theorem Steady.enters_inTable (h : Steady path b) (hhead : path.head? = some "table")
    (hlabel : ["caption", "colgroup", "tbody", "tfoot", "thead"].contains tag.name = true) :
    Enters b tag (b.inTable (.startTag tag)) := by
  have hinside : b.popUntilCurrent ElementSet.tableScope = b :=
    popUntilCurrent_of_current (by rw [h.current_eq hhead]; rfl)
  have hname : tag.name = "caption" ∨ tag.name = "colgroup" ∨ tag.name = "tbody" ∨ tag.name = "tfoot" ∨
      tag.name = "thead" := by simpa using hlabel
  rcases hname with hname | hname
  · have hrule : b.inTable (.startTag tag) =
        { (b.popUntilCurrent ElementSet.tableScope).pushMark.openTag tag with mode := .inCaption }.done := by
      obtain ⟨label, attrs, selfClosing⟩ := tag
      obtain rfl : label = "caption" := hname
      rfl
    have hentries := entriesFor_of_isBound (by rw [hname]; rfl) b.arena.size
    rw [hrule, hinside, h.openTag_pushMark, h.openTag]
    simp only [pushMark]
    exact h.enters_of_eq (by rw [hentries]; rfl) (by rw [hname]; rfl) (by rw [hname]; rfl)
  · have hrule : b.inTable (.startTag tag) =
        { (b.popUntilCurrent ElementSet.tableScope).openTag tag with mode := modeIn (tag.name :: path) }.done := by
      obtain ⟨label, attrs, selfClosing⟩ := tag
      dsimp only at hname
      rcases hname with rfl | rfl | rfl | rfl <;> rfl
    have hplain : (isFormat tag.name || isBound tag.name) = false ∧ (tag.name == "form") = false := by
      rcases hname with hname | hname | hname | hname <;> rw [hname] <;> decide
    rw [hrule, hinside, h.openTag]
    dsimp only
    exact h.enters_of_eq (by rw [entriesFor_eq_nil hplain.1]; rfl) (by rw [hplain.2]; rfl) rfl

theorem Steady.enters_inTableBody (h : Steady path b)
    (hhead : path.head?.any ["tbody", "tfoot", "thead"].contains = true) (hlabel : tag.name = "tr") :
    Enters b tag (b.inTableBody (.startTag tag)) := by
  have hinside : b.popUntilCurrent ElementSet.bodyContext = b := by
    refine popUntilCurrent_of_current ?_
    obtain ⟨label, hlabel, hmem⟩ := (Option.any_eq_true _ _).mp hhead
    have hname : label = "tbody" ∨ label = "tfoot" ∨ label = "thead" := by simpa using hmem
    rw [h.current_eq hlabel]
    rcases hname with rfl | rfl | rfl <;> rfl
  have hrule : b.inTableBody (.startTag tag) =
      { (b.popUntilCurrent ElementSet.bodyContext).openTag tag with mode := .inRow }.done := by
    simp +decide only [inTableBody, isStart_startTag, hlabel, if_true]
  have hentries := entriesFor_eq_nil (by rw [hlabel]; rfl) b.arena.size
  rw [hrule, hinside, h.openTag]
  dsimp only
  exact h.enters_of_eq (by rw [hentries]; rfl) (by rw [hlabel]; rfl) (by rw [hlabel]; rfl)

theorem Steady.enters_inRow (h : Steady path b) (hhead : path.head? = some "tr")
    (hlabel : tag.name = "td" ∨ tag.name = "th") : Enters b tag (b.inRow (.startTag tag)) := by
  have hinside : b.popUntilCurrent ElementSet.rowContext = b :=
    popUntilCurrent_of_current (by rw [h.current_eq hhead]; rfl)
  have hrule : b.inRow (.startTag tag) =
      { (b.popUntilCurrent ElementSet.rowContext).openTag tag with mode := .inCell }.pushMark.done := by
    rcases hlabel with hlabel | hlabel <;> simp +decide only [inRow, hlabel, if_true]
  have hmode : modeIn (tag.name :: path) = .inCell := by
    cases path with
    | nil => cases hhead
    | cons label rest => rcases hlabel with hlabel | hlabel <;> rw [hlabel] <;> rfl
  have hbound : isBound tag.name = true ∧ (tag.name == "form") = false := by
    rcases hlabel with hlabel | hlabel <;> rw [hlabel] <;> decide
  rw [hrule, hinside, h.openTag]
  simp only [pushMark]
  exact h.enters_of_eq (by rw [entriesFor_of_isBound hbound.1]; rfl) (by rw [hbound.2]; rfl) hmode.symm

theorem Steady.enters_inSelect (h : Steady path b)
    (hlabel : tag.name = "option" ∧ path.head? ≠ some "option" ∨ tag.name = "optgroup" ∧ path.head? = some "select") :
    Enters b tag (b.inSelect (.startTag tag)) := by
  obtain ⟨label, attrs, selfClosing⟩ := tag
  rcases hlabel with ⟨hlabel, hhead⟩ | ⟨hlabel, hhead⟩
  · obtain rfl : label = "option" := hlabel
    have hcurrent : b.currentIs "option" = false := by
      rw [currentIs, h.current_name]
      cases path with
      | nil => rfl
      | cons label rest => simpa [Name.isHtml, Name.html] using hhead
    simp only [inSelect, hcurrent, Bool.false_eq_true, if_false]
    exact h.enters_openTag rfl
  · obtain rfl : label = "optgroup" := hlabel
    have hclose : b.closeOptions = b := by
      simp +decide only [closeOptions, currentIs, h.current_eq hhead, if_false]
    simp only [inSelect, hclose]
    exact h.enters_openTag rfl

theorem inSelectInTable_startTag
    (hlabel : ["caption", "table", "tbody", "tfoot", "thead", "tr", "td", "th"].contains tag.name = false) :
    b.inSelectInTable (.startTag tag) = b.inSelect (.startTag tag) := by
  simp only [inSelectInTable, hlabel, Bool.false_eq_true, if_false]

/-- Wherever an element with content fits, the rule that is on goes into it. -/
theorem Steady.enters (h : Steady path b) (hfits : fitsIn path tag.name = true) (hvoid : isVoid tag.name = false)
    (hraw : rawKind? tag.name = none) : Enters b tag (b.inMode b.mode (.startTag tag)) := by
  have hmode := h.mode
  cases hin : modeIn path <;> simp only [fitsIn, hin, Bool.false_eq_true] at hfits
  case inBody | inCaption | inCell =>
    have hflow : modeIn path ∈ flowModes := by rw [hin]; decide
    rw [inFlow_startTag (hmode ▸ hflow) (not_partLabels_of_fitsInFlow hfits)]
    exact h.enters_inFlow hflow hfits hvoid hraw
  case inTable =>
    rw [hmode, hin]
    simp only [Bool.and_eq_true, beq_iff_eq] at hfits
    exact h.enters_inTable hfits.1 hfits.2
  case inTableBody =>
    rw [hmode, hin]
    simp only [Bool.and_eq_true, beq_iff_eq] at hfits
    exact h.enters_inTableBody hfits.1 hfits.2
  case inRow =>
    rw [hmode, hin]
    simp only [Bool.and_eq_true, beq_iff_eq] at hfits
    exact h.enters_inRow hfits.1 (by simpa using hfits.2)
  case inSelect =>
    rw [hmode, hin]
    exact h.enters_inSelect (by simpa using hfits)
  case inSelectInTable =>
    rw [hmode, hin]
    have hlabel : tag.name = "option" ∧ path.head? ≠ some "option" ∨
        tag.name = "optgroup" ∧ path.head? = some "select" := by simpa using hfits
    have hnot : ["caption", "table", "tbody", "tfoot", "thead", "tr", "td", "th"].contains tag.name = false := by
      rcases hlabel with ⟨hlabel, -⟩ | ⟨hlabel, -⟩ <;> rw [hlabel] <;> decide
    change Enters b tag (b.inSelectInTable (.startTag tag))
    rw [inSelectInTable_startTag hnot]
    exact h.enters_inSelect hlabel

/-! ## Elements without content -/

/-- Whether a rule has changed nothing but the table. -/
def Adds (b : Builder) (arena : Arena) (outcome : Outcome) : Prop :=
  outcome.2 = .done ∧ outcome.1.core = { b with arena }.core ∧ outcome.1.skipLine = b.skipLine ∧
    outcome.1.skipMark = b.skipMark

theorem adds_withArena (b : Builder) (arena : Arena) (framesetOk : Bool) :
    Adds b arena { b with arena, framesetOk }.done :=
  ⟨rfl, rfl, rfl, rfl⟩

theorem Steady.adds_addTag (h : Steady path b) : Adds b (b.opened tag) (b.addTag tag).done := by
  rw [h.addTag]
  exact adds_withArena b _ b.framesetOk

theorem Steady.adds_quietly (h : Steady path b) : Adds b (b.opened tag) (b.addTag tag).noFrameset.done := by
  rw [h.addTag]
  simp only [noFrameset]
  exact adds_withArena b _ false

theorem onHeadTag_void (hlabel : ["base", "link", "meta"].contains tag.name = true) :
    b.onHeadTag tag = (b.addTag tag).done := by
  obtain ⟨label, attrs, selfClosing⟩ := tag
  have hname : label = "base" ∨ label = "link" ∨ label = "meta" := by simpa using hlabel
  rcases hname with rfl | rfl | rfl <;> rfl

theorem Steady.adds_inFlow (h : Steady path b) (hvoid : isVoid tag.name = true) (hcol : tag.name ≠ "col")
    (hp : tag.name = "hr" → hasParagraph path = false) : Adds b (b.opened tag) (b.onBodyStart tag) := by
  have hname : tag.name ∈ voidLabels := by simpa [isVoid] using hvoid
  by_cases hhead : ["base", "link", "meta"].contains tag.name = true
  · have hlabel : tag.name = "base" ∨ tag.name = "link" ∨ tag.name = "meta" := by simpa using hhead
    have hrule : b.onBodyStart tag = b.onHeadTag tag := by
      rcases hlabel with hlabel | hlabel | hlabel <;> simp +decide only [onBodyStart, hlabel, if_true, if_false]
    rw [hrule, onHeadTag_void hhead]
    exact h.adds_addTag
  by_cases hhr : tag.name = "hr"
  · have hrule : b.onBodyStart tag = (b.endParagraph.addTag tag).noFrameset.done := by
      simp +decide only [onBodyStart, hhr, if_true, if_false]
    rw [hrule, h.endParagraph (hp hhr)]
    exact h.adds_quietly
  by_cases hinput : tag.name = "input"
  · have hrule : b.onBodyStart tag =
        (if isHiddenInput tag then b.reopen.addTag tag else (b.reopen.addTag tag).noFrameset).done := by
      simp +decide only [onBodyStart, addInline, hinput, if_true, if_false]
    rw [hrule, h.reopen]
    split
    · exact h.adds_addTag
    · exact h.adds_quietly
  by_cases hsource : ["param", "source", "track"].contains tag.name = true
  · have hlabel : tag.name = "param" ∨ tag.name = "source" ∨ tag.name = "track" := by simpa using hsource
    have hrule : b.onBodyStart tag = (b.addTag tag).done := by
      rcases hlabel with hlabel | hlabel | hlabel <;> simp +decide only [onBodyStart, hlabel, if_true, if_false]
    rw [hrule]
    exact h.adds_addTag
  have hlabel : tag.name = "area" ∨ tag.name = "br" ∨ tag.name = "embed" ∨ tag.name = "img" ∨ tag.name = "wbr" := by
    have hall : ∀ l ∈ voidLabels, ["base", "link", "meta"].contains l ∨ l = "hr" ∨ l = "input" ∨
        ["param", "source", "track"].contains l ∨ l = "col" ∨ l = "area" ∨ l = "br" ∨ l = "embed" ∨ l = "img" ∨
        l = "wbr" := by decide
    simpa only [hhead, hhr, hinput, hsource, hcol, Bool.false_eq_true, false_or] using hall tag.name hname
  have hrule : b.onBodyStart tag = (b.reopen.addTag tag).noFrameset.done := by
    rcases hlabel with hlabel | hlabel | hlabel | hlabel | hlabel <;>
      simp +decide only [onBodyStart, addInline, hlabel, if_true, if_false]
  rw [hrule, h.reopen]
  exact h.adds_quietly

theorem Steady.adds_inSelect (h : Steady path b) (hlabel : tag.name = "hr") (hhead : path.head? = some "select") :
    Adds b (b.opened tag) (b.inSelect (.startTag tag)) := by
  have hclose : b.closeOptions = b := by
    simp +decide only [closeOptions, currentIs, h.current_eq hhead, if_false]
  simp only [inSelect, hlabel, hclose]
  exact h.adds_addTag

theorem Steady.adds_inFlowMode (h : Steady path b) (hmode : modeIn path ∈ flowModes) (hvoid : isVoid tag.name = true)
    (hcol : tag.name ≠ "col") (hp : tag.name = "hr" → hasParagraph path = false) :
    Adds b (b.opened tag) (b.inMode b.mode (.startTag tag)) := by
  have hparts : ∀ l ∈ voidLabels, l ≠ "col" → partLabels.contains l = false := by decide
  rw [inFlow_startTag (h.mode ▸ hmode) (hparts tag.name (by simpa [isVoid] using hvoid) hcol)]
  exact h.adds_inFlow hvoid hcol hp

/-- Wherever a void element fits, the rule that is on adds it. -/
theorem Steady.adds_void (h : Steady path b) (hfits : voidFitsIn path tag.name = true)
    (hvoid : isVoid tag.name = true) : Adds b (b.opened tag) (b.inMode b.mode (.startTag tag)) := by
  have hmode := h.mode
  cases hin : modeIn path <;> simp only [voidFitsIn, hin, Bool.false_eq_true] at hfits
  case inHead =>
    rw [hmode, hin]
    have hlabel : tag.name = "base" ∨ tag.name = "link" ∨ tag.name = "meta" := by simpa using hfits
    have hrule : b.inHead (.startTag tag) = b.onHeadTag tag := by
      rcases hlabel with hlabel | hlabel | hlabel <;> simp +decide only [inHead, hlabel, if_true, if_false]
    change Adds b (b.opened tag) (b.inHead (.startTag tag))
    rw [hrule, onHeadTag_void hfits]
    exact h.adds_addTag
  case inBody | inCaption | inCell =>
    have hplace : tag.name ≠ "col" ∧ (tag.name ≠ "hr" ∨ hasParagraph path = false) := by simpa using hfits
    exact h.adds_inFlowMode (by rw [hin]; decide) hvoid hplace.1 fun hhr => hplace.2.resolve_left fun hne => hne hhr
  case inColumnGroup =>
    rw [hmode, hin]
    have hrule : b.inColumnGroup (.startTag tag) = (b.addTag tag).done := by
      simp only [inColumnGroup, beq_iff_eq.mp hfits]
    change Adds b (b.opened tag) (b.inColumnGroup (.startTag tag))
    rw [hrule]
    exact h.adds_addTag
  case inSelect =>
    rw [hmode, hin]
    simp only [Bool.and_eq_true, beq_iff_eq] at hfits
    exact h.adds_inSelect hfits.1 hfits.2
  case inSelectInTable =>
    rw [hmode, hin]
    simp only [Bool.and_eq_true, beq_iff_eq] at hfits
    change Adds b (b.opened tag) (b.inSelectInTable (.startTag tag))
    rw [inSelectInTable_startTag (by rw [hfits.1]; decide)]
    exact h.adds_inSelect hfits.1 hfits.2

/-! ## Elements with raw text -/

/-- Whether a rule has opened an element with raw text. -/
def OpensRaw (b : Builder) (tag : Tag) (kind : RawKind) (outcome : Outcome) : Prop :=
  outcome.2 = .scan (.raw kind) ∧
    outcome.1.core = { b with
      arena := b.opened tag
      stack := ⟨b.arena.size, .html tag.name⟩ :: b.stack
      mode := .text }.core ∧
    outcome.1.home = b.mode ∧ (outcome.1.skipLine = true → b.skipLine = true ∨ Node.dropsLine tag.name = true)

theorem Steady.opensRaw (h : Steady path b) (kind : RawKind) : OpensRaw b tag kind (b.openRaw tag kind) := by
  rw [openRaw, h.openTag]
  unfold OpensRaw
  -- as with `Enters`, the table is not to be unfolded
  generalize b.opened tag = arena
  exact ⟨rfl, rfl, rfl, .inl⟩

/-- The rule for raw text in the head, which reads the same elements everywhere. -/
theorem Steady.opensRaw_onHeadTag (h : Steady path b) {kind : RawKind} (hkind : rawKind? tag.name = some kind)
    (hlabel : ["title", "script", "style", "noscript", "noframes"].contains tag.name = true) :
    OpensRaw b tag kind (b.onHeadTag tag) := by
  have hrule : b.onHeadTag tag = b.openRaw tag kind := by
    obtain ⟨label, attrs, selfClosing⟩ := tag
    have hname : label = "title" ∨ label = "script" ∨ label = "style" ∨ label = "noscript" ∨ label = "noframes" := by
      simpa using hlabel
    rcases hname with rfl | rfl | rfl | rfl | rfl <;> cases hkind <;> rfl
  rw [hrule]
  exact h.opensRaw kind

theorem mem_of_rawKind? {label : String} {kind : RawKind} (h : rawKind? label = some kind) :
    label ∈ "title" :: "textarea" :: verbatimLabels := by
  by_contra hnot
  simp only [List.mem_cons, not_or, verbatimLabels, List.not_mem_nil, not_false_eq_true, and_true] at hnot
  simp [rawKind?, verbatimLabels, hnot] at h

theorem Steady.opensRaw_inFlow (h : Steady path b) {kind : RawKind} (hkind : rawKind? tag.name = some kind)
    (hp : tag.name = "xmp" → hasParagraph path = false) : OpensRaw b tag kind (b.onBodyStart tag) := by
  by_cases hhead : ["title", "script", "style", "noframes"].contains tag.name = true
  · have hname : tag.name = "title" ∨ tag.name = "script" ∨ tag.name = "style" ∨ tag.name = "noframes" := by
      simpa using hhead
    have hrule : b.onBodyStart tag = b.onHeadTag tag := by
      rcases hname with hname | hname | hname | hname <;> simp +decide only [onBodyStart, hname, if_true, if_false]
    rw [hrule]
    exact h.opensRaw_onHeadTag hkind (by rcases hname with hname | hname | hname | hname <;> rw [hname] <;> decide)
  by_cases harea : tag.name = "textarea"
  · have hrule : b.onBodyStart tag = { b with skipLine := true, framesetOk := false }.openRaw tag .escapable := by
      simp +decide only [onBodyStart, harea, if_true, if_false]
    have hquiet : Steady path { b with skipLine := true, framesetOk := false } := h.of_core rfl
    rw [harea] at hkind
    cases hkind
    rw [hrule]
    have hopens : OpensRaw _ tag .escapable _ := hquiet.opensRaw .escapable
    exact ⟨hopens.1, hopens.2.1, hopens.2.2.1, fun _ => .inr (by rw [harea]; rfl)⟩
  have hname : tag.name = "xmp" ∨ tag.name = "iframe" ∨ tag.name = "noembed" ∨ tag.name = "noscript" := by
    have hall : ∀ l ∈ "title" :: "textarea" :: verbatimLabels, ["title", "script", "style", "noframes"].contains l ∨
        l = "textarea" ∨ l = "xmp" ∨ l = "iframe" ∨ l = "noembed" ∨ l = "noscript" := by decide
    simpa only [hhead, harea, Bool.false_eq_true, false_or] using hall tag.name (mem_of_rawKind? hkind)
  have hquiet : Steady path b.noFrameset := h.of_core rfl
  rcases hname with hname | hname | hname | hname <;> rw [hname] at hkind <;> cases hkind
  · have hrule : b.onBodyStart tag = b.endParagraph.reopen.noFrameset.openRaw tag .plain := by
      simp +decide only [onBodyStart, hname, if_true, if_false]
    rw [hrule, h.endParagraph (hp hname), h.reopen]
    exact hquiet.opensRaw .plain
  · have hrule : b.onBodyStart tag = b.noFrameset.openRaw tag .plain := by
      simp +decide only [onBodyStart, hname, if_true, if_false]
    rw [hrule]
    exact hquiet.opensRaw .plain
  all_goals
    have hrule : b.onBodyStart tag = b.openRaw tag .plain := by
      simp +decide only [onBodyStart, hname, if_true, if_false]
    rw [hrule]
    exact h.opensRaw .plain

theorem Steady.opensRaw_inFlowMode (h : Steady path b) {kind : RawKind} (hkind : rawKind? tag.name = some kind)
    (hmode : modeIn path ∈ flowModes) (hp : tag.name = "xmp" → hasParagraph path = false) :
    OpensRaw b tag kind (b.inMode b.mode (.startTag tag)) := by
  have hpart : partLabels.contains tag.name = false := by
    have hall : ∀ l ∈ partLabels, rawKind? l = none := by decide
    by_contra hpart
    rw [hall tag.name (by simpa using hpart)] at hkind
    cases hkind
  rw [inFlow_startTag (h.mode ▸ hmode) hpart]
  exact h.opensRaw_inFlow hkind hp

theorem Steady.opensRaw_inTable (h : Steady path b) {kind : RawKind} (hkind : rawKind? tag.name = some kind)
    (hlabel : tag.name = "script" ∨ tag.name = "style") : OpensRaw b tag kind (b.inTable (.startTag tag)) := by
  have hrule : b.inTable (.startTag tag) = b.onHeadTag tag := by
    obtain ⟨label, attrs, selfClosing⟩ := tag
    dsimp only at hlabel
    rcases hlabel with rfl | rfl <;> rfl
  rw [hrule]
  exact h.opensRaw_onHeadTag hkind (by rcases hlabel with hlabel | hlabel <;> rw [hlabel] <;> decide)

theorem Steady.opensRaw_inSelect (h : Steady path b) {kind : RawKind} (hkind : rawKind? tag.name = some kind)
    (hlabel : tag.name = "script") : OpensRaw b tag kind (b.inSelect (.startTag tag)) := by
  have hrule : b.inSelect (.startTag tag) = b.onHeadTag tag := by
    obtain ⟨label, attrs, selfClosing⟩ := tag
    obtain rfl : label = "script" := hlabel
    rfl
  rw [hrule]
  exact h.opensRaw_onHeadTag hkind (by rw [hlabel]; decide)

/-- Wherever an element with raw text fits, the rule that is on opens it. -/
theorem Steady.opens_raw (h : Steady path b) {kind : RawKind} (hkind : rawKind? tag.name = some kind)
    (hfits : rawFitsIn path tag.name = true) : OpensRaw b tag kind (b.inMode b.mode (.startTag tag)) := by
  have hmode := h.mode
  cases hin : modeIn path <;> simp only [rawFitsIn, hin, Bool.false_eq_true] at hfits
  case inHead =>
    rw [hmode, hin]
    have hname : tag.name = "title" ∨ tag.name = "script" ∨ tag.name = "style" ∨ tag.name = "noscript" ∨
        tag.name = "noframes" := by simpa using hfits
    have hrule : b.inHead (.startTag tag) = b.onHeadTag tag := by
      rcases hname with hname | hname | hname | hname | hname <;>
        simp +decide only [inHead, hname, if_true, if_false]
    change OpensRaw b tag kind (b.inHead (.startTag tag))
    rw [hrule]
    exact h.opensRaw_onHeadTag hkind hfits
  case inBody | inCaption | inCell =>
    have hplace : tag.name ≠ "xmp" ∨ hasParagraph path = false := by simpa using hfits
    exact h.opensRaw_inFlowMode hkind (by rw [hin]; decide) fun hxmp => hplace.resolve_left fun hne => hne hxmp
  case inTable =>
    rw [hmode, hin]
    exact h.opensRaw_inTable hkind (by simpa using hfits)
  case inTableBody =>
    rw [hmode, hin]
    have hname : tag.name = "script" ∨ tag.name = "style" := by simpa using hfits
    have hrule : b.inTableBody (.startTag tag) = b.inTable (.startTag tag) := by
      rcases hname with hname | hname <;>
        simp +decide only [inTableBody, isStart_startTag, isEnd_startTag, hname, if_false]
    change OpensRaw b tag kind (b.inTableBody (.startTag tag))
    rw [hrule]
    exact h.opensRaw_inTable hkind hname
  case inRow =>
    rw [hmode, hin]
    have hname : tag.name = "script" ∨ tag.name = "style" := by simpa using hfits
    have hrule : b.inRow (.startTag tag) = b.inTable (.startTag tag) := by
      rcases hname with hname | hname <;> simp +decide only [inRow, hname, if_false]
    change OpensRaw b tag kind (b.inRow (.startTag tag))
    rw [hrule]
    exact h.opensRaw_inTable hkind hname
  case inSelect =>
    rw [hmode, hin]
    exact h.opensRaw_inSelect hkind (by simpa using hfits)
  case inSelectInTable =>
    rw [hmode, hin]
    have hname : tag.name = "script" := by simpa using hfits
    change OpensRaw b tag kind (b.inSelectInTable (.startTag tag))
    rw [inSelectInTable_startTag (by rw [hname]; decide)]
    exact h.opensRaw_inSelect hkind hname

/-! ## Comments and text -/

/-- The modes that read what is in an open element. -/
def contentModes : List Mode :=
  [.inHead, .afterHead, .inBody, .inTable, .inCaption, .inColumnGroup, .inTableBody, .inRow, .inCell, .inSelect,
   .inSelectInTable, .inFrameset]

theorem selectMode_mem (stack : List Opened) : selectMode stack ∈ contentModes := by
  induction stack with
  | nil => decide
  | cons o rest ih =>
    rw [selectMode]
    split
    · decide
    · split
      · decide
      · exact ih

theorem modeIn_mem (path : List String) : modeIn path ∈ contentModes := by
  induction path with
  | nil => decide
  | cons label rest ih =>
    simp only [modeIn, openedAs, List.map_cons]
    rw [modeFor, if_neg (by simp [Name.html])]
    split
    · exact selectMode_mem _
    case h_16 => exact ih
    all_goals first | decide | (split <;> decide)

theorem IsDirect.insertComment (h : b.IsDirect) (text : String) :
    b.insertComment text = { b with arena := b.arena.lay b.current.id (.comment text) } := by
  have hput := h.put (b.arena.make (.comment text)).1 (.node b.arena.size)
  simp only [Builder.insertComment, insert, Arena.make, Arena.lay] at hput ⊢
  rw [hput]
  rfl

theorem Steady.adds_comment (h : Steady path b) (text : String) :
    Adds b (b.arena.lay b.current.id (.comment text)) (b.inMode b.mode (.comment text)) := by
  have hrule : b.inMode (modeIn path) (.comment text) = (b.insertComment text).done := by
    have hin := modeIn_mem path
    simp only [contentModes, List.mem_cons, List.not_mem_nil, or_false] at hin
    rcases hin with hin | hin | hin | hin | hin | hin | hin | hin | hin | hin | hin | hin <;> rw [hin] <;> rfl
  rw [h.mode, hrule, h.isDirect.insertComment]
  exact adds_withArena b _ b.framesetOk

theorem IsDirect.insertChar (h : b.IsDirect) (c : Char) :
    b.insertChar c = { b with arena := b.arena.appendChar b.current.id c } := by
  have hput := h.put b.arena (.char c)
  rw [Builder.insertChar, insert, show b.arena.put (b.spot b.current) (.char c) = _ from hput]
  rfl

/-- Outside tables a character goes into the innermost open element at once. -/
theorem Steady.adds_char (h : Steady path b) {c : Char} (hfits : charFitsIn path c = true)
    (hrows : modeIn path ∉ rowModes) :
    Adds b (b.arena.appendChar b.current.id c) (b.inMode b.mode (.char c)) := by
  have hinsert : Adds b (b.arena.appendChar b.current.id c) (b.insertChar c).done := by
    rw [h.isDirect.insertChar]
    exact adds_withArena b _ b.framesetOk
  have hbody : Adds b (b.arena.appendChar b.current.id c) (b.inBody (.char c)) := by
    have hquiet : Steady path b.noFrameset := h.of_core rfl
    simp only [inBody, h.reopen]
    split
    · exact hinsert
    · rw [hquiet.isDirect.insertChar]
      simp only [noFrameset, current]
      exact adds_withArena b _ false
  have hmode := h.mode
  cases hin : modeIn path <;> simp only [charFitsIn, hin, Bool.false_eq_true] at hfits
  case inBody | inCaption | inCell =>
    rw [hmode, hin]
    exact hbody
  case inSelect | inSelectInTable =>
    rw [hmode, hin]
    exact hinsert
  case inHead =>
    rw [hmode, hin]
    change Adds b _ (b.inHead (.char c))
    simpa only [inHead, hfits, if_true] using hinsert
  case afterHead =>
    rw [hmode, hin]
    change Adds b _ (b.inAfterHead (.char c))
    simpa only [inAfterHead, hfits, if_true] using hinsert
  case inColumnGroup =>
    rw [hmode, hin]
    change Adds b _ (b.inColumnGroup (.char c))
    simpa only [inColumnGroup, hfits, if_true] using hinsert
  case inTable | inTableBody | inRow => exact absurd (by rw [hin]; decide) hrows

/-- Between the parts of a table a character waits for what comes after it. -/
theorem Steady.inMode_char_rows (h : Steady path b) {c : Char} (hfits : charFitsIn path c = true)
    (hrows : modeIn path ∈ rowModes) :
    b.inMode b.mode (.char c) = { b with home := b.mode }.again .inTableText ∧ isAsciiBlank c = true := by
  have hparts : path.head?.any (ElementSet.tableParts ∘ .html) = true ∧ isAsciiBlank c = true := by
    simp only [rowModes, List.mem_cons, List.not_mem_nil, or_false] at hrows
    rcases hrows with hin | hin | hin <;> simpa only [charFitsIn, hin, Bool.and_eq_true] using hfits
  have hcurrent : b.currentIn ElementSet.tableParts = true := by
    obtain ⟨label, hlabel, hpart⟩ := (Option.any_eq_true _ _).mp hparts.1
    rw [currentIn, h.current_eq hlabel]
    exact hpart
  have hwait : b.onTableText (.char c) = { b with home := b.mode }.again .inTableText := by
    rw [onTableText, if_pos hcurrent]
  refine ⟨?_, hparts.2⟩
  have hmode := h.mode
  simp only [rowModes, List.mem_cons, List.not_mem_nil, or_false] at hrows
  rcases hrows with hin | hin | hin <;>
  · rw [hin] at hmode
    rw [← hwait]
    generalize hat : b.mode = mode
    rw [hmode] at hat
    subst hat
    rfl

end Builder

end PageEdit.Html.Build
