import PageEdit.Proofs.Html.Steady

/-!
# Start tags that only open

Where an element stands as in a plain page, its start tag does nothing but put the element last in the innermost open
one and, unless it is void, leave it open.

* `Builder.Steady.reopen`, `Builder.Steady.endParagraph`: what need not be done.
* `Builder.Enters`: whether a rule has gone into an element.
* `Builder.Steady.enters_inFlow`: an element among text.
-/

namespace PageEdit.Html.Build

namespace Builder

variable {path : List String} {b : Builder} {tag : Tag}

/-! ## Places -/

/-- The table with the element of a start tag last in the innermost open element. -/
def opened (b : Builder) (tag : Tag) : Arena :=
  (b.arena.makeElement (.html tag.name) (Foreign.attrs .html tag)).1.append b.current.id b.arena.size

/-- A builder that puts content last in the innermost open element. -/
structure IsDirect (b : Builder) : Prop where
  fostering : b.fostering = false
  current : b.current.name.isHtml "template" = false

namespace IsDirect

theorem put (h : b.IsDirect) (arena : Arena) (content : Content) :
    arena.put ({ b with arena }.spot { b with arena }.current) content = arena.place b.current.id content := by
  have hcurrent : { b with arena }.current = b.current := rfl
  rw [hcurrent, spot]
  simp [h.fostering, h.current, Arena.put]

theorem openNamed (h : b.IsDirect) (name : Name) (attrs : List Attr) :
    b.openNamed name attrs =
      ({ b with
          arena := (b.arena.makeElement name attrs).1.append b.current.id b.arena.size
          stack := ⟨b.arena.size, name⟩ :: b.stack }, b.arena.size) := by
  have hput := h.put (b.arena.makeElement name attrs).1 (.node b.arena.size)
  simp only [Builder.openNamed, insert, Arena.makeElement_snd, hput, Arena.place]

theorem openNamed_html (h : b.IsDirect) (tag : Tag) :
    b.openNamed (.html tag.name) (Foreign.attrs .html tag) =
      ({ b with arena := b.opened tag, stack := ⟨b.arena.size, .html tag.name⟩ :: b.stack }, b.arena.size) :=
  h.openNamed _ _

theorem openTag (h : b.IsDirect) (tag : Tag) :
    b.openTag tag = { b with arena := b.opened tag, stack := ⟨b.arena.size, .html tag.name⟩ :: b.stack } := by
  rw [Builder.openTag, h.openNamed_html]

end IsDirect

namespace Steady

theorem current_name (h : Steady path b) : b.current.name = .html (path.head?.getD "") := by
  have hnames := h.names
  rw [current, List.headD_eq_head?_getD]
  cases hstack : b.stack with
  | nil =>
    rw [hstack] at hnames
    obtain rfl := List.map_eq_nil_iff.mp hnames.symm
    rfl
  | cons o rest =>
    rw [hstack] at hnames
    cases path with
    | nil => cases hnames
    | cons label path => exact (List.cons.inj hnames).1

theorem current_ne_template (h : Steady path b) : b.current.name.isHtml "template" = false := by
  have hne : path.head?.getD "" ≠ "template" := by
    intro heq
    cases path with
    | nil => simp at heq
    | cons label rest => exact h.noTemplate (by simp_all)
  simpa [h.current_name, Name.isHtml, Name.html] using hne

theorem isDirect (h : Steady path b) : b.IsDirect := ⟨h.fostering, h.current_ne_template⟩

theorem openTag (h : Steady path b) (tag : Tag) :
    b.openTag tag = { b with arena := b.opened tag, stack := ⟨b.arena.size, .html tag.name⟩ :: b.stack } :=
  h.isDirect.openTag tag

theorem addTag (h : Steady path b) (tag : Tag) : b.addTag tag = { b with arena := b.opened tag } := by
  rw [Builder.addTag, h.openTag, pop, List.tail_cons]

theorem openTag_noFrameset (h : Steady path b) (tag : Tag) :
    b.noFrameset.openTag tag = (b.openTag tag).noFrameset := by
  have hquiet : b.noFrameset.IsDirect := ⟨h.fostering, h.current_ne_template⟩
  rw [hquiet.openTag, h.openTag]
  simp only [noFrameset, opened, current]

theorem openTag_pushMark (h : Steady path b) (tag : Tag) : b.pushMark.openTag tag = (b.openTag tag).pushMark := by
  have hmarked : b.pushMark.IsDirect := ⟨h.fostering, h.current_ne_template⟩
  rw [hmarked.openTag, h.openTag]
  simp only [pushMark, opened, current]

/-! ## What need not be done -/

theorem endParagraph (h : Steady path b) (hp : hasParagraph path = false) : b.endParagraph = b := by
  rw [Builder.endParagraph, h.hasIn, if_neg]
  simpa [hasParagraph] using hp

/-- The formatting element that counts last is open. -/
theorem head_isMarkOrOpen (h : Steady path b) {e : Entry} {rest : List Entry} (hentries : b.formatting = e :: rest) :
    b.isMarkOrOpen e = true := by
  cases e with
  | mark => rfl
  | element id tag =>
    have hmem : key (.element id tag) ∈ b.stack.flatMap keysOf := by
      rw [← h.entries, hentries]
      exact .head _
    obtain ⟨o, ho, hkey⟩ := List.mem_flatMap.mp hmem
    have hid : o.id = id := by
      unfold keysOf at hkey
      split at hkey
      · have heq := List.mem_singleton.mp hkey
        simp only [key, Option.some.injEq, Prod.mk.injEq] at heq
        exact heq.1.symm
      · split at hkey
        · exact absurd (List.mem_singleton.mp hkey) (by simp [key])
        · exact absurd hkey List.not_mem_nil
    exact List.any_eq_true.mpr ⟨o, ho, by simp [hid]⟩

theorem reopen (h : Steady path b) : b.reopen = b := by
  have hnone : b.formatting.takeWhile (!b.isMarkOrOpen ·) = [] := by
    cases hentries : b.formatting with
    | nil => rfl
    | cons e rest => simp [h.head_isMarkOrOpen hentries]
  simp [Builder.reopen, hnone]

end Steady

/-! ## Formatting elements that count -/

def entryName (e : Entry) : Option String := (key e).map (·.2)

/-- The names of the formatting elements that count, latest first. -/
def activeNames (b : Builder) : List String := b.activeEntries.filterMap entryName

theorem names_of_keys (stack : List Opened) :
    ((stack.flatMap keysOf).takeWhile Option.isSome).filterMap (·.map (·.2)) =
      formatsIn (stack.map (·.name.label)) := by
  induction stack with
  | nil => rfl
  | cons o rest ih =>
    rw [List.flatMap_cons, List.map_cons]
    by_cases hformat : isFormat o.name.label = true
    · have hbound : isBound o.name.label = false := by
        by_contra hbound
        rw [not_isFormat_of_isBound (by simpa using hbound)] at hformat
        cases hformat
      have hkeys : keysOf o = [some (o.id, o.name.label)] := by simp [keysOf, hformat]
      rw [hkeys, formatsIn, List.takeWhile_cons_of_pos (by simp [hbound]), List.filter_cons_of_pos hformat]
      simpa [formatsIn] using ih
    · by_cases hbound : isBound o.name.label = true
      · have hkeys : keysOf o = [none] := by simp [keysOf, hformat, hbound]
        simp [hkeys, formatsIn, hbound]
      · have hkeys : keysOf o = [] := by simp [keysOf, hformat, hbound]
        rw [hkeys, formatsIn, List.takeWhile_cons_of_pos (by simp [hbound]), List.filter_cons_of_neg hformat]
        simpa [formatsIn] using ih

theorem Steady.activeNames (h : Steady path b) : b.activeNames = formatsIn path := by
  have hmark : (Option.isSome ∘ key) = (· != Entry.mark) := by
    funext e
    cases e <;> rfl
  have hkeys : b.activeEntries.map key = (b.stack.flatMap keysOf).takeWhile Option.isSome := by
    rw [← h.entries, List.takeWhile_map, hmark]
    rfl
  have hnames : b.activeNames = (b.activeEntries.map key).filterMap (·.map (·.2)) := by
    rw [List.filterMap_map]
    rfl
  rw [hnames, hkeys, names_of_keys, h.labels]

/-- Each entry that a predicate picks for its name is one of that name. -/
theorem length_filter_le_count {name : String} {f : Entry → Bool}
    (hf : ∀ e, f e = true → entryName e = some name) (entries : List Entry) :
    (entries.filter f).length ≤ (entries.filterMap entryName).count name := by
  induction entries with
  | nil => simp
  | cons e rest ih =>
    by_cases he : f e = true
    · rw [List.filter_cons_of_pos he, List.filterMap_cons_some (hf e he), List.count_cons_self]
      exact Nat.succ_le_succ ih
    · rw [List.filter_cons_of_neg he]
      cases hkey : entryName e with
      | none => rwa [List.filterMap_cons_none hkey]
      | some other =>
        rw [List.filterMap_cons_some hkey]
        exact Nat.le_trans ih List.count_le_count_cons

/-- A formatting element of which fewer than three are open is opened beside them. -/
theorem Steady.openFormatting (h : Steady path b) (hcount : (formatsIn path).count tag.name < 3) :
    b.openFormatting tag =
      { b with
        arena := b.opened tag
        stack := ⟨b.arena.size, .html tag.name⟩ :: b.stack
        formatting := .element b.arena.size tag :: b.formatting } := by
  unfold Builder.openFormatting
  dsimp only
  split
  · simp only [h.isDirect.openNamed, opened]
  · next hmany =>
    refine absurd (List.drop_eq_nil_of_le ?_) hmany
    rw [← h.activeNames] at hcount
    refine Nat.le_trans (length_filter_le_count (fun e he => ?_) _) (Nat.le_of_lt_succ hcount)
    cases e with
    | mark => cases he
    | element id t =>
      have hname : tag.name = t.name := by
        simp only [sameFormat, Bool.and_eq_true, beq_iff_eq] at he
        exact he.1
      simp [entryName, key, hname]

/-! ## Going in -/

/-- Labels that the mode depends on. -/
def modeLabels : List String :=
  ["select", "td", "th", "tr", "tbody", "thead", "tfoot", "caption", "colgroup", "table", "template", "head", "body",
   "frameset", "html"]

theorem modeIn_cons {label : String} (h : modeLabels.contains label = false) : modeIn (label :: path) = modeIn path := by
  have hnone : ∀ l ∈ modeLabels, label ≠ l := by
    rintro l hl rfl
    simp [hl] at h
  simp only [modeIn, openedAs, List.map_cons]
  rw [modeFor]
  split
  · rfl
  · split
    all_goals first | rfl | (rename_i heq; exact absurd heq (hnone _ (by decide)))

/-- Whether an element with this label leaves no trace but itself. -/
def isOrdinary (label : String) : Bool :=
  !isFormat label && !isBound label && label != "form" && !modeLabels.contains label

/-- Whether a rule has gone into the element of a start tag. -/
def Enters (b : Builder) (tag : Tag) (outcome : Outcome) : Prop :=
  outcome.2 = .done ∧ outcome.1.core = ({ b with arena := b.opened tag }.enter b.arena.size tag).core ∧
    (outcome.1.skipLine = true → b.skipLine = true ∨ Node.dropsLine tag.name = true)

/-- What an element calls for when it has been opened: its entry or mark, the form and the mode. -/
theorem Steady.enters_of_eq (h : Steady path b) {formatting : List Entry} {mode : Mode} {form : Option Nat}
    {framesetOk : Bool} (hformatting : formatting = entriesFor b.arena.size tag ++ b.formatting)
    (hform : form = if tag.name == "form" then some b.arena.size else b.form)
    (hmode : mode = modeIn (tag.name :: path)) :
    Enters b tag { b with
      arena := b.opened tag
      stack := ⟨b.arena.size, .html tag.name⟩ :: b.stack
      formatting, mode, form, framesetOk }.done := by
  subst hformatting hform hmode
  unfold Enters
  -- what is in the table does not matter here, and is not to be unfolded when builders are compared
  generalize b.opened tag = arena
  refine ⟨rfl, ?_, .inl⟩
  simp only [done, enter, h.labels, core_eq_iff, true_and]

theorem Steady.enters_of_ordinary (h : Steady path b) (hordinary : isOrdinary tag.name = true) {framesetOk : Bool} :
    Enters b tag { b with
      arena := b.opened tag
      stack := ⟨b.arena.size, .html tag.name⟩ :: b.stack
      framesetOk }.done := by
  simp only [isOrdinary, Bool.and_eq_true, Bool.not_eq_true', bne_iff_ne] at hordinary
  obtain ⟨⟨⟨hformat, hbound⟩, hform⟩, hmode⟩ := hordinary
  have hentries := entriesFor_eq_nil (Bool.or_eq_false_iff.mpr ⟨hformat, hbound⟩) b.arena.size
  exact h.enters_of_eq (by rw [hentries]; rfl) (if_neg (by simpa using hform)).symm
    (h.mode.trans (modeIn_cons hmode).symm)

/-- Opening an ordinary element goes into it. -/
theorem Steady.enters_openTag (h : Steady path b) (hordinary : isOrdinary tag.name = true) :
    Enters b tag (b.openTag tag).done := by
  rw [h.openTag]
  exact h.enters_of_ordinary hordinary

/-- So it does if the question of framesets is settled by it. -/
theorem Steady.enters_openTag_noFrameset (h : Steady path b) (hordinary : isOrdinary tag.name = true) :
    Enters b tag (b.openTag tag).noFrameset.done := by
  rw [h.openTag]
  simp only [noFrameset]
  exact h.enters_of_ordinary hordinary

theorem Enters.withSkipLine {c : Builder} (h : Enters b tag c.done) (hdrops : Node.dropsLine tag.name = true) :
    Enters b tag { c with skipLine := true }.done :=
  ⟨rfl, h.2.1, fun _ => .inr hdrops⟩

/-! ## Rules in the body -/

theorem Steady.enters_block (h : Steady path b) (hlabel : blockLabels.contains tag.name = true)
    (hp : hasParagraph path = false) : Enters b tag (b.onBodyStart tag) := by
  have hall : ∀ l ∈ blockLabels, (l == "html") = false ∧ headLabels.contains l = false ∧ (l == "body") = false ∧
      (l == "frameset") = false ∧ isOrdinary l = true := by decide
  obtain ⟨hhtml, hhead, hbody, hframeset, hordinary⟩ := hall tag.name (by simpa using hlabel)
  have hrule : b.onBodyStart tag = (b.endParagraph.openTag tag).done := by
    simp only [onBodyStart, hhtml, hhead, hbody, hframeset, hlabel, Bool.false_eq_true, if_true, if_false]
  rw [hrule, h.endParagraph hp]
  exact h.enters_openTag hordinary

theorem Steady.enters_heading (h : Steady path b) (hlabel : headingLabels.contains tag.name = true)
    (hp : hasParagraph path = false) (hhead : path.head?.any headingLabels.contains = false) :
    Enters b tag (b.onBodyStart tag) := by
  have hall : ∀ l ∈ headingLabels, (l == "html") = false ∧ headLabels.contains l = false ∧ (l == "body") = false ∧
      (l == "frameset") = false ∧ blockLabels.contains l = false ∧ isOrdinary l = true := by decide
  obtain ⟨hhtml, hheads, hbody, hframeset, hblock, hordinary⟩ := hall tag.name (by simpa using hlabel)
  have hcurrent : b.currentIn ElementSet.headings = false := by
    rw [currentIn, h.current_name]
    cases path with
    | nil => rfl
    | cons label rest => exact hhead
  have hrule : b.endParagraph = b → b.onBodyStart tag = (b.openTag tag).done := fun hend => by
    simp only [onBodyStart, hhtml, hheads, hbody, hframeset, hblock, hlabel, hend, hcurrent, Bool.false_eq_true,
      if_true, if_false]
  rw [hrule (h.endParagraph hp)]
  exact h.enters_openTag hordinary

theorem Steady.enters_pre (h : Steady path b) (hlabel : tag.name = "pre" ∨ tag.name = "listing")
    (hp : hasParagraph path = false) : Enters b tag (b.onBodyStart tag) := by
  have hrule : b.onBodyStart tag = { (b.endParagraph.openTag tag).noFrameset with skipLine := true }.done := by
    rcases hlabel with hlabel | hlabel <;> simp +decide only [onBodyStart, hlabel, if_true, if_false]
  have hordinary : isOrdinary tag.name = true := by rcases hlabel with hlabel | hlabel <;> rw [hlabel] <;> decide
  have hdrops : Node.dropsLine tag.name = true := by rcases hlabel with hlabel | hlabel <;> rw [hlabel] <;> decide
  rw [hrule, h.endParagraph hp]
  exact (h.enters_openTag_noFrameset hordinary).withSkipLine hdrops

theorem Steady.enters_form (h : Steady path b) (hlabel : tag.name = "form") (hp : hasParagraph path = false)
    (hform : path.contains "form" = false) : Enters b tag (b.onBodyStart tag) := by
  have hnone : b.form = none := by
    rw [h.form, List.find?_eq_none.mpr, Option.map_none]
    rw [← h.hasOpen] at hform
    exact List.any_eq_false.mp hform
  have htemplate : b.hasOpen "template" = false := by
    rw [h.hasOpen]
    simpa using h.noTemplate
  have hrule : b.endParagraph = b → b.onBodyStart tag =
      { (b.openNamed (.html "form") (Foreign.attrs .html tag)).1 with
        form := some (b.openNamed (.html "form") (Foreign.attrs .html tag)).2 }.done := fun hend => by
    simp +decide only [onBodyStart, hlabel, hnone, htemplate, hend, Option.isSome_none, Bool.false_and, if_true,
      if_false]
  have hmode : modeIn (tag.name :: path) = modeIn path := modeIn_cons (by rw [hlabel]; decide)
  have hentries := entriesFor_eq_nil (by rw [hlabel]; rfl) b.arena.size
  rw [hrule (h.endParagraph hp), ← hlabel, h.isDirect.openNamed_html]
  dsimp only
  exact h.enters_of_eq (by rw [hentries]; rfl) (by rw [hlabel]; rfl) (h.mode.trans hmode.symm)

theorem Steady.enters_item (h : Steady path b) {labels : List String}
    (hlabel : tag.name = "li" ∧ labels = ["li"] ∨ (tag.name = "dd" ∨ tag.name = "dt") ∧ labels = ["dd", "dt"])
    (hp : hasParagraph path = false) (hitem : openItem? labels (openedAs path) = none) :
    Enters b tag (b.onBodyStart tag) := by
  have hnone : openItem? labels b.stack = none := (openItem?_congr h.sameNames labels).trans hitem
  have hrule : b.onBodyStart tag = (b.noFrameset.endParagraph.openTag tag).done := by
    rcases hlabel with ⟨hlabel, rfl⟩ | ⟨hlabel | hlabel, rfl⟩ <;>
      simp +decide only [onBodyStart, onItem, noFrameset, hlabel, hnone, if_true, if_false]
  have hordinary : isOrdinary tag.name = true := by
    rcases hlabel with ⟨hlabel, -⟩ | ⟨hlabel | hlabel, -⟩ <;> rw [hlabel] <;> decide
  have hquiet : Steady path b.noFrameset := h.of_core rfl
  rw [hrule, hquiet.endParagraph hp, h.openTag_noFrameset]
  exact h.enters_openTag_noFrameset hordinary

theorem Steady.enters_button (h : Steady path b) (hlabel : tag.name = "button")
    (hbutton : isOpenIn ElementSet.scope "button" path = false) : Enters b tag (b.onBodyStart tag) := by
  rw [← h.hasIn] at hbutton
  have hrule : b.onBodyStart tag = (b.reopen.openTag tag).noFrameset.done := by
    simp +decide only [onBodyStart, hlabel, hbutton, if_true, if_false]
  rw [hrule, h.reopen]
  exact h.enters_openTag_noFrameset (by rw [hlabel]; decide)

theorem Steady.enters_openFormatting (h : Steady path b) (hformat : isFormat tag.name = true)
    (hcount : (formatsIn path).count tag.name < 3) : Enters b tag (b.openFormatting tag).done := by
  have hall : ∀ l ∈ "a" :: "nobr" :: formatLabels, (l == "form") = false ∧ modeLabels.contains l = false := by decide
  have hmem : tag.name ∈ "a" :: "nobr" :: formatLabels := by
    simpa [isFormat, or_assoc] using hformat
  obtain ⟨hform, hmode⟩ := hall tag.name hmem
  rw [h.openFormatting hcount]
  exact h.enters_of_eq (by rw [entriesFor_of_isFormat hformat]; rfl) (by rw [hform]; rfl)
    (h.mode.trans (modeIn_cons hmode).symm)

theorem Steady.enters_format (h : Steady path b) (hlabel : formatLabels.contains tag.name = true)
    (hcount : (formatsIn path).count tag.name < 3) : Enters b tag (b.onBodyStart tag) := by
  have hall : ∀ l ∈ formatLabels, (l == "html") = false ∧ headLabels.contains l = false ∧ (l == "body") = false ∧
      (l == "frameset") = false ∧ blockLabels.contains l = false ∧ headingLabels.contains l = false ∧
      (l == "pre" || l == "listing") = false ∧ (l == "form") = false ∧ (l == "li" || l == "dd" || l == "dt") = false ∧
      (l == "plaintext") = false ∧ (l == "button") = false ∧ (l == "a") = false := by decide
  obtain ⟨hhtml, hheads, hbody, hframeset, hblock, hheading, hpre, hform, hitem, hplain, hbutton, ha⟩ :=
    hall tag.name (by simpa using hlabel)
  have hrule : b.onBodyStart tag = (b.reopen.openFormatting tag).done := by
    simp only [onBodyStart, hhtml, hheads, hbody, hframeset, hblock, hheading, hpre, hform, hitem, hplain, hbutton, ha,
      hlabel, Bool.false_eq_true, if_true, if_false]
  rw [hrule, h.reopen]
  exact h.enters_openFormatting (by rw [isFormat, hlabel, Bool.or_true]) hcount

theorem Steady.enters_link (h : Steady path b) (hlabel : tag.name = "a")
    (hnone : (formatsIn path).contains "a" = false) : Enters b tag (b.onBodyStart tag) := by
  have hnotMem : "a" ∉ formatsIn path := by simpa using hnone
  have hend : b.endOpenLink = b := by
    unfold endOpenLink
    dsimp only
    split
    · next id t hfound =>
      have hmem := List.mem_of_find?_eq_some hfound
      have hname : t.name = "a" := by simpa using List.find?_some hfound
      refine absurd ?_ hnotMem
      rw [← h.activeNames]
      exact List.mem_filterMap.mpr ⟨_, hmem, by simp [entryName, key, hname]⟩
    · rfl
  have hrule : b.onBodyStart tag = (b.endOpenLink.reopen.openFormatting tag).done := by
    simp +decide only [onBodyStart, hlabel, if_true, if_false]
  rw [hrule, hend, h.reopen]
  refine h.enters_openFormatting (by rw [hlabel]; rfl) ?_
  rw [hlabel, List.count_eq_zero_of_not_mem hnotMem]
  decide

theorem Steady.enters_nobr (h : Steady path b) (hlabel : tag.name = "nobr")
    (hnone : isOpenIn ElementSet.scope "nobr" path = false) (hcount : (formatsIn path).count tag.name < 3) :
    Enters b tag (b.onBodyStart tag) := by
  rw [← h.hasIn] at hnone
  have hrule : b.reopen = b → b.onBodyStart tag = (b.openFormatting tag).done := fun hreopen => by
    simp +decide only [onBodyStart, hlabel, hreopen, hnone, if_true, if_false]
  rw [hrule h.reopen]
  exact h.enters_openFormatting (by rw [hlabel]; rfl) hcount

theorem Steady.enters_bound (h : Steady path b) (hlabel : ["applet", "marquee", "object"].contains tag.name = true) :
    Enters b tag (b.onBodyStart tag) := by
  have hname : tag.name = "applet" ∨ tag.name = "marquee" ∨ tag.name = "object" := by simpa using hlabel
  have hrule : b.onBodyStart tag = (b.reopen.openTag tag).pushMark.noFrameset.done := by
    rcases hname with hname | hname | hname <;> simp +decide only [onBodyStart, hname, if_true, if_false]
  have hentries := entriesFor_of_isBound (by rcases hname with hname | hname | hname <;> rw [hname] <;> rfl) b.arena.size
  have hform : tag.name ≠ "form" := by rcases hname with hname | hname | hname <;> rw [hname] <;> decide
  have hmode : modeLabels.contains tag.name = false := by
    rcases hname with hname | hname | hname <;> rw [hname] <;> decide
  rw [hrule, h.reopen, h.openTag]
  simp only [pushMark, noFrameset]
  exact h.enters_of_eq (by rw [hentries]; rfl) (if_neg (by simpa using hform)).symm (h.mode.trans (modeIn_cons hmode).symm)

theorem Steady.enters_table (h : Steady path b) (hlabel : tag.name = "table") (hp : hasParagraph path = false) :
    Enters b tag (b.onBodyStart tag) := by
  have hrule : b.onBodyStart tag =
      { ((if b.keepsTables then b else b.endParagraph).openTag tag).noFrameset with mode := .inTable }.done := by
    simp +decide only [onBodyStart, hlabel, if_true, if_false]
  have hentries := entriesFor_eq_nil (by rw [hlabel]; rfl) b.arena.size
  rw [hrule, h.endParagraph hp, ite_self, h.openTag]
  simp only [noFrameset]
  exact h.enters_of_eq (by rw [hentries]; rfl) (by rw [hlabel]; rfl) (by rw [hlabel]; rfl)

theorem Steady.enters_option (h : Steady path b) (hlabel : tag.name = "optgroup" ∨ tag.name = "option")
    (hoption : path.head? ≠ some "option") : Enters b tag (b.onBodyStart tag) := by
  have hcurrent : b.currentIs "option" = false := by
    rw [currentIs, h.current_name]
    cases path with
    | nil => rfl
    | cons label rest => simpa [Name.isHtml, Name.html] using hoption
  have hrule : b.onBodyStart tag = (b.reopen.openTag tag).done := by
    rcases hlabel with hlabel | hlabel <;> simp +decide only [onBodyStart, hlabel, hcurrent, if_true, if_false]
  rw [hrule, h.reopen]
  exact h.enters_openTag (by rcases hlabel with hlabel | hlabel <;> rw [hlabel] <;> decide)

theorem closeImplied_of_current {set : ElementSet} (hset : set b.current.name = false) : b.closeImplied set = b := by
  have hdrop : dropIn set b.stack = b.stack := by
    cases hstack : b.stack with
    | nil => rfl
    | cons o rest =>
      have ho : set o.name = false := by simpa [current, hstack] using hset
      rw [dropIn, if_neg (by simp [ho])]
  rw [closeImplied, hdrop]

theorem Steady.enters_ruby (h : Steady path b) (hlabel : ["rb", "rp", "rt", "rtc"].contains tag.name = true)
    (hfits : isOpenIn ElementSet.scope "ruby" path = false ∨
      path.head?.any (ElementSet.impliedEnd ∘ .html) = false) : Enters b tag (b.onBodyStart tag) := by
  have hname : tag.name = "rb" ∨ tag.name = "rp" ∨ tag.name = "rt" ∨ tag.name = "rtc" := by simpa using hlabel
  have hordinary : isOrdinary tag.name = true := by
    rcases hname with hname | hname | hname | hname <;> rw [hname] <;> decide
  -- nothing is closed, as there is no `ruby` around or what is open stays so
  have hclose : ∀ set : ElementSet, (∀ name, ElementSet.impliedEnd name = false → set name = false) →
      (if b.hasIn ElementSet.scope "ruby" then b.closeImplied set else b) = b := by
    intro set hset
    rcases hfits with hruby | hhead
    · rw [h.hasIn, hruby]
      rfl
    · have hcurrent : ElementSet.impliedEnd b.current.name = false := by
        rw [h.current_name]
        cases path with
        | nil => decide
        | cons label rest => exact hhead
      rw [closeImplied_of_current (hset _ hcurrent), ite_self]
  have hall := hclose ElementSet.impliedEnd fun _ hname => hname
  have hmost : (if b.hasIn ElementSet.scope "ruby" then b.closeImpliedExcept "rtc" else b) = b :=
    hclose _ fun name himplied => by rw [himplied, Bool.false_and]
  have hrule : b.onBodyStart tag = (b.openTag tag).done := by
    rcases hname with hname | hname | hname | hname <;>
      simp +decide only [onBodyStart, hname, hall, hmost, if_true, if_false]
  rw [hrule]
  exact h.enters_openTag hordinary

/-- Without templates a selection is one in a table exactly if a table is open. -/
theorem selectMode_openedAs (hnone : "template" ∉ path) :
    selectMode (openedAs path) = if path.contains "table" then .inSelectInTable else .inSelect := by
  induction path with
  | nil => rfl
  | cons label rest ih =>
    obtain ⟨hlabel, hrest⟩ := List.ne_and_not_mem_of_not_mem_cons hnone
    have hnot : (⟨0, .html label⟩ : Opened).name.isHtml "template" = false := by
      simpa [Name.isHtml, Name.html] using hlabel.symm
    rw [openedAs, List.map_cons, selectMode, if_neg (by simp [hnot])]
    by_cases htable : label = "table"
    · simp [htable, Name.isHtml, Name.html]
    · rw [if_neg (by simpa [Name.isHtml, Name.html] using htable)]
      simpa [openedAs, Ne.symm htable] using ih hrest

theorem Steady.enters_select (h : Steady path b) (hlabel : tag.name = "select") (hmode : modeIn path ∈ flowModes)
    (hfits : path.contains "table" = (modeIn path != .inBody)) : Enters b tag (b.onBodyStart tag) := by
  have hselect : modeIn ("select" :: path) = selectMode (openedAs path) := rfl
  have hmodes : (if [Mode.inTable, .inCaption, .inTableBody, .inRow, .inCell].contains b.mode then
      Mode.inSelectInTable else .inSelect) = modeIn ("select" :: path) := by
    rw [hselect, selectMode_openedAs h.noTemplate, hfits, h.mode]
    simp only [flowModes, List.mem_cons, List.not_mem_nil, or_false] at hmode
    rcases hmode with hmode | hmode | hmode <;> rw [hmode] <;> rfl
  have hrule : b.onBodyStart tag = { (b.reopen.openTag tag).noFrameset with
      mode := if [Mode.inTable, .inCaption, .inTableBody, .inRow, .inCell].contains b.mode then
        Mode.inSelectInTable else .inSelect }.done := by
    simp +decide only [onBodyStart, hlabel, if_true, if_false]
  have hentries := entriesFor_eq_nil (by rw [hlabel]; rfl) b.arena.size
  rw [hrule, h.reopen, h.openTag, hmodes]
  simp only [noFrameset]
  exact h.enters_of_eq (by rw [hentries]; rfl) (by rw [hlabel]; rfl) (by rw [hlabel])

/-- Labels that are compared one by one in the body. -/
def singleLabels : List String :=
  ["html", "body", "frameset", "pre", "listing", "form", "li", "dd", "dt", "plaintext", "button", "a", "nobr",
   "applet", "marquee", "object", "table", "input", "area", "br", "embed", "img", "keygen", "wbr", "param", "source",
   "track", "hr", "image", "textarea", "xmp", "iframe", "noembed", "noscript", "select", "optgroup", "option", "rb",
   "rtc", "rp", "rt", "math", "svg"]

/-- Labels that have a rule of their own in the body. -/
def ruledLabels : List String :=
  headLabels ++ blockLabels ++ headingLabels ++ formatLabels ++ strayLabels ++ singleLabels

theorem Steady.enters_other (h : Steady path b) (hlabel : ruledLabels.contains tag.name = false) :
    Enters b tag (b.onBodyStart tag) := by
  have hnot : ∀ labels : List String, tag.name ∉ labels → labels.contains tag.name = false := by
    intro labels hmem
    simpa using hmem
  have hruled : tag.name ∉ ruledLabels := by simpa using hlabel
  simp only [ruledLabels, List.mem_append, not_or] at hruled
  obtain ⟨⟨⟨⟨⟨hhead, hblock⟩, hheading⟩, hformat⟩, hstray⟩, hsingle⟩ := hruled
  have hlists : ∀ labels ⊆ singleLabels, labels.contains tag.name = false := by
    intro labels hsubset
    exact hnot labels fun hmem => hsingle (hsubset hmem)
  have hne : ∀ l ∈ singleLabels, (tag.name == l) = false := by
    intro l hl
    rw [beq_eq_false_iff_ne]
    exact fun heq => hsingle (heq ▸ hl)
  have hrule : b.onBodyStart tag = (b.reopen.openTag tag).done := by
    simp (disch := decide) only [onBodyStart, hnot _ hhead, hnot _ hblock, hnot _ hheading, hnot _ hformat,
      hnot _ hstray, hne, hlists, Bool.or_false, Bool.false_eq_true, if_false]
  have hordinary : isOrdinary tag.name = true := by
    have hmodes : ∀ l ∈ modeLabels, l = "template" ∨ l = "head" ∨ l ∈ strayLabels ∨ l ∈ singleLabels := by decide
    have hbounds : ∀ l ∈ ["applet", "marquee", "object", "caption", "td", "th"], l ∈ strayLabels ∨ l ∈ singleLabels := by
      decide
    have hbound : isBound tag.name = false :=
      hnot _ fun hmem => (hbounds _ hmem).elim hstray hsingle
    have hmode : modeLabels.contains tag.name = false := by
      refine hnot _ fun hmem => ?_
      rcases hmodes _ hmem with heq | heq | hin | hin
      · exact hhead (heq ▸ by decide)
      · exact hstray (heq ▸ by decide)
      · exact hstray hin
      · exact hsingle hin
    have ha := hne "a" (by decide)
    have hnobr := hne "nobr" (by decide)
    have hform := hne "form" (by decide)
    simp only [isOrdinary, isFormat, hnot _ hformat, hbound, hmode, ha, hnobr, bne, hform, Bool.or_false,
      Bool.not_false, Bool.and_true]
  rw [hrule, h.reopen]
  exact h.enters_openTag hordinary

/-- Elements with a rule of their own may not stand among text, or it is one of these that they follow. -/
theorem kind_of_mem_ruledLabels {label : String} (h : label ∈ ruledLabels) :
    (barredLabels.contains label ∨ isVoid label ∨ (rawKind? label).isSome) ∨ blockLabels.contains label ∨
      headingLabels.contains label ∨ formatLabels.contains label ∨ ["pre", "listing", "table"].contains label ∨
      (label == "form") ∨ (label == "li") ∨ ["dd", "dt"].contains label ∨ (label == "button") ∨ (label == "a") ∨
      (label == "nobr") ∨ (label == "select") ∨ ["optgroup", "option"].contains label ∨
      ["rb", "rp", "rt", "rtc"].contains label ∨ ["applet", "marquee", "object"].contains label := by
  have hheads : ∀ l ∈ headLabels ++ strayLabels, barredLabels.contains l ∨ isVoid l ∨ (rawKind? l).isSome := by decide
  have hsingles : ∀ l ∈ singleLabels, (barredLabels.contains l ∨ isVoid l ∨ (rawKind? l).isSome) ∨
      ["pre", "listing", "table"].contains l ∨ (l == "form") ∨ (l == "li") ∨ ["dd", "dt"].contains l ∨
      (l == "button") ∨ (l == "a") ∨ (l == "nobr") ∨ (l == "select") ∨ ["optgroup", "option"].contains l ∨
      ["rb", "rp", "rt", "rtc"].contains l ∨ ["applet", "marquee", "object"].contains l := by
    decide
  simp only [ruledLabels, List.mem_append] at h
  rcases h with ((((hin | hin) | hin) | hin) | hin) | hin
  · exact .inl (hheads label (List.mem_append_left _ hin))
  · exact .inr (.inl (by simpa using hin))
  · exact .inr (.inr (.inl (by simpa using hin)))
  · exact .inr (.inr (.inr (.inl (by simpa using hin))))
  · exact .inl (hheads label (List.mem_append_right _ hin))
  · exact (hsingles label hin).imp_right fun hkind => .inr (.inr (.inr hkind))

/-- Among text, the rule of an element that fits there goes into it. -/
theorem Steady.enters_inFlow (h : Steady path b) (hmode : modeIn path ∈ flowModes)
    (hfits : fitsInFlow path tag.name = true) (hvoid : isVoid tag.name = false) (hraw : rawKind? tag.name = none) :
    Enters b tag (b.onBodyStart tag) := by
  unfold fitsInFlow at hfits
  by_cases hblock : blockLabels.contains tag.name = true
  · rw [if_pos hblock, Bool.not_eq_true'] at hfits
    exact h.enters_block hblock hfits
  rw [if_neg hblock] at hfits
  by_cases hheading : headingLabels.contains tag.name = true
  · rw [if_pos hheading, Bool.and_eq_true, Bool.not_eq_true', Bool.not_eq_true'] at hfits
    exact h.enters_heading hheading hfits.1 hfits.2
  rw [if_neg hheading] at hfits
  by_cases hpre : ["pre", "listing", "table"].contains tag.name = true
  · rw [if_pos hpre, Bool.not_eq_true'] at hfits
    have hname : tag.name = "pre" ∨ tag.name = "listing" ∨ tag.name = "table" := by simpa using hpre
    rcases hname with hname | hname | hname
    · exact h.enters_pre (.inl hname) hfits
    · exact h.enters_pre (.inr hname) hfits
    · exact h.enters_table hname hfits
  rw [if_neg hpre] at hfits
  by_cases hform : (tag.name == "form") = true
  · rw [if_pos hform, Bool.and_eq_true, Bool.not_eq_true', Bool.not_eq_true'] at hfits
    exact h.enters_form (beq_iff_eq.mp hform) hfits.1 hfits.2
  rw [if_neg hform] at hfits
  by_cases hli : (tag.name == "li") = true
  · rw [if_pos hli, Bool.and_eq_true, Bool.not_eq_true', beq_iff_eq] at hfits
    exact h.enters_item (.inl ⟨beq_iff_eq.mp hli, rfl⟩) hfits.1 hfits.2
  rw [if_neg hli] at hfits
  by_cases hterm : ["dd", "dt"].contains tag.name = true
  · rw [if_pos hterm, Bool.and_eq_true, Bool.not_eq_true', beq_iff_eq] at hfits
    exact h.enters_item (.inr ⟨by simpa using hterm, rfl⟩) hfits.1 hfits.2
  rw [if_neg hterm] at hfits
  by_cases hbutton : (tag.name == "button") = true
  · rw [if_pos hbutton, Bool.not_eq_true'] at hfits
    exact h.enters_button (beq_iff_eq.mp hbutton) hfits
  rw [if_neg hbutton] at hfits
  by_cases ha : (tag.name == "a") = true
  · rw [if_pos ha, Bool.not_eq_true'] at hfits
    exact h.enters_link (beq_iff_eq.mp ha) hfits
  rw [if_neg ha] at hfits
  by_cases hnobr : (tag.name == "nobr") = true
  · rw [if_pos hnobr, Bool.and_eq_true, Bool.not_eq_true', decide_eq_true_eq] at hfits
    exact h.enters_nobr (beq_iff_eq.mp hnobr) hfits.1 hfits.2
  rw [if_neg hnobr] at hfits
  by_cases hformat : formatLabels.contains tag.name = true
  · rw [if_pos hformat, decide_eq_true_eq] at hfits
    exact h.enters_format hformat hfits
  rw [if_neg hformat] at hfits
  by_cases hselect : (tag.name == "select") = true
  · rw [if_pos hselect, beq_iff_eq] at hfits
    exact h.enters_select (beq_iff_eq.mp hselect) hmode hfits
  rw [if_neg hselect] at hfits
  by_cases hoption : ["optgroup", "option"].contains tag.name = true
  · rw [if_pos hoption, bne_iff_ne] at hfits
    exact h.enters_option (by simpa using hoption) hfits
  rw [if_neg hoption] at hfits
  by_cases hruby : ["rb", "rp", "rt", "rtc"].contains tag.name = true
  · rw [if_pos hruby, Bool.or_eq_true, Bool.not_eq_true', Bool.not_eq_true'] at hfits
    exact h.enters_ruby hruby hfits
  rw [if_neg hruby, Bool.not_eq_true'] at hfits
  by_cases hbound : ["applet", "marquee", "object"].contains tag.name = true
  · exact h.enters_bound hbound
  refine h.enters_other ?_
  by_contra hruled
  have hkind := kind_of_mem_ruledLabels (by simpa using hruled)
  simp only [hblock, hheading, hformat, hpre, hform, hli, hterm, hbutton, ha, hnobr, hselect, hoption, hruby, hbound,
    hfits, hvoid, hraw, Option.isSome_none, Bool.false_eq_true, or_self] at hkind

end Builder

end PageEdit.Html.Build
