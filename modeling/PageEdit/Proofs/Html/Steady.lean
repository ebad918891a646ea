import PageEdit.Proofs.Html.Plain

/-!
# Builders that only go in and out

While a plain page is read, the open elements are those around the place that reading has come to, every formatting
element that counts is open, and the mode is the one that the open elements call for. Most rules look at the names
of the open elements only, so what they do is known from the labels.

* `Builder.Steady`: a builder with certain elements open and nothing left to do but to go on.
* `Builder.enter`: a builder that has gone into one more element.
* `Builder.core`: a builder without what comes and goes from token to token.
-/

namespace PageEdit.Html.Build

namespace Builder

/-! ## What depends on names only -/

section

variable {s t : List Opened}

theorem inScope_congr (h : s.map (·.name) = t.map (·.name)) (scope : ElementSet) (p : Name → Bool) :
    inScope scope (fun o => p o.name) s = inScope scope (fun o => p o.name) t := by
  induction s generalizing t with
  | nil =>
    obtain rfl := List.map_eq_nil_iff.mp h.symm
    rfl
  | cons o rest ih =>
    cases t with
    | nil => cases h
    | cons o' rest' =>
      obtain ⟨hname, hrest⟩ := List.cons.inj h
      simp only [inScope, hname, ih hrest]

theorem openItem?_congr (h : s.map (·.name) = t.map (·.name)) (labels : List String) :
    openItem? labels s = openItem? labels t := by
  induction s generalizing t with
  | nil =>
    obtain rfl := List.map_eq_nil_iff.mp h.symm
    rfl
  | cons o rest ih =>
    cases t with
    | nil => cases h
    | cons o' rest' =>
      obtain ⟨hname, hrest⟩ := List.cons.inj h
      simp only [openItem?, hname, ih hrest]

theorem selectMode_congr (h : s.map (·.name) = t.map (·.name)) : selectMode s = selectMode t := by
  induction s generalizing t with
  | nil =>
    obtain rfl := List.map_eq_nil_iff.mp h.symm
    rfl
  | cons o rest ih =>
    cases t with
    | nil => cases h
    | cons o' rest' =>
      obtain ⟨hname, hrest⟩ := List.cons.inj h
      simp only [selectMode, hname, ih hrest]

theorem modeFor_congr {b c : Builder} (h : s.map (·.name) = t.map (·.name)) (htemplates : b.templates = c.templates)
    (hhead : b.head.isSome = c.head.isSome) : b.modeFor s = c.modeFor t := by
  induction s generalizing t with
  | nil =>
    obtain rfl := List.map_eq_nil_iff.mp h.symm
    rfl
  | cons o rest ih =>
    cases t with
    | nil => cases h
    | cons o' rest' =>
      obtain ⟨hname, hrest⟩ := List.cons.inj h
      have hempty : rest.isEmpty = rest'.isEmpty := by
        simpa using congrArg List.isEmpty hrest
      simp only [modeFor, hname, ih hrest, selectMode_congr hrest, hempty, htemplates, hhead]

theorem map_name_openedAs (path : List String) : (openedAs path).map (·.name) = path.map .html := by
  simp [openedAs, Function.comp_def]

end

/-! ## Going in -/

/-- The entries of a formatting element that has been opened, or the mark of one that bounds them. -/
def entriesFor (id : Nat) (tag : Tag) : List Entry :=
  if isFormat tag.name then [.element id tag] else if isBound tag.name then [.mark] else []

theorem not_isFormat_of_isBound {label : String} (h : isBound label = true) : isFormat label = false := by
  have hall : ∀ l ∈ ["applet", "marquee", "object", "caption", "td", "th"], isFormat l = false := by decide
  exact hall label (by simpa [isBound] using h)

theorem entriesFor_of_isFormat {tag : Tag} (h : isFormat tag.name = true) (id : Nat) :
    entriesFor id tag = [.element id tag] := if_pos h

theorem entriesFor_of_isBound {tag : Tag} (h : isBound tag.name = true) (id : Nat) : entriesFor id tag = [.mark] := by
  rw [entriesFor, not_isFormat_of_isBound h, if_neg Bool.false_ne_true, if_pos h]

theorem entriesFor_eq_nil {tag : Tag} (h : (isFormat tag.name || isBound tag.name) = false) (id : Nat) :
    entriesFor id tag = [] := by
  obtain ⟨hformat, hbound⟩ := Bool.or_eq_false_iff.mp h
  rw [entriesFor, hformat, hbound, if_neg Bool.false_ne_true, if_neg Bool.false_ne_true]

/-- What an entry says of the open elements. -/
def key : Entry → Option (Nat × String)
  | .mark => none
  | .element id tag => some (id, tag.name)

/-- The entries that an open element has. -/
def keysOf (o : Opened) : List (Option (Nat × String)) :=
  if isFormat o.name.label then [some (o.id, o.name.label)] else if isBound o.name.label then [none] else []

/-- A builder that has opened one more element, which it has a place for already. -/
def enter (b : Builder) (id : Nat) (tag : Tag) : Builder :=
  { b with
    stack := ⟨id, .html tag.name⟩ :: b.stack
    formatting := entriesFor id tag ++ b.formatting
    form := if tag.name == "form" then some id else b.form
    mode := modeIn (tag.name :: b.stack.map (·.name.label)) }

/-- A builder with certain elements open and nothing else left to do. -/
structure Steady (path : List String) (b : Builder) : Prop where
  names : b.stack.map (·.name) = path.map .html
  mode : b.mode = modeIn path
  noTemplate : "template" ∉ path
  templates : b.templates = []
  head : b.head.isSome = true
  fostering : b.fostering = false
  tableText : b.tableText = []
  form : b.form = (b.stack.find? (·.name.isHtml "form")).map (·.id)
  entries : b.formatting.map key = b.stack.flatMap keysOf

/-! ## What counts -/

/-- A builder without what the next token changes in any case, or what only framesets and raw text ask for. -/
def core (b : Builder) : Builder :=
  { b with framesetOk := true, skipLine := false, skipMark := false, home := .initial }

theorem core_eq_iff {b c : Builder} : b.core = c.core ↔
    b.arena = c.arena ∧ b.stack = c.stack ∧ b.formatting = c.formatting ∧ b.mode = c.mode ∧
      b.templates = c.templates ∧ b.head = c.head ∧ b.form = c.form ∧ b.fostering = c.fostering ∧
      b.keepsTables = c.keepsTables ∧ b.tableText = c.tableText := by
  simp only [core, Builder.mk.injEq, true_and]

namespace Steady

variable {path : List String} {b c : Builder}

theorem of_core (h : Steady path b) (hcore : b.core = c.core) : Steady path c := by
  obtain ⟨-, hstack, hformatting, hmode, htemplates, hhead, hform, hfostering, -, htext⟩ := core_eq_iff.mp hcore
  exact ⟨hstack ▸ h.names, hmode ▸ h.mode, h.noTemplate, htemplates ▸ h.templates, hhead ▸ h.head,
    hfostering ▸ h.fostering, htext ▸ h.tableText, hstack ▸ hform ▸ h.form, hstack ▸ hformatting ▸ h.entries⟩

theorem withArena (h : Steady path b) (arena : Arena) : Steady path { b with arena } :=
  ⟨h.names, h.mode, h.noTemplate, h.templates, h.head, h.fostering, h.tableText, h.form, h.entries⟩

theorem labels (h : Steady path b) : b.stack.map (·.name.label) = path := by
  have hlabels := congrArg (List.map Name.label) h.names
  simpa [Function.comp_def, Name.html] using hlabels

theorem entered (h : Steady path b) (id : Nat) {tag : Tag} (htemplate : tag.name ≠ "template") :
    Steady (tag.name :: path) (b.enter id tag) where
  names := by simp [Builder.enter, h.names]
  mode := by simp [Builder.enter, h.labels]
  noTemplate := by simp [htemplate.symm, h.noTemplate]
  templates := h.templates
  head := h.head
  fostering := h.fostering
  tableText := h.tableText
  form := by
    by_cases hform : tag.name = "form"
    · simp [Builder.enter, hform, Name.isHtml, Name.html]
    · simpa [Builder.enter, hform, Name.isHtml, Name.html] using h.form
  entries := by
    simp only [Builder.enter, List.map_append, h.entries, List.flatMap_cons]
    congr 1
    by_cases hformat : isFormat tag.name = true
    · simp [entriesFor, keysOf, key, Name.html, hformat]
    · by_cases hbound : isBound tag.name = true
      · simp [entriesFor, keysOf, key, Name.html, hformat, hbound]
      · simp [entriesFor, keysOf, Name.html, hformat, hbound]

theorem sameNames (h : Steady path b) : b.stack.map (·.name) = (openedAs path).map (·.name) := by
  rw [h.names, map_name_openedAs]

theorem hasIn (h : Steady path b) (scope : ElementSet) (label : String) :
    b.hasIn scope label = isOpenIn scope label path :=
  inScope_congr h.sameNames scope (·.isHtml label)

theorem hasOpen (h : Steady path b) (label : String) : b.hasOpen label = path.contains label := by
  have hall : b.hasOpen label = (b.stack.map (·.name)).any (·.isHtml label) := by
    simp [Builder.hasOpen, List.any_map, Function.comp_def]
  rw [hall, h.names, Bool.eq_iff_iff]
  simp [Name.isHtml, Name.html]

theorem resetMode (h : Steady path b) : b.resetMode = modeIn path :=
  modeFor_congr h.sameNames h.templates h.head

end Steady

end Builder

end PageEdit.Html.Build
