import Mathlib.Data.List.Induction
import PageEdit.Html.Revision
import PageEdit.Html.Scanner
import PageEdit.Patch.Payload
import PageEdit.Proofs.Html.Tokens

/-!
# What is written is scanned as it was meant

Tags and text are written so that a scanner finds in them the tokens that they stand for. A scanner goes through
most characters without a token; each token comes with the last character of the part that spells it. Nothing of
this depends on where text goes, so it holds in a page as in a text on its own.

* `Scanner.Passes`, `Scanner.Emits`: going through characters without a token, and with one at their end.
* `Scanner.emits_writeStart`, `Scanner.emits_writeEnd`, `Scanner.emits_escaped`: tags and characters of text.
* `written_tags_are_scanned_back`: a start tag, text and an end tag.
-/

namespace PageEdit.Html

open Text (isAsciiBlank)

namespace Scanner

/-- A scanner goes through characters without a token. -/
inductive Passes : Scanner → List Char → Scanner → Prop
  | nil {s : Scanner} : Passes s [] s
  | cons {s t u : Scanner} {c : Char} {cs : List Char} (h : ∀ foreign, s.feed foreign c = (t, []))
      (rest : Passes t cs u) : Passes s (c :: cs) u

/-- A scanner finds one token in characters, with the last of them. -/
def Emits (s : Scanner) (cs : List Char) (token : Token) (t : Scanner) : Prop :=
  ∃ front c m, cs = front ++ [c] ∧ Passes s front m ∧ ∀ foreign, m.feed foreign c = (t, [token])

section

variable {s t u : Scanner} {c : Char} {cs ds : List Char} {token : Token} {last name value : String}

namespace Passes

theorem one (h : ∀ foreign, s.feed foreign c = (t, [])) : Passes s [c] t := .cons h .nil

theorem trans (h : Passes s cs t) (h' : Passes t ds u) : Passes s (cs ++ ds) u := by
  induction h with
  | nil => exact h'
  | cons hc _ ih => exact .cons hc (ih h')

theorem scan_eq (h : Passes s cs t) : s.scan cs = (t, []) := by
  induction h with
  | nil => rfl
  | cons hc _ ih => simp [scan, hc, ih]

end Passes

theorem Emits.one (h : ∀ foreign, s.feed foreign c = (t, [token])) : Emits s [c] token t :=
  ⟨[], c, s, rfl, .nil, h⟩

theorem Emits.after (h : Passes s cs t) (h' : Emits t ds token u) : Emits s (cs ++ ds) token u := by
  obtain ⟨front, c, m, rfl, hpass, hc⟩ := h'
  exact ⟨cs ++ front, c, m, (List.append_assoc ..).symm, h.trans hpass, hc⟩

theorem Emits.scan_eq (h : Emits s cs token t) : s.scan cs = (t, [token]) := by
  obtain ⟨front, c, m, rfl, hpass, hc⟩ := h
  simp [scan_append, hpass.scan_eq, scan, hc]

theorem Passes.step {state next : State} (h : ∀ foreign, step foreign last state c = (next, [])) :
    Passes ⟨state, last⟩ [c] ⟨next, last⟩ :=
  .one fun foreign => by simp [feed, h, lastName]

/-! ## References -/

theorem begins_of_append {front rest : List Char} (hne : front ≠ []) (h : Reference.begins (front ++ rest) = true) :
    Reference.begins front = true := by
  obtain ⟨d, ds, rfl⟩ := List.exists_cons_of_ne_nil hne
  simp only [List.cons_append, Reference.begins, List.any_eq_true, List.isPrefixOf_iff_prefix] at h ⊢
  obtain ⟨row, hrow, hprefix⟩ := h
  exact ⟨row, hrow, (List.prefix_append (d :: ds) rest).trans hprefix⟩

/-- A scanner goes through the letters of a known name. -/
theorem passes_name {site : Site} (front rest : List Char) (h : Reference.begins (front ++ rest) = true)
    (hrest : ∀ c ∈ rest, c ≠ '#' ∧ c ≠ ';') :
    Passes ⟨.reference site (.named front), last⟩ rest ⟨.reference site (.named (front ++ rest)), last⟩ := by
  induction rest generalizing front with
  | nil => simpa using Passes.nil
  | cons c rest ih =>
    have hc := hrest c (.head _)
    have hnext : Reference.begins (front ++ [c]) = true := begins_of_append (by simp) (by simpa using h)
    have hstep : ∀ foreign, step foreign last (.reference site (.named front)) c =
        (.reference site (.named (front ++ [c])), []) := fun _ => by
      simp [step, inReference, hc.1, hc.2, hnext]
    have hlater := ih (front ++ [c]) (by simpa using h) fun d hd => hrest d (.tail _ hd)
    simpa using (Passes.step hstep).trans hlater

/-- The names of the references that are written, and what they stand for. -/
def references : List (List Char × Char) :=
  [("amp".toList, '&'), ("lt".toList, '<'), ("gt".toList, '>'), ("quot".toList, '"')]

/-- A reference that is written comes to its character. -/
theorem reference_ends {name : List Char} {char : Char} (h : (name, char) ∈ references) (site : Site) :
    inReference site (.named name) ';' = flush site [char] := by
  have hnamed : ∀ inAttribute, ∀ r ∈ references, Reference.named inAttribute (r.1 ++ [';']) = ([r.2], []) := by
    intro inAttribute
    cases inAttribute <;> decide +kernel
  simp [inReference, hnamed _ _ h]

theorem passes_reference {name : List Char} {char : Char} (h : (name, char) ∈ references) (site : Site) :
    Passes ⟨.reference site (.named []), last⟩ name ⟨.reference site (.named name), last⟩ := by
  have hbegins : ∀ r ∈ references, Reference.begins r.1 = true := by decide +kernel
  have hletters : ∀ r ∈ references, r.1.all (fun c => c != '#' && c != ';') = true := by decide
  exact passes_name [] name (hbegins _ h) (by simpa using hletters _ h)

/-- How a character of text is written: as it is or as a reference. -/
theorem escapeChars_text (c : Char) :
    escapeChars textEscapes [c] = [c] ∧ c ≠ '&' ∧ c ≠ '<' ∨
      ∃ name, (name, c) ∈ references ∧ escapeChars textEscapes [c] = '&' :: (name ++ [';']) := by
  by_cases hc : c = '&' ∨ c = '<' ∨ c = '>'
  · rcases hc with rfl | rfl | rfl
    · exact .inr ⟨"amp".toList, by decide, by decide⟩
    · exact .inr ⟨"lt".toList, by decide, by decide⟩
    · exact .inr ⟨"gt".toList, by decide, by decide⟩
  · simp only [not_or] at hc
    refine .inl ⟨?_, hc.1, hc.2.1⟩
    simp [escapeChars, textEscapes, hc]

/-- How a character of an attribute value is written. -/
theorem escapeChars_value (c : Char) :
    escapeChars valueEscapes [c] = [c] ∧ c ≠ '&' ∧ c ≠ '"' ∨
      ∃ name, (name, c) ∈ references ∧ escapeChars valueEscapes [c] = '&' :: (name ++ [';']) := by
  by_cases hquote : c = '"'
  · subst hquote
    exact .inr ⟨"quot".toList, by decide, by decide⟩
  · have hsame : escapeChars valueEscapes [c] = escapeChars textEscapes [c] := by
      simp [escapeChars, valueEscapes]
    rw [hsame]
    exact (escapeChars_text c).imp (fun h => ⟨h.1, h.2.1, hquote⟩) id

/-! ## Text -/

/-- A character of text that is escaped is found as itself. -/
theorem emits_escaped (hc : c ≠ '\x00') :
    Emits ⟨.text, last⟩ (escapeChars textEscapes [c]) (.char c) ⟨.text, last⟩ := by
  rcases escapeChars_text c with ⟨heq, hamp, hless⟩ | ⟨name, hmem, heq⟩
  · rw [heq]
    refine .one fun _ => ?_
    simp [feed, step, inText, lastName, hc, hamp, hless]
  · rw [heq]
    have hopen : Passes ⟨.text, last⟩ ['&'] ⟨.reference .text (.named []), last⟩ :=
      .step fun _ => by simp [step, inText]
    refine Emits.after (hopen.trans (passes_reference hmem .text)) (.one fun _ => ?_)
    simp [feed, step, reference_ends hmem, flush, lastName]

theorem scan_escaped (text : List Char) (h : '\x00' ∉ text) :
    scan ⟨.text, last⟩ (escapeChars textEscapes text) = (⟨.text, last⟩, text.map .char) := by
  induction text with
  | nil => rfl
  | cons c cs ih =>
    obtain ⟨hc, hcs⟩ := List.ne_and_not_mem_of_not_mem_cons h
    rw [show escapeChars textEscapes (c :: cs) = escapeChars textEscapes [c] ++ escapeChars textEscapes cs from
      escapeChars_append textEscapes [c] cs, scan_append, (emits_escaped hc.symm).scan_eq, ih hcs]
    rfl

/-! ## Names -/

/-- Whether a character stays as it is in the name of a tag or an attribute. -/
def keepsName (c : Char) : Bool :=
  !isAsciiBlank c && c != '/' && c != '>' && c != '\x00' && !c.isUpper

theorem keepsName_iff : keepsName c = true ↔
    isAsciiBlank c = false ∧ c ≠ '/' ∧ c ≠ '>' ∧ c ≠ '\x00' ∧ c.isUpper = false := by
  simp [keepsName, and_assoc]

theorem nameChar_eq (h : keepsName c = true) : nameChar c = c := by
  obtain ⟨-, -, -, hnul, hupper⟩ := keepsName_iff.mp h
  simp [nameChar, toLower_eq_self hupper, visible, hnul]

theorem push_append (s : String) (c : Char) (cs : List Char) :
    s.push c ++ String.ofList cs = s ++ String.ofList (c :: cs) := by
  simp [← String.toList_inj]

theorem passes_tagName (last : String) (tag : Draft) (h : ∀ c ∈ cs, keepsName c = true) :
    Passes ⟨.tagName tag, last⟩ cs ⟨.tagName { tag with name := tag.name ++ String.ofList cs }, last⟩ := by
  induction cs generalizing tag with
  | nil => simpa using Passes.nil
  | cons c cs ih =>
    have hc := h c (.head _)
    obtain ⟨hblank, hslash, hgreater, -⟩ := keepsName_iff.mp hc
    have hstep : ∀ foreign, step foreign last (.tagName tag) c =
        (.tagName { tag with name := tag.name.push c }, []) := fun _ => by
      simp [step, inTagName, nameChar_eq hc, hblank, hslash, hgreater]
    have hlater := ih { tag with name := tag.name.push c } fun d hd => h d (.tail _ hd)
    rw [push_append] at hlater
    exact (Passes.step hstep).trans hlater

theorem passes_attrName (last : String) (tag : Draft) (name : String) (h : ∀ c ∈ cs, keepsName c = true ∧ c ≠ '=') :
    Passes ⟨.attrName tag name, last⟩ cs ⟨.attrName tag (name ++ String.ofList cs), last⟩ := by
  induction cs generalizing name with
  | nil => simpa using Passes.nil
  | cons c cs ih =>
    obtain ⟨hc, heq⟩ := h c (.head _)
    obtain ⟨hblank, hslash, hgreater, -⟩ := keepsName_iff.mp hc
    have hstep : ∀ foreign, step foreign last (.attrName tag name) c =
        (.attrName tag (name.push c), []) := fun _ => by
      simp [step, inAttrName, nameChar_eq hc, hblank, hslash, hgreater, heq]
    have hlater := ih (name.push c) fun d hd => h d (.tail _ hd)
    rw [push_append] at hlater
    exact (Passes.step hstep).trans hlater

/-! ## Attributes -/

/-- The characters of an attribute value are read back one by one. -/
theorem passes_value (last : String) (tag : Draft) (name value : String) (text : List Char) (h : '\x00' ∉ text) :
    Passes ⟨.value .double tag name value, last⟩ (escapeChars valueEscapes text)
      ⟨.value .double tag name (value ++ String.ofList text), last⟩ := by
  induction text generalizing value with
  | nil => simpa [escapeChars] using Passes.nil
  | cons c cs ih =>
    obtain ⟨hc, hcs⟩ := List.ne_and_not_mem_of_not_mem_cons h
    have hfirst : Passes ⟨.value .double tag name value, last⟩ (escapeChars valueEscapes [c])
        ⟨.value .double tag name (value.push c), last⟩ := by
      rcases escapeChars_value c with ⟨heq, hamp, hquote⟩ | ⟨ref, hmem, heq⟩
      · rw [heq]
        refine .step fun _ => ?_
        simp [step, inValue, visible, hc.symm, hamp, hquote]
      · rw [heq]
        let site : Site := .value .double tag name value
        have hopen : Passes ⟨.value .double tag name value, last⟩ ['&'] ⟨.reference site (.named []), last⟩ :=
          .step fun _ => by simp [step, inValue, site]
        refine hopen.trans ((passes_reference hmem site).trans (.step fun _ => ?_))
        rw [step, reference_ends hmem]
        simp [flush, site]
    have hlater := ih (value.push c) hcs
    rw [push_append] at hlater
    rw [show escapeChars valueEscapes (c :: cs) = escapeChars valueEscapes [c] ++ escapeChars valueEscapes cs from
      escapeChars_append valueEscapes [c] cs]
    exact hfirst.trans hlater

/-- Whether an attribute is read back as it is written. -/
def keepsAttr (a : String × String) : Bool :=
  !a.2.toList.contains '\x00' && match a.1.toList with
    | [] => false
    | c :: cs => keepsName c && cs.all fun d => keepsName d && d != '='

/-- The state in a tag from which attributes and the end of the tag are read. -/
def IsBetween (tag : Draft) (state : State) : Prop := state = .tagName tag ∨ state = .beforeAttr tag

theorem passes_attr (last : String) {tag : Draft} {state : State} {a : String × String} (h : IsBetween tag state)
    (ha : keepsAttr a = true) :
    Passes ⟨state, last⟩ (writeAttr a).toList ⟨.beforeAttr (withAttr tag a.1 a.2), last⟩ := by
  obtain ⟨name, value⟩ := a
  obtain ⟨hvalue, hname⟩ := Bool.and_eq_true _ _ ▸ ha
  cases hchars : name.toList with
  | nil => simp [hchars] at hname
  | cons c cs =>
    simp only [hchars, Bool.and_eq_true, List.all_eq_true, bne_iff_ne] at hname
    obtain ⟨hblank, hslash, hgreater, -⟩ := keepsName_iff.mp hname.1
    have hopen : Passes ⟨state, last⟩ [' '] ⟨.beforeAttr tag, last⟩ :=
      .step fun _ => by rcases h with rfl | rfl <;> simp [step, inTagName, inBeforeAttr, isAsciiBlank]
    have hfirst : Passes ⟨.beforeAttr tag, last⟩ [c] ⟨.attrName tag (String.singleton c), last⟩ :=
      .step fun _ => by simp [step, inBeforeAttr, hblank, hslash, hgreater, nameChar_eq hname.1]
    have hrest := passes_attrName last tag (String.singleton c) hname.2
    have hwhole : String.singleton c ++ String.ofList cs = name := by simp [← String.toList_inj, hchars]
    rw [hwhole] at hrest
    have hequals : Passes ⟨.attrName tag name, last⟩ ['='] ⟨.beforeValue tag name, last⟩ :=
      .step fun _ => by simp [step, inAttrName, isAsciiBlank]
    have hquote : Passes ⟨.beforeValue tag name, last⟩ ['"'] ⟨.value .double tag name "", last⟩ :=
      .step fun _ => by simp [step, inBeforeValue, isAsciiBlank]
    have hvalue := passes_value last tag name "" value.toList (by simpa using hvalue)
    rw [String.ofList_toList, String.empty_append] at hvalue
    have hclose : Passes ⟨.value .double tag name value, last⟩ ['"']
        ⟨.beforeAttr (withAttr tag name value), last⟩ := .step fun _ => by simp [step, inValue]
    have hall := hopen.trans (hfirst.trans (hrest.trans (hequals.trans (hquote.trans (hvalue.trans hclose)))))
    simpa [writeAttr, escape, hchars] using hall

theorem withAttr_fresh {tag : Draft} (h : name ∉ tag.attrs.map (·.1)) :
    withAttr tag name value = { tag with attrs := tag.attrs ++ [(name, value)] } := by
  refine if_neg fun hany => h ?_
  obtain ⟨a, ha, heq⟩ := List.any_eq_true.mp hany
  exact List.mem_map.mpr ⟨a, ha, by simpa using heq⟩

/-- Attributes with distinct names are read back in their order. -/
theorem passes_attrs (last label : String) {attrs : List (String × String)} (hattrs : ∀ a ∈ attrs, keepsAttr a = true)
    (hdistinct : (attrs.map (·.1)).Nodup) :
    ∃ state, IsBetween ⟨false, label, attrs⟩ state ∧
      Passes ⟨.tagName ⟨false, label, []⟩, last⟩ (attrs.flatMap fun a => (writeAttr a).toList) ⟨state, last⟩ := by
  induction attrs using List.reverseRecOn with
  | nil => exact ⟨_, .inl rfl, by simpa using Passes.nil⟩
  | append_singleton front a ih =>
    rw [List.map_append, List.nodup_append] at hdistinct
    obtain ⟨state, hstate, hfront⟩ := ih (fun b hb => hattrs b (List.mem_append_left _ hb)) hdistinct.1
    have hfresh : a.1 ∉ front.map (·.1) := fun hmem => hdistinct.2.2 a.1 hmem a.1 (by simp) rfl
    have ha := passes_attr last hstate (hattrs a (by simp))
    rw [withAttr_fresh hfresh] at ha
    exact ⟨_, .inr rfl, by simpa using hfront.trans ha⟩

/-! ## Tags -/

/-- Whether a label is read back where it stands in a tag. -/
def keepsLabel (label : String) : Bool :=
  label.toList.head?.any Char.isAlpha && label.toList.all keepsName

theorem keepsLabel_iff {label : String} : keepsLabel label = true ↔
    ∃ c cs, label.toList = c :: cs ∧ c.isAlpha = true ∧ ∀ d ∈ c :: cs, keepsName d = true := by
  cases h : label.toList <;> simp [keepsLabel, h]

/-- The first letter of a label stays as it is. -/
theorem passes_tagOpen (closing : Bool) (halpha : c.isAlpha = true) (hc : keepsName c = true) :
    Passes ⟨if closing then .endTagOpen else .tagOpen, last⟩ [c]
      ⟨.tagName ⟨closing, String.singleton c, []⟩, last⟩ := by
  have hlower := toLower_eq_self (keepsName_iff.mp hc).2.2.2.2
  have hbang : c ≠ '!' := by rintro rfl; cases halpha
  have hslash : c ≠ '/' := by rintro rfl; cases halpha
  have hquery : c ≠ '?' := by rintro rfl; cases halpha
  have hgreater : c ≠ '>' := by rintro rfl; cases halpha
  refine .step fun _ => ?_
  cases closing with
  | false => simp [step, inTagOpen, hbang, hslash, hquery, halpha, hlower]
  | true => simp [step, inEndTagOpen, hgreater, halpha, hlower]

/-- The label of a tag is read back after its first letter. -/
theorem passes_label {label : String} (closing : Bool) (hlabel : keepsLabel label = true) :
    Passes ⟨if closing then .endTagOpen else .tagOpen, last⟩ label.toList
      ⟨.tagName ⟨closing, label, []⟩, last⟩ := by
  obtain ⟨c, cs, hchars, halpha, hkeeps⟩ := keepsLabel_iff.mp hlabel
  have hrest := passes_tagName last ⟨closing, String.singleton c, []⟩ fun d hd => hkeeps d (.tail _ hd)
  have hwhole : String.singleton c ++ String.ofList cs = label := by simp [← String.toList_inj, hchars]
  simp only [hwhole] at hrest
  rw [hchars]
  exact (passes_tagOpen closing halpha (hkeeps c (.head _))).trans hrest

theorem toList_writeStart (label : String) (attrs : List (String × String)) :
    (writeStart label attrs).toList =
      '<' :: (label.toList ++ (attrs.flatMap fun a => (writeAttr a).toList) ++ ['>']) := by
  simp [writeStart, String.toList_join, List.flatMap_map]

theorem emits_writeStart {label : String} {attrs : List (String × String)} (hlabel : keepsLabel label = true)
    (hattrs : ∀ a ∈ attrs, keepsAttr a = true) (hdistinct : (attrs.map (·.1)).Nodup) :
    Emits ⟨.text, last⟩ (writeStart label attrs).toList (.startTag ⟨label, attrs, false⟩) ⟨.text, label⟩ := by
  have hopen : Passes ⟨.text, last⟩ ['<'] ⟨.tagOpen, last⟩ := .step fun _ => by simp [step, inText]
  obtain ⟨state, hstate, hpass⟩ := passes_attrs last label hattrs hdistinct
  have hclose : Emits ⟨state, last⟩ ['>'] (.startTag ⟨label, attrs, false⟩) ⟨.text, label⟩ :=
    .one fun _ => by
      rcases hstate with rfl | rfl <;> simp [feed, step, inTagName, inBeforeAttr, isAsciiBlank, finish, lastName]
  rw [toList_writeStart]
  exact Emits.after (hopen.trans ((passes_label false hlabel).trans hpass)) hclose

theorem emits_writeEnd {label : String} (hlabel : keepsLabel label = true) :
    Emits ⟨.text, last⟩ (writeEnd label).toList (.endTag label) ⟨.text, last⟩ := by
  have hless : Passes ⟨.text, last⟩ ['<'] ⟨.tagOpen, last⟩ := .step fun _ => by simp [step, inText]
  have hopen : Passes ⟨.text, last⟩ ['<', '/'] ⟨.endTagOpen, last⟩ :=
    hless.trans (.step fun _ => by simp [step, inTagOpen])
  have hclose : Emits ⟨.tagName ⟨true, label, []⟩, last⟩ ['>'] (.endTag label) ⟨.text, last⟩ :=
    .one fun _ => by simp [feed, step, inTagName, isAsciiBlank, finish, lastName]
  have hchars : (writeEnd label).toList = ['<', '/'] ++ label.toList ++ ['>'] := by simp [writeEnd]
  rw [hchars]
  exact Emits.after (hopen.trans (passes_label true hlabel)) hclose

end

end Scanner

/-! ## Line ends -/

theorem unifyLines_eq_self {cs : List Char} (h : '\r' ∉ cs) : unifyLines cs = cs := by
  fun_induction unifyLines cs <;> simp_all

/-- Escaping brings no carriage return. -/
theorem cr_notMem_escapeChars {escapes : Escapes} (h : escapes = textEscapes ∨ escapes = valueEscapes)
    {cs : List Char} (hcs : '\r' ∉ cs) : '\r' ∉ escapeChars escapes cs := by
  induction cs with
  | nil => exact List.not_mem_nil
  | cons c cs ih =>
    obtain ⟨hc, hcs⟩ := List.ne_and_not_mem_of_not_mem_cons hcs
    have hnames : ∀ r ∈ Scanner.references, '\r' ∉ '&' :: (r.1 ++ [';']) := by decide
    have hfirst : '\r' ∉ escapeChars escapes [c] := by
      have hcases : escapeChars escapes [c] = [c] ∨
          ∃ name, (name, c) ∈ Scanner.references ∧ escapeChars escapes [c] = '&' :: (name ++ [';']) := by
        rcases h with rfl | rfl
        · exact (Scanner.escapeChars_text c).imp And.left id
        · exact (Scanner.escapeChars_value c).imp And.left id
      rcases hcases with heq | ⟨name, hmem, heq⟩
      · simpa [heq] using hc
      · exact heq ▸ hnames _ hmem
    rw [show c :: cs = [c] ++ cs from rfl, escapeChars_append]
    exact List.not_mem_append hfirst (ih hcs)

theorem cr_notMem_of_keepsName {cs : List Char} (h : ∀ c ∈ cs, Scanner.keepsName c = true) : '\r' ∉ cs :=
  fun hmem => absurd (h _ hmem) (by decide)

theorem cr_notMem_of_keepsLabel {label : String} (h : Scanner.keepsLabel label = true) : '\r' ∉ label.toList := by
  obtain ⟨c, cs, hchars, -, hkeeps⟩ := Scanner.keepsLabel_iff.mp h
  exact cr_notMem_of_keepsName (hchars ▸ hkeeps)

theorem cr_notMem_writeEnd {label : String} (h : Scanner.keepsLabel label = true) :
    '\r' ∉ (writeEnd label).toList := by
  simp [writeEnd, cr_notMem_of_keepsLabel h]

theorem cr_notMem_writeStart {label : String} {attrs : List (String × String)}
    (hlabel : Scanner.keepsLabel label = true) (hattrs : ∀ a ∈ attrs, Scanner.keepsAttr a = true)
    (hvalues : ∀ a ∈ attrs, '\r' ∉ a.2.toList) : '\r' ∉ (writeStart label attrs).toList := by
  have hattr : ∀ a ∈ attrs, '\r' ∉ (writeAttr a).toList := by
    intro a ha
    have hname : '\r' ∉ a.1.toList := by
      obtain ⟨-, hname⟩ := Bool.and_eq_true _ _ ▸ hattrs a ha
      cases hchars : a.1.toList with
      | nil => exact List.not_mem_nil
      | cons c cs =>
        simp only [hchars, Bool.and_eq_true, List.all_eq_true] at hname
        refine cr_notMem_of_keepsName fun d hd => ?_
        rcases List.mem_cons.mp hd with rfl | hd
        · exact hname.1
        · exact (hname.2 d hd).1
    simp [writeAttr, escape, hname, cr_notMem_escapeChars (.inr rfl) (hvalues a ha)]
  rw [Scanner.toList_writeStart]
  simp only [List.mem_cons, List.mem_append, List.mem_flatMap, not_or, not_exists, not_and]
  exact ⟨by decide, ⟨cr_notMem_of_keepsLabel hlabel, hattr⟩, by decide⟩

/-! ## Whole elements -/

theorem keepsName_of_isNameChar {c : Char} (h : Payload.isNameChar c = true) (hupper : c.isUpper = false) :
    Scanner.keepsName c = true ∧ c ≠ '=' := by
  have hne : ∀ d, Payload.isNameChar d = false → c ≠ d := fun d hd heq => by rw [heq, hd] at h; cases h
  have hblank : isAsciiBlank c = false := by
    simp only [isAsciiBlank, Bool.or_eq_false_iff, beq_eq_false_iff_ne]
    exact ⟨⟨⟨⟨hne _ rfl, hne _ rfl⟩, hne _ rfl⟩, hne _ rfl⟩, hne _ rfl⟩
  exact ⟨Scanner.keepsName_iff.mpr ⟨hblank, hne _ rfl, hne _ rfl, hne _ rfl, hupper⟩, hne _ rfl⟩

/-- The names that attributes can be given are read back. -/
theorem keepsAttr_of_isAttrName {a : String × String} (hname : Payload.isAttrName a.1 = true)
    (hupper : ∀ c ∈ a.1.toList, c.isUpper = false) (hvalue : '\x00' ∉ a.2.toList) :
    Scanner.keepsAttr a = true := by
  obtain ⟨hne, hall⟩ := Bool.and_eq_true _ _ ▸ hname
  have hkeeps : ∀ c ∈ a.1.toList, Scanner.keepsName c = true ∧ c ≠ '=' := fun c hc =>
    keepsName_of_isNameChar (List.all_eq_true.mp hall c hc) (hupper c hc)
  cases hchars : a.1.toList with
  | nil => simp [String.toList_eq_nil_iff.mp hchars] at hne
  | cons c cs =>
    rw [hchars] at hkeeps
    have hrest : ∀ d ∈ cs, Scanner.keepsName d = true ∧ d ≠ '=' := fun d hd => hkeeps d (.tail _ hd)
    simpa [Scanner.keepsAttr, hchars, hvalue, (hkeeps c (.head _)).1] using hrest

theorem keepsName_of_ascii {c : Char} (h : c.isLower = true ∨ c.isDigit = true) : Scanner.keepsName c = true := by
  -- such a character is one of the first 123
  have hall : ∀ n < 123, (Char.ofNat n).isLower = true ∨ (Char.ofNat n).isDigit = true →
      Scanner.keepsName (Char.ofNat n) = true := by
    decide
  have hlt : c.toNat < 123 := by
    rcases h with hlower | hdigit
    · have hparts : (decide ('a'.val ≤ c.val) && decide (c.val ≤ 'z'.val)) = true := hlower
      exact Nat.lt_succ_of_le (of_decide_eq_true (Bool.and_eq_true_iff.mp hparts).2)
    · have hparts : (decide ('0'.val ≤ c.val) && decide (c.val ≤ '9'.val)) = true := hdigit
      have hnine : c.toNat ≤ 57 := of_decide_eq_true (Bool.and_eq_true_iff.mp hparts).2
      omega
  have := hall c.toNat hlt
  rw [Char.ofNat_toNat] at this
  exact this h

theorem keepsLabel_of_ascii {label : String} (hfirst : label.toList.head?.any Char.isLower = true)
    (hall : ∀ c ∈ label.toList, c.isLower = true ∨ c.isDigit = true) : Scanner.keepsLabel label = true := by
  obtain ⟨c, hc, hlower⟩ := (Option.any_eq_true _ _).mp hfirst
  have halpha : label.toList.head?.any Char.isAlpha = true := by
    have hletter : (c.isUpper || c.isLower) = true := Bool.or_eq_true_iff.mpr (.inr hlower)
    rw [hc]
    exact hletter
  exact Bool.and_eq_true_iff.mpr ⟨halpha, List.all_eq_true.mpr fun d hd => keepsName_of_ascii (hall d hd)⟩

/-- A start tag, text and an end tag are scanned as they were written, whatever was scanned before: the tag has its
name and its attributes in order, the text its characters, and nothing else is found. An element that is not void
is written so where it is given attributes and text. -/
theorem written_tags_are_scanned_back {label : String} {attrs : List (String × String)} {text : String}
    (last : String) (hfirst : label.toList.head?.any Char.isLower = true)
    (hlabel : ∀ c ∈ label.toList, c.isLower = true ∨ c.isDigit = true)
    (hdistinct : (attrs.map (·.1)).Nodup)
    (hnames : ∀ a ∈ attrs, Payload.isAttrName a.1 = true ∧ ∀ c ∈ a.1.toList, c.isUpper = false)
    (hvalues : ∀ a ∈ attrs, '\x00' ∉ a.2.toList ∧ '\r' ∉ a.2.toList)
    (htext : '\x00' ∉ text.toList ∧ '\r' ∉ text.toList) :
    let written := writeStart label attrs ++ writeText text ++ writeEnd label
    (⟨.text, last⟩ : Scanner).scan (sourceChars written) =
        (⟨.text, label⟩, .startTag ⟨label, attrs, false⟩ :: text.toList.map .char ++ [.endTag label]) ∧
      ∀ (e : Element) (kept : String), e.label = label → isVoid label = false →
        e.write (some ⟨false, some attrs, .text text⟩) kept = written := by
  intro written
  have hlabel := keepsLabel_of_ascii hfirst hlabel
  have hattrs : ∀ a ∈ attrs, Scanner.keepsAttr a = true := fun a ha =>
    keepsAttr_of_isAttrName (hnames a ha).1 (hnames a ha).2 (hvalues a ha).1
  refine ⟨?_, fun e kept he hvoid => ?_⟩
  · have hchars : written.toList =
        (writeStart label attrs).toList ++ escapeChars textEscapes text.toList ++ (writeEnd label).toList := by
      simp [written, writeText, escape]
    have hsource : sourceChars written = written.toList := by
      refine unifyLines_eq_self ?_
      rw [hchars]
      exact List.not_mem_append (List.not_mem_append (cr_notMem_writeStart hlabel hattrs fun a ha => (hvalues a ha).2)
        (cr_notMem_escapeChars (.inl rfl) htext.2)) (cr_notMem_writeEnd hlabel)
    rw [hsource, hchars, Scanner.scan_append, Scanner.scan_append,
      (Scanner.emits_writeStart hlabel hattrs hdistinct).scan_eq, Scanner.scan_escaped _ htext.1,
      (Scanner.emits_writeEnd hlabel).scan_eq]
    rfl
  · simp [Element.write, he, hvoid, written, ContentRevision.write]

/-- Neither a value nor a text that looks like markup is read as markup. -/
theorem written_tags_are_scanned_back_with_markup :
    let attrs := [("data-x", "\"><script>&amp;"), ("title", "&quot")]
    let text := "</p><!-- &lt;"
    (∀ a ∈ attrs, Payload.isAttrName a.1 = true ∧ ∀ c ∈ a.1.toList, c.isUpper = false) ∧
      (⟨.text, "script"⟩ : Scanner).scan (sourceChars (writeStart "p" attrs ++ writeText text ++ writeEnd "p")) =
        (⟨.text, "p"⟩, .startTag ⟨"p", attrs, false⟩ :: text.toList.map .char ++ [.endTag "p"]) := by
  intro attrs text
  have hnames : ∀ a ∈ attrs, Payload.isAttrName a.1 = true ∧ ∀ c ∈ a.1.toList, c.isUpper = false := by
    have hall : attrs.all (fun a => Payload.isAttrName a.1 && a.1.toList.all (!·.isUpper)) = true := by decide
    simpa only [List.all_eq_true, Bool.and_eq_true, Bool.not_eq_true'] using hall
  have hlabel : ∀ c ∈ "p".toList, c.isLower = true ∨ c.isDigit = true := by
    have hall : "p".toList.all (fun c => c.isLower || c.isDigit) = true := by decide
    simpa only [List.all_eq_true, Bool.or_eq_true] using hall
  exact ⟨hnames, (written_tags_are_scanned_back "script" (by decide) hlabel (by decide) hnames (by decide)
    (by decide)).1⟩

end PageEdit.Html
