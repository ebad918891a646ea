import PageEdit.Proofs.Html.Spelling

/-!
# Comments, document types and raw text

What is written as it is comes back only if the scanner does not find the end of it too early, so whether it does is
asked of the scanner itself: it is run over the text with a state of its own, where nothing else counts.

* `Scanner.emits_comment`, `Scanner.emits_doctype`: what comes back as one token.
* `Scanner.scan_escapable`, `Scanner.emits_rawEnd`: text in which only an end tag is markup, and that end tag.
-/

namespace PageEdit.Html

open Text (isAsciiBlank)

namespace Scanner

section

variable {last : String}

/-! ## States that nothing else counts for -/

/-- Whether what a character does in a state depends on the state only. -/
def standsAlone : State → Bool
  | .declaration _ | .rawEndName .. => false
  | _ => true

theorem step_of_standsAlone {state : State} (h : standsAlone state = true) (foreign : Bool) (c : Char) :
    step foreign last state c = step false "" state c := by
  cases state with
  | declaration | rawEndName => cases h
  | _ => rfl

/-- Where the scanner comes to if it finds no token on the way and the states alone count. -/
def quietly? (state : State) : List Char → Option State
  | [] => some state
  | c :: cs =>
    if standsAlone state && (step false "" state c).2.isEmpty then quietly? (step false "" state c).1 cs else none

theorem passes_of_quietly {cs : List Char} {state next : State} (h : quietly? state cs = some next) :
    Passes ⟨state, last⟩ cs ⟨next, last⟩ := by
  induction cs generalizing state with
  | nil => exact Option.some.inj h ▸ .nil
  | cons c cs ih =>
    rw [quietly?] at h
    split at h
    · next hquiet =>
      obtain ⟨halone, hnone⟩ := Bool.and_eq_true_iff.mp hquiet
      have hstep : ∀ foreign, step foreign last state c = ((step false "" state c).1, []) := fun foreign => by
        rw [step_of_standsAlone halone, ← List.isEmpty_iff.mp hnone]
      exact (Passes.step hstep).trans (ih h)
    · cases h

/-- The token that ends with `>` after a text, if the scanner comes quietly to its end. -/
def closes? (state : State) (cs : List Char) : Option Token :=
  match quietly? state cs with
  | none => none
  | some next =>
    if standsAlone next then
      match step false "" next '>' with
      | (.text, [token]) => some token
      | _ => none
    else none

theorem emits_of_closes {state : State} {cs : List Char} {token : Token} (h : closes? state cs = some token)
    (htag : ∀ tag, token ≠ .startTag tag) : Emits ⟨state, last⟩ (cs ++ ['>']) token ⟨.text, last⟩ := by
  rw [closes?] at h
  split at h
  · cases h
  · next next hquiet =>
    split at h
    · next halone =>
      split at h
      · next found hstep =>
        obtain rfl := Option.some.inj h
        refine Emits.after (passes_of_quietly hquiet) (.one fun foreign => ?_)
        have hlast : lastName last [found] = last := by
          cases found with
          | startTag tag => exact absurd rfl (htag tag)
          | _ => rfl
        simp [feed, step_of_standsAlone halone, hstep, hlast]
      · cases h
    · cases h

/-! ## Comments and document types -/

/-- Whether a comment with this text is read back. -/
def keepsComment (text : String) : Bool :=
  closes? .commentStart (text.toList ++ ['-', '-']) == some (.comment text)

/-- Whether a document type with this name is read back as one with that name. -/
def keepsDoctype (name : String) : Bool :=
  match closes? .beforeDoctype name.toList with
  | some (.doctype doctype) => doctype.name.getD "" == name
  | _ => false

theorem passes_less (c : Char) (next : State) (h : inTagOpen c = (next, [])) :
    Passes ⟨.text, last⟩ ['<', c] ⟨next, last⟩ := by
  have hless : Passes ⟨.text, last⟩ ['<'] ⟨.tagOpen, last⟩ := .step fun _ => by simp [step, inText]
  exact hless.trans (.step fun _ => by rw [step, h])

theorem passes_declaration {seen : List Char} {c : Char} {next : State}
    (h : ∀ foreign, inDeclaration foreign seen c = (next, [])) :
    Passes ⟨.declaration seen, last⟩ [c] ⟨next, last⟩ := .step h

theorem emits_comment {text : String} (h : keepsComment text = true) :
    Emits ⟨.text, last⟩ ("<!--" ++ text ++ "-->").toList (.comment text) ⟨.text, last⟩ := by
  have hbang : Passes ⟨.text, last⟩ ['<', '!'] ⟨.declaration [], last⟩ := passes_less '!' _ rfl
  have hdash : Passes ⟨.declaration [], last⟩ ['-'] ⟨.declaration ['-'], last⟩ := passes_declaration (by decide)
  have hstart : Passes ⟨.declaration ['-'], last⟩ ['-'] ⟨.commentStart, last⟩ := passes_declaration (by decide)
  have hrest : Emits ⟨.commentStart, last⟩ (text.toList ++ ['-', '-'] ++ ['>']) (.comment text) ⟨.text, last⟩ :=
    emits_of_closes (by simpa [keepsComment] using h) nofun
  have hall := Emits.after (hbang.trans (hdash.trans hstart)) hrest
  simpa using hall

theorem passes_doctype : Passes ⟨.text, last⟩ "<!DOCTYPE ".toList ⟨.beforeDoctype, last⟩ := by
  have hbang : Passes ⟨.text, last⟩ ['<', '!'] ⟨.declaration [], last⟩ := passes_less '!' _ rfl
  have hword : Passes ⟨.declaration [], last⟩ "DOCTYPE".toList ⟨.beforeDoctype, last⟩ := by
    have hd : Passes ⟨.declaration [], last⟩ ['D'] ⟨.declaration "D".toList, last⟩ := passes_declaration (by decide)
    have ho : Passes ⟨.declaration "D".toList, last⟩ ['O'] ⟨.declaration "DO".toList, last⟩ :=
      passes_declaration (by decide)
    have hc : Passes ⟨.declaration "DO".toList, last⟩ ['C'] ⟨.declaration "DOC".toList, last⟩ :=
      passes_declaration (by decide)
    have ht : Passes ⟨.declaration "DOC".toList, last⟩ ['T'] ⟨.declaration "DOCT".toList, last⟩ :=
      passes_declaration (by decide)
    have hy : Passes ⟨.declaration "DOCT".toList, last⟩ ['Y'] ⟨.declaration "DOCTY".toList, last⟩ :=
      passes_declaration (by decide)
    have hp : Passes ⟨.declaration "DOCTY".toList, last⟩ ['P'] ⟨.declaration "DOCTYP".toList, last⟩ :=
      passes_declaration (by decide)
    have he : Passes ⟨.declaration "DOCTYP".toList, last⟩ ['E'] ⟨.beforeDoctype, last⟩ :=
      passes_declaration (by decide)
    exact hd.trans (ho.trans (hc.trans (ht.trans (hy.trans (hp.trans he)))))
  have hblank : Passes ⟨.beforeDoctype, last⟩ [' '] ⟨.beforeDoctype, last⟩ :=
    .step fun _ => by simp [step, inBeforeDoctype, isAsciiBlank]
  exact hbang.trans (hword.trans hblank)

theorem emits_doctype {name : String} (h : keepsDoctype name = true) :
    ∃ doctype, doctype.name.getD "" = name ∧
      Emits ⟨.text, last⟩ ("<!DOCTYPE " ++ name ++ ">").toList (.doctype doctype) ⟨.text, last⟩ := by
  rw [keepsDoctype] at h
  split at h
  · next doctype hcloses =>
    refine ⟨doctype, by simpa using h, ?_⟩
    have hrest : Emits ⟨.beforeDoctype, last⟩ (name.toList ++ ['>']) (.doctype doctype) ⟨.text, last⟩ :=
      emits_of_closes hcloses nofun
    have hall := Emits.after passes_doctype hrest
    simpa using hall
  · cases h

/-! ## Raw text -/

theorem scan_escapable (text : List Char) (h : '\x00' ∉ text) :
    scan ⟨.raw .escapable, last⟩ (escapeChars textEscapes text) = (⟨.raw .escapable, last⟩, text.map .char) := by
  induction text with
  | nil => rfl
  | cons c cs ih =>
    obtain ⟨hc, hcs⟩ := List.ne_and_not_mem_of_not_mem_cons h
    have hfirst : Emits ⟨.raw .escapable, last⟩ (escapeChars textEscapes [c]) (.char c)
        ⟨.raw .escapable, last⟩ := by
      rcases escapeChars_text c with ⟨heq, hamp, hless⟩ | ⟨name, hmem, heq⟩
      · rw [heq]
        refine .one fun _ => ?_
        simp [feed, step, inRaw, lastName, visible, hc.symm, hamp, hless]
      · rw [heq]
        have hopen : Passes ⟨.raw .escapable, last⟩ ['&'] ⟨.reference .escapable (.named []), last⟩ :=
          .step fun _ => by simp [step, inRaw]
        refine Emits.after (hopen.trans (passes_reference hmem .escapable)) (.one fun _ => ?_)
        simp [feed, step, reference_ends hmem, flush, lastName]
    rw [show escapeChars textEscapes (c :: cs) = escapeChars textEscapes [c] ++ escapeChars textEscapes cs from
      escapeChars_append textEscapes [c] cs, scan_append, hfirst.scan_eq, ih hcs]
    rfl

/-- Whether text that is written as it is in an element with this label is read back, so that the end tag of the
element follows it. -/
def keepsRaw (kind : RawKind) (label text : String) : Bool :=
  match scan ⟨.raw kind, label⟩ text.toList with
  | (⟨.raw final, last⟩, tokens) => final != .nestedScript && last == label && tokens == text.toList.map .char
  | _ => false

theorem scan_of_keepsRaw {kind : RawKind} {label text : String} (h : keepsRaw kind label text = true) :
    ∃ final, final ≠ .nestedScript ∧
      scan ⟨.raw kind, label⟩ text.toList = (⟨.raw final, label⟩, text.toList.map .char) := by
  rw [keepsRaw] at h
  split at h
  · next final last tokens hscan =>
    simp only [Bool.and_eq_true, bne_iff_ne, beq_iff_eq] at h
    exact ⟨final, h.1.1, by rw [hscan, h.1.2, h.2]⟩
  · cases h

/-- Whether a label is one that can end raw text. -/
def endsRaw (label : String) : Bool :=
  label != "" && label.toList.all Char.isAlpha && Text.lowerAscii label == label

theorem passes_rawEndName {kind : RawKind} (seen : String) {cs : List Char} (h : ∀ c ∈ cs, c.isAlpha = true) :
    Passes ⟨.rawEndName kind seen, last⟩ cs ⟨.rawEndName kind (seen ++ String.ofList cs), last⟩ := by
  induction cs generalizing seen with
  | nil => simpa using Passes.nil
  | cons c cs ih =>
    have hc := h c (.head _)
    have hne : ∀ d : Char, d.isAlpha = false → c ≠ d := fun d hd heq => by rw [heq, hd] at hc; cases hc
    have hblank : isAsciiBlank c = false := by
      simp only [isAsciiBlank, Bool.or_eq_false_iff, beq_eq_false_iff_ne]
      exact ⟨⟨⟨⟨hne _ rfl, hne _ rfl⟩, hne _ rfl⟩, hne _ rfl⟩, hne _ rfl⟩
    have hstep : ∀ foreign, step foreign last (.rawEndName kind seen) c = (.rawEndName kind (seen.push c), []) :=
      fun _ => by simp [step, inRawEndName, hblank, hne '/' rfl, hne '>' rfl, hc]
    have hlater := ih (seen.push c) fun d hd => h d (.tail _ hd)
    rw [push_append] at hlater
    exact (Passes.step hstep).trans hlater

/-- The end tag of an element with raw text is found where no script has been left open. -/
theorem emits_rawEnd {kind : RawKind} {label : String} (hkind : kind ≠ .nestedScript) (h : endsRaw label = true) :
    Emits ⟨.raw kind, label⟩ (writeEnd label).toList (.endTag label) ⟨.text, label⟩ := by
  simp only [endsRaw, Bool.and_eq_true, bne_iff_ne, List.all_eq_true, beq_iff_eq] at h
  obtain ⟨⟨hne, hall⟩, hlower⟩ := h
  cases hchars : label.toList with
  | nil => exact absurd (String.toList_eq_nil_iff.mp hchars) hne
  | cons c cs =>
    rw [hchars] at hall
    have hless : Passes ⟨.raw kind, label⟩ ['<'] ⟨.rawLess kind, label⟩ := .step fun _ => by
      cases kind with
      | nestedScript => exact absurd rfl hkind
      | _ => simp [step, inRaw]
    have hslash : Passes ⟨.rawLess kind, label⟩ ['/'] ⟨.rawEndOpen kind, label⟩ := .step fun _ => by
      cases kind with
      | nestedScript => exact absurd rfl hkind
      | _ => simp [step, inRawLess]
    have hfirst : Passes ⟨.rawEndOpen kind, label⟩ [c] ⟨.rawEndName kind (String.singleton c), label⟩ :=
      .step fun _ => by simp [step, inRawEndOpen, hall c (.head _)]
    have hrest : Passes ⟨.rawEndName kind (String.singleton c), label⟩ cs
        ⟨.rawEndName kind (String.singleton c ++ String.ofList cs), label⟩ :=
      passes_rawEndName _ fun d hd => hall d (.tail _ hd)
    have hwhole : String.singleton c ++ String.ofList cs = label := by simp [← String.toList_inj, hchars]
    rw [hwhole] at hrest
    have hclose : Emits ⟨.rawEndName kind label, label⟩ ['>'] (.endTag label) ⟨.text, label⟩ := .one fun _ => by
      simp [feed, step, inRawEndName, hlower, isAsciiBlank, finish, lastName]
    have hwritten : (writeEnd label).toList = ['<'] ++ (['/'] ++ ([c] ++ cs)) ++ ['>'] := by
      simp [writeEnd, hchars]
    rw [hwritten]
    exact Emits.after (hless.trans (hslash.trans (hfirst.trans hrest))) hclose

end

end Scanner

end PageEdit.Html
