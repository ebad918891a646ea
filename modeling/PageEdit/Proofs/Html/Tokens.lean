import Mathlib.Tactic.SplitIfs
import PageEdit.Html.Foreign
import PageEdit.Html.Scanner

/-!
# What can be said of every start tag

A start tag begins with a letter and has no capitals, nor have the names of its attributes, and U+0000 is never in
a value: it is replaced where it stands in the text, and no character reference comes to it. So it is with the
elements and attributes that tags are turned into, but that some names of SVG and MathML have their capitals back.

* `Foreign.isFair_label`, `Foreign.isFair_attrs`: from tags to elements.
* `Scanner.isFairStep_step`: the scanner finds no other tags, whatever text it is given.
-/

namespace PageEdit.Html

/-! ## Fair names and tags -/

/-- Whether a name can be that of an element that has been read. -/
structure Name.IsFair (name : Name) : Prop where
  first : ∃ c, name.label.toList.head? = some c ∧ c.isAlpha = true
  lower : name.space = .html → ∀ c ∈ name.label.toList, c.isUpper = false

/-- Whether a text has no capitals of ASCII. -/
def IsLower (s : String) : Prop := ∀ c ∈ s.toList, c.isUpper = false

theorem isLower_of_all {s : String} (h : s.toList.all (!·.isUpper) = true) : IsLower s := by
  intro c hc
  simpa using List.all_eq_true.mp h c hc

/-- The names of attributes that have capitals. -/
def Foreign.capitalAttrs : List String := svgAttrs ++ ["definitionURL"]

/-- Whether an attribute can be one that has been read. -/
structure Attr.IsFair (a : Attr) : Prop where
  value : '\x00' ∉ a.value.toList
  ident : a.name.label = "id" → a.name.space = .plain
  spelled : IsLower a.name.label ∨ a.name.text ∈ Foreign.capitalAttrs

/-- Whether a start tag can be one that has been read. -/
structure Tag.IsFair (tag : Tag) : Prop where
  name : (Name.html tag.name).IsFair
  names : ∀ a ∈ tag.attrs, IsLower a.1
  values : ∀ a ∈ tag.attrs, '\x00' ∉ a.2.toList

@[simp] def Token.IsFair : Token → Prop
  | .startTag tag => tag.IsFair
  | _ => True

/-! ## Attributes in their order -/

theorem mem_of_mem_insertAttr {a x : Attr} {attrs : List Attr} (h : a ∈ insertAttr x attrs) :
    a = x ∨ a ∈ attrs := by
  induction attrs with
  | nil => exact .inl (List.mem_singleton.mp h)
  | cons b rest ih =>
    rw [insertAttr] at h
    split at h
    · exact .inr h
    · split at h
      · exact (List.mem_cons.mp h)
      · rcases List.mem_cons.mp h with rfl | h
        · exact .inr (.head _)
        · exact (ih h).imp_right (.tail _)

theorem mem_of_mem_mergeAttrs {a : Attr} {attrs more : List Attr} (h : a ∈ mergeAttrs attrs more) :
    a ∈ attrs ∨ a ∈ more := by
  induction more generalizing attrs with
  | nil => exact .inl h
  | cons x rest ih =>
    rcases ih h with h | h
    · rcases mem_of_mem_insertAttr h with rfl | h
      · exact .inr (.head _)
      · exact .inl h
    · exact .inr (.tail _ h)

namespace Foreign

theorem capitalized_eq (names : List String) (label : String) :
    capitalized names label ∈ names ∨ capitalized names label = label := by
  rw [capitalized]
  cases hf : names.find? fun name => name.map Char.toLower == label with
  | none => exact .inr rfl
  | some name => exact .inl (List.mem_of_find?_eq_some hf)

theorem isFair_label {space : Space} {label : String} (h : (Name.html label).IsFair) :
    Name.IsFair ⟨space, Foreign.label space label⟩ := by
  have hsvg : ∀ name ∈ svgLabels, name.toList.head?.any Char.isAlpha = true := by decide +kernel
  refine ⟨?_, fun hspace => ?_⟩
  · simp only [Foreign.label]
    split
    · rcases capitalized_eq svgLabels label with hmem | heq
      · simpa [Option.any_eq_true] using hsvg _ hmem
      · rw [heq]
        exact h.first
    · exact h.first
  · obtain rfl : space = .html := hspace
    exact h.lower rfl

/-- No attribute of a vocabulary of its own is an identifier. -/
theorem space_of_attrName_id {space : Space} {name : String} (h : (attrName space name).label = "id") :
    (attrName space name).space = .plain := by
  have hxlink : "id" ∉ xlinkLabels := by decide
  revert h
  simp only [attrName]
  split_ifs with h1 h2 h3 h4
  · rw [beq_iff_eq.mp h1]
    decide
  · decide
  · decide
  · decide
  · split
    · next label hfind =>
      rintro rfl
      exact absurd (List.mem_of_find?_eq_some hfind) hxlink
    · exact fun _ => rfl

theorem isLower_of_mem_xlinkLabels {label : String} (h : label ∈ xlinkLabels) : IsLower label := by
  have hlabels : xlinkLabels.all (·.toList.all (!·.isUpper)) = true := by decide
  exact isLower_of_all (List.all_eq_true.mp hlabels label h)

theorem spelled_capitalized {names : List String} {name : String} (h : IsLower name) (hnames : names ⊆ capitalAttrs) :
    IsLower (capitalized names name) ∨ capitalized names name ∈ capitalAttrs := by
  rcases capitalized_eq names name with hmem | heq
  · exact .inr (hnames hmem)
  · rw [heq]
    exact .inl h

/-- A name in lower case gets capitals in a vocabulary only if it is spelled with them there. -/
theorem spelled_attrName {space : Space} {name : String} (h : IsLower name) :
    IsLower (attrName space name).label ∨ (attrName space name).text ∈ capitalAttrs := by
  unfold attrName
  extract_lets spelled
  have hcase : IsLower spelled ∨ spelled ∈ capitalAttrs := by
    cases space with
    | html => exact .inl h
    | svg => exact spelled_capitalized h (List.subset_append_left ..)
    | math => exact spelled_capitalized h (List.subset_append_right ..)
  clear_value spelled
  split_ifs with h1
  · rw [beq_iff_eq.mp h1]
    exact .inl (isLower_of_all (by decide))
  · exact .inl (isLower_of_all (by decide))
  · exact .inl (isLower_of_all (by decide))
  · exact .inl (isLower_of_all (by decide))
  · split
    · next label hfind => exact .inl (isLower_of_mem_xlinkLabels (List.mem_of_find?_eq_some hfind))
    · exact hcase

theorem isFair_attrs {space : Space} {tag : Tag} (h : tag.IsFair) :
    ∀ a ∈ Foreign.attrs space tag, a.IsFair := by
  intro a ha
  rcases mem_of_mem_mergeAttrs ha with ha | ha
  · exact absurd ha List.not_mem_nil
  · obtain ⟨⟨name, value⟩, hmem, rfl⟩ := List.mem_map.mp ha
    refine ⟨h.values _ hmem, fun hid => ?_, ?_⟩
    · dsimp only at hid ⊢
      split at hid
      · next hspace => rw [if_pos hspace]; rfl
      · next hspace => rw [if_neg hspace]; exact space_of_attrName_id hid
    · dsimp only
      split
      · exact .inl (h.names _ hmem)
      · exact spelled_attrName (h.names _ hmem)

end Foreign

/-! ## Characters -/

theorem toLower_eq_self {c : Char} (h : c.isUpper = false) : c.toLower = c :=
  dif_neg (of_decide_eq_false h)

theorem isUpper_eq_false_of_le {c : Char} (h : 91 ≤ c.toNat) : c.isUpper = false :=
  decide_eq_false fun hc => Nat.not_lt.mpr h (Nat.lt_succ_of_le hc.2)

theorem isUpper_toLower (c : Char) : c.toLower.isUpper = false := by
  -- no character from 91 on is changed, and those before can be gone through
  have hletters : ∀ n < 91, (Char.ofNat n).toLower.isUpper = false := by decide
  by_cases hc : c.toNat < 91
  · simpa only [Char.ofNat_toNat] using hletters c.toNat hc
  · have hupper := isUpper_eq_false_of_le (Nat.not_lt.mp hc)
    rwa [toLower_eq_self hupper]

theorem isAlpha_toLower {c : Char} (h : c.isAlpha = true) : c.toLower.isAlpha = true := by
  have hletters : ∀ n < 91, (Char.ofNat n).isAlpha = true → (Char.ofNat n).toLower.isAlpha = true := by
    decide
  by_cases hc : c.toNat < 91
  · simpa only [Char.ofNat_toNat] using hletters c.toNat hc (by rwa [Char.ofNat_toNat])
  · rwa [toLower_eq_self (isUpper_eq_false_of_le (Nat.not_lt.mp hc))]

namespace Reference

/-! ## Character references -/

/-- Whether neither the name of a row nor what it stands for has the character U+0000. -/
def isVisibleRow (row : NamedReferences.Row) : Bool :=
  !row.1.toByteArray.data.toList.contains 0 && !(rowChars row).contains '\x00'

theorem isVisibleRow_of_mem {c : Char} {row : NamedReferences.Row} (h : row ∈ NamedReferences.rows c) :
    isVisibleRow row = true := by
  have hall : (NamedReferences.rows c).all isVisibleRow = true := by
    unfold NamedReferences.rows
    split <;> decide +kernel
  exact List.all_eq_true.mp hall row h

theorem zero_mem_bytes {s : String} (h : '\x00' ∈ s.toList) : 0 ∈ s.toByteArray.data.toList := by
  have hbytes : s.toByteArray = (s.toList.flatMap String.utf8EncodeChar).toByteArray := by
    conv => lhs; rw [← String.ofList_toList (s := s)]
    exact String.toByteArray_ofList
  rw [hbytes, List.data_toByteArray]
  exact List.mem_flatMap.mpr ⟨_, h, by decide⟩

theorem nul_notMem_of_begins {seen : List Char} (h : begins seen = true) : '\x00' ∉ seen := by
  cases seen with
  | nil => exact List.not_mem_nil
  | cons c rest =>
    obtain ⟨row, hrow, hpre⟩ := List.any_eq_true.mp h
    intro hmem
    have hvisible := isVisibleRow_of_mem hrow
    rw [isVisibleRow, Bool.and_eq_true, Bool.not_eq_true', List.contains_eq_mem,
      decide_eq_false_iff_not] at hvisible
    exact hvisible.1 (zero_mem_bytes ((List.isPrefixOf_iff_prefix.mp hpre).subset hmem))

/-- What a reference comes to has the character U+0000 only in what is left of the text. -/
theorem named_eq (inAttribute : Bool) (seen : List Char) :
    '\x00' ∉ (named inAttribute seen).1 ∧ (named inAttribute seen).2 <:+ seen := by
  have hmark : '\x00' ∉ ['&'] := by decide
  simp only [named]
  cases hrow : longest? seen with
  | none => exact ⟨hmark, List.suffix_refl _⟩
  | some row =>
    dsimp only
    split
    · exact ⟨hmark, List.suffix_refl _⟩
    · refine ⟨?_, List.drop_suffix _ _⟩
      obtain ⟨c, hmem⟩ := exists_mem_rows_of_longest? hrow
      have hvisible := isVisibleRow_of_mem hmem
      rw [isVisibleRow, Bool.and_eq_true] at hvisible
      simpa using hvisible.2

theorem numbered_ne_nul (n : Nat) : numbered n ≠ '\x00' := by
  have hcontrols : ∀ i < 32, Char.ofNat (latinControls.getD i (i + 0x80)) ≠ '\x00' := by decide
  rw [numbered]
  split_ifs with h h'
  · decide
  · simp only [Bool.and_eq_true, decide_eq_true_eq] at h'
    have := hcontrols (n - 0x80) (by omega)
    rwa [Nat.sub_add_cancel h'.1] at this
  · simp only [Bool.or_eq_true, Bool.and_eq_true, decide_eq_true_eq, beq_iff_eq, not_or] at h
    intro hnul
    have hvalid : n.isValidChar := by
      rw [Nat.isValidChar]
      omega
    rw [Char.ofNat, dif_pos hvalid] at hnul
    have hzero : n = 0 := congrArg Char.toNat hnul
    exact h.1.1 (by simpa using hzero)

end Reference

/-! ## Fair states of the scanner -/

/-- Whether a tag can be the first part of one that has been read. Nothing is said of the name of an end
tag. -/
structure Draft.IsFair (tag : Draft) : Prop where
  name : tag.closing = false → (Name.html tag.name).IsFair
  names : ∀ a ∈ tag.attrs, IsLower a.1
  values : ∀ a ∈ tag.attrs, '\x00' ∉ a.2.toList

@[simp] def Progress.IsFair : Progress → Prop
  | .named seen => '\x00' ∉ seen
  | .hashX mark => mark ≠ '\x00'
  | _ => True

@[simp] def Site.IsFair : Site → Prop
  | .value _ tag name v => tag.IsFair ∧ IsLower name ∧ '\x00' ∉ v.toList
  | _ => True

@[simp] def State.IsFair : State → Prop
  | .tagName tag | .beforeAttr tag | .selfClosing tag => tag.IsFair
  | .attrName tag name | .afterAttrName tag name | .beforeValue tag name => tag.IsFair ∧ IsLower name
  | .value _ tag name v => tag.IsFair ∧ IsLower name ∧ '\x00' ∉ v.toList
  | .reference site seen => site.IsFair ∧ seen.IsFair
  | _ => True

namespace Scanner

open Text (isAsciiBlank)

/-- Whether a step leads to a fair state by fair tokens. -/
structure IsFairStep (s : Step) : Prop where
  state : s.1.IsFair
  tokens : ∀ t ∈ s.2, t.IsFair

theorem isFair_chars (s : String) : ∀ t ∈ chars s, t.IsFair := by
  intro t ht
  obtain ⟨c, -, rfl⟩ := List.mem_map.mp ht
  trivial

theorem isFairStep_silent {state : State} (h : state.IsFair) : IsFairStep (state, []) :=
  ⟨h, by simp⟩

theorem isFairStep_single {state : State} {token : Token} (h : state.IsFair) (htoken : token.IsFair) :
    IsFairStep (state, [token]) :=
  ⟨h, List.forall_mem_singleton.mpr htoken⟩

theorem isFairStep_char {state : State} {c : Char} (h : state.IsFair) : IsFairStep (state, [.char c]) :=
  isFairStep_single h trivial

theorem isFairStep_after {tokens : List Token} {s : Step} (h : IsFairStep s)
    (htokens : ∀ t ∈ tokens, t.IsFair) : IsFairStep (after tokens s) :=
  ⟨h.state, fun t ht => (List.mem_append.mp ht).elim (htokens t) (h.tokens t)⟩

variable {c : Char} {tag : Draft} {name value : String}

theorem visible_ne_nul (c : Char) : visible c ≠ '\x00' := by
  rw [visible]
  split_ifs with h
  · decide
  · simpa using h

theorem nul_notMem_push {s : String} (h : '\x00' ∉ s.toList) (hc : c ≠ '\x00') :
    '\x00' ∉ (s.push c).toList := by
  rw [String.toList_push, List.mem_append, List.mem_singleton]
  exact not_or.mpr ⟨h, hc.symm⟩

/-! ## Text -/

theorem isFairStep_inText (c : Char) : IsFairStep (inText c) := by
  unfold inText
  split_ifs
  · exact isFairStep_silent ⟨trivial, List.not_mem_nil⟩
  · exact isFairStep_silent trivial
  · exact isFairStep_single trivial trivial
  · exact isFairStep_char trivial

theorem isFairStep_inPlaintext (c : Char) : IsFairStep (inPlaintext c) :=
  isFairStep_char trivial

theorem isFairStep_inRaw (kind : RawKind) (c : Char) : IsFairStep (inRaw kind c) := by
  cases kind with
  | escapable =>
    simp only [inRaw]
    split_ifs
    · exact isFairStep_silent ⟨trivial, List.not_mem_nil⟩
    · exact isFairStep_silent trivial
    · exact isFairStep_char trivial
  | plain | script =>
    simp only [inRaw]
    split_ifs
    · exact isFairStep_silent trivial
    · exact isFairStep_char trivial
  | hiddenScript =>
    simp only [inRaw]
    split_ifs
    · exact isFairStep_char trivial
    · exact isFairStep_silent trivial
    · exact isFairStep_char trivial
  | nestedScript =>
    simp only [inRaw]
    split_ifs <;> exact isFairStep_char trivial

theorem isFairStep_inHiddenDash (kind : RawKind) (c : Char) : IsFairStep (inHiddenDash kind c) := by
  unfold inHiddenDash
  split_ifs
  · exact isFairStep_char trivial
  · exact isFairStep_char trivial
  · exact isFairStep_silent trivial
  · exact isFairStep_char trivial

theorem isFairStep_inHiddenDashDash (kind : RawKind) (c : Char) : IsFairStep (inHiddenDashDash kind c) := by
  unfold inHiddenDashDash
  split_ifs
  · exact isFairStep_char trivial
  · exact isFairStep_char trivial
  · exact isFairStep_inHiddenDash kind c

theorem isFairStep_inNestStart (seen : String) (c : Char) : IsFairStep (inNestStart seen c) := by
  unfold inNestStart
  split_ifs
  · exact isFairStep_char trivial
  · exact isFairStep_char trivial
  · exact isFairStep_char trivial
  · exact isFairStep_inRaw .hiddenScript c

theorem isFairStep_inNestEnd (seen : String) (c : Char) : IsFairStep (inNestEnd seen c) := by
  unfold inNestEnd
  split_ifs
  · exact isFairStep_char trivial
  · exact isFairStep_char trivial
  · exact isFairStep_char trivial
  · exact isFairStep_inRaw .nestedScript c

theorem isFairStep_inRawLess (kind : RawKind) (c : Char) : IsFairStep (inRawLess kind c) := by
  have hraw := isFairStep_inRaw kind c
  have hless := isFairStep_after hraw (isFair_chars "<")
  cases kind with
  | nestedScript =>
    simp only [inRawLess]
    split_ifs
    · exact isFairStep_char trivial
    · exact hraw
  | hiddenScript =>
    simp only [inRawLess]
    split_ifs
    · exact isFairStep_silent trivial
    · exact ⟨trivial, List.forall_mem_append.mpr ⟨isFair_chars "<", List.forall_mem_singleton.mpr trivial⟩⟩
    · exact hless
  | script =>
    simp only [inRawLess]
    split_ifs
    · exact isFairStep_silent trivial
    · exact ⟨trivial, isFair_chars "<!"⟩
    · exact hless
  | escapable | plain =>
    simp only [inRawLess]
    split_ifs
    · exact isFairStep_silent trivial
    · exact hless

theorem isFairStep_inHideStart (c : Char) : IsFairStep (inHideStart c) := by
  unfold inHideStart
  split_ifs
  · exact isFairStep_char trivial
  · exact isFairStep_inRaw .script c

theorem isFairStep_inHideStartDash (c : Char) : IsFairStep (inHideStartDash c) := by
  unfold inHideStartDash
  split_ifs
  · exact isFairStep_char trivial
  · exact isFairStep_inRaw .script c

theorem isFairStep_inRawEndOpen (kind : RawKind) (c : Char) : IsFairStep (inRawEndOpen kind c) := by
  unfold inRawEndOpen
  split_ifs
  · exact isFairStep_silent trivial
  · exact isFairStep_after (isFairStep_inRaw kind c) (isFair_chars "</")

/-! ## Comments -/

theorem isFairStep_inBogusComment (text : String) (c : Char) : IsFairStep (inBogusComment text c) := by
  unfold inBogusComment
  split_ifs
  · exact isFairStep_single trivial trivial
  · exact isFairStep_silent trivial

theorem isFairStep_inComment (text : String) (c : Char) : IsFairStep (inComment text c) := by
  unfold inComment
  split_ifs <;> exact isFairStep_silent trivial

theorem isFairStep_inCommentEndDash (text : String) (c : Char) : IsFairStep (inCommentEndDash text c) := by
  unfold inCommentEndDash
  split_ifs
  · exact isFairStep_silent trivial
  · exact isFairStep_inComment _ c

theorem isFairStep_inCommentEnd (text : String) (c : Char) : IsFairStep (inCommentEnd text c) := by
  unfold inCommentEnd
  split_ifs
  · exact isFairStep_single trivial trivial
  · exact isFairStep_silent trivial
  · exact isFairStep_silent trivial
  · exact isFairStep_inComment _ c

theorem isFairStep_inCommentEndBang (text : String) (c : Char) : IsFairStep (inCommentEndBang text c) := by
  unfold inCommentEndBang
  split_ifs
  · exact isFairStep_silent trivial
  · exact isFairStep_single trivial trivial
  · exact isFairStep_inComment _ c

theorem isFairStep_inCommentStart (c : Char) : IsFairStep (inCommentStart c) := by
  unfold inCommentStart
  split_ifs
  · exact isFairStep_silent trivial
  · exact isFairStep_single trivial trivial
  · exact isFairStep_inComment "" c

theorem isFairStep_inCommentStartDash (c : Char) : IsFairStep (inCommentStartDash c) := by
  unfold inCommentStartDash
  split_ifs
  · exact isFairStep_silent trivial
  · exact isFairStep_single trivial trivial
  · exact isFairStep_inComment "-" c

theorem isFairStep_inCommentLess (text : String) (c : Char) : IsFairStep (inCommentLess text c) := by
  unfold inCommentLess
  split_ifs
  · exact isFairStep_silent trivial
  · exact isFairStep_silent trivial
  · exact isFairStep_inComment text c

theorem isFairStep_inCommentLessBang (text : String) (c : Char) : IsFairStep (inCommentLessBang text c) := by
  unfold inCommentLessBang
  split_ifs
  · exact isFairStep_silent trivial
  · exact isFairStep_inComment text c

theorem isFairStep_inCommentLessBangDash (text : String) (c : Char) :
    IsFairStep (inCommentLessBangDash text c) := by
  unfold inCommentLessBangDash
  split_ifs
  · exact isFairStep_silent trivial
  · exact isFairStep_inCommentEndDash text c

/-! ## Document types and verbatim text -/

theorem isFairStep_emitDoctype (doctype : Doctype) : IsFairStep (emitDoctype doctype) :=
  isFairStep_single trivial trivial

theorem isFairStep_inBeforeDoctype (c : Char) : IsFairStep (inBeforeDoctype c) := by
  unfold inBeforeDoctype
  split_ifs
  · exact isFairStep_silent trivial
  · exact isFairStep_emitDoctype _
  · exact isFairStep_silent trivial

theorem isFairStep_inDoctypeName (doctype : Doctype) (name : String) (c : Char) :
    IsFairStep (inDoctypeName doctype name c) := by
  simp only [inDoctypeName]
  split_ifs
  · exact isFairStep_silent trivial
  · exact isFairStep_emitDoctype _
  · exact isFairStep_silent trivial

theorem isFairStep_inBogusDoctype (doctype : Doctype) (c : Char) : IsFairStep (inBogusDoctype doctype c) := by
  unfold inBogusDoctype
  split_ifs
  · exact isFairStep_emitDoctype _
  · exact isFairStep_silent trivial

theorem isFairStep_inAfterDoctypeName (doctype : Doctype) (seen : List Char) (c : Char) :
    IsFairStep (inAfterDoctypeName doctype seen c) := by
  simp only [inAfterDoctypeName]
  split_ifs
  · exact isFairStep_silent trivial
  · exact isFairStep_silent trivial
  · exact isFairStep_silent trivial
  · exact isFairStep_inBogusDoctype _ c
  · exact isFairStep_silent trivial
  · exact isFairStep_emitDoctype _
  · exact isFairStep_silent trivial

theorem isFairStep_inAfterKeyword (kind : IdKind) (doctype : Doctype) (c : Char) :
    IsFairStep (inAfterKeyword kind doctype c) := by
  unfold inAfterKeyword
  split_ifs
  · exact isFairStep_silent trivial
  · exact isFairStep_silent trivial
  · exact isFairStep_emitDoctype _
  · exact isFairStep_silent trivial

theorem isFairStep_inDoctypeId (kind : IdKind) (mark : Char) (doctype : Doctype) (id : String) (c : Char) :
    IsFairStep (inDoctypeId kind mark doctype id c) := by
  unfold inDoctypeId
  split_ifs
  · exact isFairStep_silent trivial
  · exact isFairStep_emitDoctype _
  · exact isFairStep_silent trivial

theorem isFairStep_inAfterDoctypeId (kind : IdKind) (doctype : Doctype) (c : Char) :
    IsFairStep (inAfterDoctypeId kind doctype c) := by
  cases kind with
  | publicId =>
    simp only [inAfterDoctypeId]
    split_ifs
    · exact isFairStep_silent trivial
    · exact isFairStep_emitDoctype doctype
    · exact isFairStep_silent trivial
    · exact isFairStep_silent trivial
  | systemId =>
    simp only [inAfterDoctypeId]
    split_ifs
    · exact isFairStep_silent trivial
    · exact isFairStep_emitDoctype doctype
    · exact isFairStep_silent trivial

theorem isFairStep_inDeclaration (foreign : Bool) (seen : List Char) (c : Char) :
    IsFairStep (inDeclaration foreign seen c) := by
  simp only [inDeclaration]
  split_ifs
  · exact isFairStep_silent trivial
  · exact isFairStep_silent trivial
  · exact isFairStep_silent trivial
  · exact isFairStep_silent trivial
  · exact isFairStep_inBogusComment _ c

theorem isFair_verbatim (c : Char) : (verbatim c).IsFair := by
  unfold verbatim
  split <;> trivial

theorem isFairStep_inCdata (c : Char) : IsFairStep (inCdata c) := by
  unfold inCdata
  split_ifs
  · exact isFairStep_silent trivial
  · exact isFairStep_single trivial (isFair_verbatim c)

theorem isFairStep_inCdataBracket (c : Char) : IsFairStep (inCdataBracket c) := by
  unfold inCdataBracket
  split_ifs
  · exact isFairStep_silent trivial
  · exact isFairStep_after (isFairStep_single trivial (isFair_verbatim c)) (isFair_chars "]")

theorem isFairStep_inCdataEnd (c : Char) : IsFairStep (inCdataEnd c) := by
  unfold inCdataEnd
  split_ifs
  · exact isFairStep_silent trivial
  · exact ⟨trivial, isFair_chars "]"⟩
  · exact isFairStep_after (isFairStep_single trivial (isFair_verbatim c)) (isFair_chars "]]")

/-! ## Tags -/

variable {tag : Draft} {name value : String} {c : Char}

theorem isUpper_nameChar (c : Char) : (nameChar c).isUpper = false := by
  rw [nameChar, visible]
  split_ifs
  · decide
  · exact isUpper_toLower c

theorem isFair_first {closing : Bool} (h : c.isAlpha = true) :
    Draft.IsFair ⟨closing, String.singleton c.toLower, []⟩ := by
  refine ⟨fun _ => ⟨⟨_, by simp [Name.html], isAlpha_toLower h⟩, fun _ d hd => ?_⟩, by simp, by simp⟩
  obtain rfl : d = c.toLower := by simpa [Name.html] using hd
  exact isUpper_toLower c

theorem isFair_closing (name : String) : Draft.IsFair ⟨true, name, []⟩ := ⟨nofun, by simp, by simp⟩

theorem isLower_nameChar (c : Char) : IsLower (String.singleton (nameChar c)) := by
  intro d hd
  obtain rfl : d = nameChar c := by simpa using hd
  exact isUpper_nameChar c

theorem isLower_push (h : IsLower name) (c : Char) : IsLower (name.push (nameChar c)) := by
  intro d hd
  rw [String.toList_push, List.mem_append, List.mem_singleton] at hd
  rcases hd with hd | rfl
  · exact h d hd
  · exact isUpper_nameChar c

end Scanner

namespace Draft.IsFair

open Scanner

variable {tag : Draft} {value : String}

theorem pushName (h : tag.IsFair) (c : Char) :
    Draft.IsFair { tag with name := tag.name.push (nameChar c) } := by
  refine ⟨fun hopen => ?_, h.names, h.values⟩
  obtain ⟨⟨d, hd, halpha⟩, hlower⟩ := h.name hopen
  refine ⟨⟨d, ?_, halpha⟩, fun hspace e he => ?_⟩
  · simp only [Name.html, String.toList_push] at hd ⊢
    rw [List.head?_append, hd, Option.some_or]
  · simp only [Name.html, String.toList_push, List.mem_append, List.mem_singleton] at he
    rcases he with he | rfl
    · exact hlower hspace e he
    · exact isUpper_nameChar c

theorem withAttr (h : tag.IsFair) {name : String} (hname : IsLower name) (hvalue : '\x00' ∉ value.toList) :
    (Scanner.withAttr tag name value).IsFair := by
  unfold Scanner.withAttr
  split
  · exact h
  · exact ⟨h.name, List.forall_mem_append.mpr ⟨h.names, List.forall_mem_singleton.mpr hname⟩,
      List.forall_mem_append.mpr ⟨h.values, List.forall_mem_singleton.mpr hvalue⟩⟩

theorem withBareAttr (h : tag.IsFair) {name : String} (hname : IsLower name) :
    (Scanner.withAttr tag name "").IsFair :=
  h.withAttr hname (by simp)

end Draft.IsFair

namespace Scanner

open Text (isAsciiBlank)

variable {tag : Draft} {name value : String} {c : Char}

theorem isFairStep_finish (h : tag.IsFair) (selfClosing : Bool) : IsFairStep (finish tag selfClosing) := by
  refine ⟨trivial, fun t ht => ?_⟩
  obtain rfl := List.mem_singleton.mp ht
  split
  · trivial
  · next hopen => exact ⟨h.name (by simpa using hopen), h.names, h.values⟩

theorem isFairStep_inTagName (h : tag.IsFair) (c : Char) : IsFairStep (inTagName tag c) := by
  unfold inTagName
  split_ifs
  · exact isFairStep_silent h
  · exact isFairStep_silent h
  · exact isFairStep_finish h false
  · exact isFairStep_silent (h.pushName c)

theorem isFairStep_inBeforeAttr (h : tag.IsFair) (c : Char) : IsFairStep (inBeforeAttr tag c) := by
  unfold inBeforeAttr
  split_ifs
  · exact isFairStep_silent h
  · exact isFairStep_silent h
  · exact isFairStep_finish h false
  · exact isFairStep_silent ⟨h, isLower_nameChar c⟩

theorem isFairStep_inAttrName (h : tag.IsFair) (hname : IsLower name) (c : Char) :
    IsFairStep (inAttrName tag name c) := by
  unfold inAttrName
  split_ifs
  · exact isFairStep_silent ⟨h, hname⟩
  · exact isFairStep_silent (h.withBareAttr hname)
  · exact isFairStep_silent ⟨h, hname⟩
  · exact isFairStep_finish (h.withBareAttr hname) false
  · exact isFairStep_silent ⟨h, isLower_push hname c⟩

theorem isFairStep_inAfterAttrName (h : tag.IsFair) (hname : IsLower name) (c : Char) :
    IsFairStep (inAfterAttrName tag name c) := by
  unfold inAfterAttrName
  split_ifs
  · exact isFairStep_silent ⟨h, hname⟩
  · exact isFairStep_silent ⟨h, hname⟩
  · exact isFairStep_inBeforeAttr (h.withBareAttr hname) c

theorem isFairStep_inValue (h : tag.IsFair) (hname : IsLower name) (hvalue : '\x00' ∉ value.toList)
    (quote : Quote) (c : Char) : IsFairStep (inValue quote tag name value c) := by
  unfold inValue
  split_ifs
  · exact isFairStep_silent ⟨⟨h, hname, hvalue⟩, List.not_mem_nil⟩
  · exact isFairStep_silent (h.withAttr hname hvalue)
  · exact isFairStep_finish (h.withAttr hname hvalue) false
  · exact isFairStep_silent (h.withAttr hname hvalue)
  · exact isFairStep_silent ⟨h, hname, nul_notMem_push hvalue (visible_ne_nul c)⟩

theorem isFairStep_inBeforeValue (h : tag.IsFair) (hname : IsLower name) (c : Char) :
    IsFairStep (inBeforeValue tag name c) := by
  have hempty : '\x00' ∉ "".toList := by simp
  unfold inBeforeValue
  split_ifs
  · exact isFairStep_silent ⟨h, hname⟩
  · exact isFairStep_silent ⟨h, hname, hempty⟩
  · exact isFairStep_silent ⟨h, hname, hempty⟩
  · exact isFairStep_finish (h.withBareAttr hname) false
  · exact isFairStep_inValue h hname hempty .none c

theorem isFairStep_inSelfClosing (h : tag.IsFair) (c : Char) : IsFairStep (inSelfClosing tag c) := by
  unfold inSelfClosing
  split_ifs
  · exact isFairStep_finish h true
  · exact isFairStep_inBeforeAttr h c

theorem isFairStep_inRawEndName (last : String) (kind : RawKind) (seen : String) (c : Char) :
    IsFairStep (inRawEndName last kind seen c) := by
  unfold inRawEndName
  dsimp only
  split_ifs
  · exact isFairStep_silent (isFair_closing _)
  · exact isFairStep_silent (isFair_closing _)
  · exact isFairStep_finish (isFair_closing _) false
  · exact isFairStep_silent trivial
  · refine isFairStep_after (isFairStep_inRaw kind c) fun t ht => ?_
    exact (List.mem_append.mp ht).elim (isFair_chars _ t) (isFair_chars _ t)

theorem isFairStep_inEndTagOpen (c : Char) : IsFairStep (inEndTagOpen c) := by
  unfold inEndTagOpen
  split_ifs with h1 h2
  · exact isFairStep_single trivial trivial
  · exact isFairStep_silent (isFair_first h2)
  · exact isFairStep_inBogusComment "" c

theorem isFairStep_inTagOpen (c : Char) : IsFairStep (inTagOpen c) := by
  unfold inTagOpen
  split_ifs with h1 h2 h3 h4
  · exact isFairStep_silent trivial
  · exact isFairStep_silent trivial
  · exact isFairStep_inBogusComment "" c
  · exact isFairStep_silent (isFair_first h4)
  · exact isFairStep_after (isFairStep_inText c) (isFair_chars "<")

/-! ## Character references -/

section References

variable {site : Site} {seen : Progress}

theorem isFairStep_flush (h : site.IsFair) {text : List Char} (htext : '\x00' ∉ text) :
    IsFairStep (flush site text) := by
  cases site with
  | value quote tag name value =>
    refine ⟨⟨h.1, h.2.1, ?_⟩, by simp [flush]⟩
    simpa using ⟨h.2.2, htext⟩
  | text => constructor <;> simp [flush]
  | escapable => constructor <;> simp [flush]

theorem isFairStep_resume {s : Step} (h : IsFairStep s) (c : Char) : IsFairStep (resume s c) := by
  obtain ⟨state, tokens⟩ := s
  refine isFairStep_after ?_ h.tokens
  split
  · exact isFairStep_inRaw _ c
  · next quote tag name value hstate =>
    dsimp only at hstate
    subst hstate
    obtain ⟨htag, hname, hvalue⟩ := h.state
    exact isFairStep_inValue htag hname hvalue quote c
  · exact isFairStep_inText c

theorem isFairStep_settle (hsite : site.IsFair) (hseen : seen.IsFair) : IsFairStep (settle site seen) := by
  cases seen with
  | named seen =>
    obtain ⟨hstands, hrest⟩ := Reference.named_eq (inAttribute site) seen
    refine isFairStep_flush hsite fun hmem => ?_
    exact (List.mem_append.mp hmem).elim hstands fun h => hseen (hrest.subset h)
  | hash => exact isFairStep_flush hsite (by decide)
  | hashX mark => exact isFairStep_flush hsite (by simpa using Ne.symm hseen)
  | number base value =>
    refine isFairStep_after (isFairStep_flush hsite ?_) (by simp)
    exact fun hmem => Reference.numbered_ne_nul value (List.mem_singleton.mp hmem).symm

theorem isFairStep_inReference (hsite : site.IsFair) (hseen : seen.IsFair) (c : Char) :
    IsFairStep (inReference site seen c) := by
  have hresume := isFairStep_resume (isFairStep_settle hsite hseen) c
  cases seen with
  | named seen =>
    simp only [inReference]
    obtain ⟨hstands, hrest⟩ := Reference.named_eq (inAttribute site) (seen ++ [c])
    split_ifs with hhash hbegins hempty
    · exact isFairStep_silent ⟨hsite, trivial⟩
    · rw [Bool.and_eq_true] at hbegins
      exact isFairStep_silent ⟨hsite, Reference.nul_notMem_of_begins hbegins.2⟩
    · exact isFairStep_flush hsite hstands
    · -- what is left of the name, but for the character that has ended it, has been read before
      obtain ⟨front, hfront⟩ := hrest
      have hdrop : front ++ (Reference.named (inAttribute site) (seen ++ [c])).2.dropLast = seen := by
        have := congrArg List.dropLast hfront
        rwa [List.dropLast_concat, List.dropLast_append_of_ne_nil (by simpa using hempty)] at this
      refine isFairStep_resume (isFairStep_flush hsite fun hmem => ?_) c
      refine (List.mem_append.mp hmem).elim hstands fun h => hseen ?_
      exact hdrop ▸ List.mem_append_right _ h
  | hash =>
    simp only [inReference]
    split_ifs with hx
    · refine ⟨⟨hsite, ?_⟩, by simp⟩
      rintro rfl
      revert hx
      decide
    · split
      · exact isFairStep_silent ⟨hsite, trivial⟩
      · exact hresume
  | hashX mark =>
    simp only [inReference]
    split
    · exact isFairStep_silent ⟨hsite, trivial⟩
    · exact hresume
  | number base value =>
    simp only [inReference]
    split
    · exact isFairStep_silent ⟨hsite, trivial⟩
    · split_ifs
      · refine isFairStep_flush hsite ?_
        exact fun hmem => Reference.numbered_ne_nul value (List.mem_singleton.mp hmem).symm
      · exact hresume

end References

/-! ## All states -/

/-- The scanner goes from fair states to fair states, and gives fair tokens. -/
theorem isFairStep_step (foreign : Bool) (last : String) {state : State} (h : state.IsFair) (c : Char) :
    IsFairStep (step foreign last state c) := by
  cases state with
  | text => exact isFairStep_inText c
  | plaintext => exact isFairStep_inPlaintext c
  | raw kind => exact isFairStep_inRaw kind c
  | reference site seen => exact isFairStep_inReference h.1 h.2 c
  | tagOpen => exact isFairStep_inTagOpen c
  | endTagOpen => exact isFairStep_inEndTagOpen c
  | tagName tag => exact isFairStep_inTagName h c
  | beforeAttr tag => exact isFairStep_inBeforeAttr h c
  | attrName tag name => exact isFairStep_inAttrName h.1 h.2 c
  | afterAttrName tag name => exact isFairStep_inAfterAttrName h.1 h.2 c
  | beforeValue tag name => exact isFairStep_inBeforeValue h.1 h.2 c
  | value quote tag name value => exact isFairStep_inValue h.1 h.2.1 h.2.2 quote c
  | selfClosing tag => exact isFairStep_inSelfClosing h c
  | rawLess kind => exact isFairStep_inRawLess kind c
  | rawEndOpen kind => exact isFairStep_inRawEndOpen kind c
  | rawEndName kind seen => exact isFairStep_inRawEndName last kind seen c
  | hideStart => exact isFairStep_inHideStart c
  | hideStartDash => exact isFairStep_inHideStartDash c
  | hiddenDash kind => exact isFairStep_inHiddenDash kind c
  | hiddenDashDash kind => exact isFairStep_inHiddenDashDash kind c
  | nestStart seen => exact isFairStep_inNestStart seen c
  | nestEnd seen => exact isFairStep_inNestEnd seen c
  | declaration seen => exact isFairStep_inDeclaration foreign seen c
  | bogusComment text => exact isFairStep_inBogusComment text c
  | commentStart => exact isFairStep_inCommentStart c
  | commentStartDash => exact isFairStep_inCommentStartDash c
  | comment text => exact isFairStep_inComment text c
  | commentLess text => exact isFairStep_inCommentLess text c
  | commentLessBang text => exact isFairStep_inCommentLessBang text c
  | commentLessBangDash text => exact isFairStep_inCommentLessBangDash text c
  | commentLessBangDashDash text => exact isFairStep_inCommentEnd text c
  | commentEndDash text => exact isFairStep_inCommentEndDash text c
  | commentEnd text => exact isFairStep_inCommentEnd text c
  | commentEndBang text => exact isFairStep_inCommentEndBang text c
  | beforeDoctype => exact isFairStep_inBeforeDoctype c
  | doctypeName doctype name => exact isFairStep_inDoctypeName doctype name c
  | afterDoctypeName doctype seen => exact isFairStep_inAfterDoctypeName doctype seen c
  | afterKeyword kind doctype => exact isFairStep_inAfterKeyword kind doctype c
  | doctypeId kind mark doctype id => exact isFairStep_inDoctypeId kind mark doctype id c
  | afterDoctypeId kind doctype => exact isFairStep_inAfterDoctypeId kind doctype c
  | bogusDoctype doctype => exact isFairStep_inBogusDoctype doctype c
  | cdata => exact isFairStep_inCdata c
  | cdataBracket => exact isFairStep_inCdataBracket c
  | cdataEnd => exact isFairStep_inCdataEnd c

theorem isFair_feed {scanner : Scanner} (h : scanner.state.IsFair) (foreign : Bool) (c : Char) :
    (scanner.feed foreign c).1.state.IsFair ∧ ∀ t ∈ (scanner.feed foreign c).2, t.IsFair :=
  have hstep := isFairStep_step foreign scanner.last h c
  ⟨hstep.state, hstep.tokens⟩

theorem isFair_stop {scanner : Scanner} (h : scanner.state.IsFair) : ∀ t ∈ scanner.stop, t.IsFair := by
  have hall : ∀ t, t ∈ leftover scanner.state → t.IsFair := by
    generalize scanner.state = state at h
    intro t ht
    cases state with
    | reference site seen =>
      cases site with
      | text => exact (isFairStep_settle h.1 h.2).tokens t ht
      | escapable => exact (isFairStep_settle h.1 h.2).tokens t ht
      | value => exact absurd ht List.not_mem_nil
    | rawLess kind =>
      cases kind <;> first | exact absurd ht List.not_mem_nil | exact isFair_chars _ t ht
    | rawEndName kind seen => exact (List.mem_append.mp ht).elim (isFair_chars _ t) (isFair_chars _ t)
    | _ =>
      first
        | exact absurd ht List.not_mem_nil
        | exact isFair_chars _ t ht
        | (obtain rfl := List.mem_singleton.mp ht; trivial)
  exact hall

end Scanner

end PageEdit.Html
