import PageEdit.Proofs.Css.Values
import PageEdit.Proofs.Patch.Styles

/-!
# Declarations that a patch for styles does not name

A patch for styles writes the whole style anew. As the program reads it, the declarations that the patch does not
name stay. As CSS reads it, they stay if CSS takes each part between the semicolons of the style for one part, and
reads the same in it when its name is put in lower case and its ends are trimmed.

* `IsPropertyPart`, `readsAlike_of_isPropertyPart`: blanks, properties and their values, which CSS reads the same.
* `isPropertyPart_of_isSimplePart`: such parts by their characters alone.
* `declarations_writeStyle`, `isPlainStyle_writeStyle`: what CSS reads of declarations that have been written.
* `style_patches_keep_other_declarations`: what stays of a style.
* `declarations_kept_of_properties`: what stays of a style of properties.
-/

namespace PageEdit

open Html Payload Css

/-! ## Names of properties -/

section

variable {name : String} {d : String × String}

theorem isPropertyName_of_isProperty (h : isProperty name = true) : IsPropertyName name.toList := by
  refine ⟨fun s => ?_, fun c hc => ?_⟩
  · obtain ⟨n, hn, cs, hcs, heq⟩ := isProperty_iff.mp h
    obtain ⟨c, rest, rfl, hc, -⟩ := exists_of_isPropertyTail hcs
    have hletter : Lexer.startsName c = true := by
      rw [Lexer.startsName, hc]
      rfl
    rw [heq]
    obtain rfl | rfl | rfl : n = 0 ∨ n = 1 ∨ n = 2 := by omega
    · exact startsIdent_of_ne hletter (ne_of_startsName hletter _ (by decide)) _
    · simp [Lexer.startsIdent, hletter, List.replicate]
    · rfl
  · rcases isAlphanum_of_isProperty h c hc with hc | rfl
    · rw [Css.isNameChar, hc]
      rfl
    · decide

/-- A declaration of a property declares this property for CSS, and nothing else. -/
theorem fst_of_mem_declarations (hproperty : isProperty d.1 = true) (hlower : Text.lowerAscii d.1 = d.1)
    (hwhole : isWhole (chunk d) = true) : ∀ x ∈ declarations (chunk d), x.1 = d.1 := by
  have hread : declaration? (trees (chunk d)) = some (propertyName (String.ofList d.1.toList), _) :=
    declaration?_of_name (isPropertyName_of_isProperty hproperty) (' ' :: d.2.toList)
  rw [declarations_of_isWhole hwhole, hread]
  refine List.forall_mem_singleton.mpr ?_
  rw [propertyName, String.ofList_toList, hlower]
  split <;> rfl

end

/-! ## Blanks -/

section

variable {lead : List Char}

theorem isBlank_of_lexer {c : Char} (h : Lexer.isBlank c = true) : Text.isBlank c = true := by
  simp only [Lexer.isBlank, Lexer.isNewline, Bool.or_eq_true, beq_iff_eq] at h
  rcases h with (rfl | rfl) | (rfl | rfl) | rfl <;> decide

theorem isBlank_of_trimChars_eq {s : List Char} (h : Text.trimChars s = s) :
    ∀ c ∈ s.head?, Lexer.isBlank c = false := by
  intro c hc
  rw [← h] at hc
  have hblank := Text.isBlank_of_mem_head?_trimChars hc
  exact Bool.eq_false_iff.mpr fun hlexer => Bool.eq_false_iff.mp hblank (isBlank_of_lexer hlexer)

theorem isBlank_of_spaces (hlead : ∀ c ∈ lead, c = ' ') : ∀ c ∈ lead, Lexer.isBlank c = true :=
  fun c hc => hlead c hc ▸ rfl

theorem declarations_blanks (hlead : ∀ c ∈ lead, Lexer.isBlank c = true) : declarations lead = [] := by
  have hnil := declarations_blanks_append (s := []) hlead (fun _ h => nomatch h)
  rw [List.append_nil] at hnil
  rw [hnil]
  rfl

end

/-! ## Parts of a style -/

/-- What CSS reads of a style whose parts between semicolons are whole. -/
theorem declarations_eq_flatMap_pieces {s : List Char}
    (h : ∀ part ∈ Text.pieces (· == ';') s, isWhole part = true) :
    declarations s = (Text.pieces (· == ';') s).flatMap declarations := by
  generalize hparts : Text.pieces (· == ';') s = parts at h
  induction parts generalizing s with
  | nil => exact absurd hparts (Text.pieces_ne_nil _ s)
  | cons part parts ih =>
    obtain ⟨hpart, hrest⟩ := List.forall_mem_cons.mp h
    rcases Text.pieces_eq_cons hparts with ⟨rfl, rfl⟩ | ⟨rest, rfl, hpieces⟩
    · simp
    · rw [declarations_append hpart, ih hpieces hrest, List.flatMap_cons]

/-- Whether CSS takes a part of a style for one part, and reads the same in it when it is written anew. -/
def ReadsAlike (part : List Char) : Prop :=
  isWhole part = true ∧ match inlineDeclaration? part with
    | some d => isWhole (chunk d) = true ∧ declarations (chunk d) = declarations part
    | none => declarations part = []

/-- Whether all parts of a style do so. -/
def IsPlainStyle (style : String) : Prop := ∀ part ∈ Text.pieces (· == ';') style.toList, ReadsAlike part

section

variable {name value : String} {lead gap : List Char}

theorem trimChars_of_isProperty (h : isProperty name = true) : Text.trimChars name.toList = name.toList := by
  have hblank : ∀ c ∈ name.toList, Text.isBlank c = false := by
    intro c hc
    rcases isAlphanum_of_isProperty h c hc with hc | rfl
    · rw [Char.isAlphanum, Bool.or_eq_true] at hc
      exact hc.elim Text.isBlank_of_isAlpha isBlank_of_isDigit
    · decide
  exact Text.trimChars_eq_self (fun c hc => hblank c (List.mem_of_mem_head? hc))
    (fun c hc => hblank c (List.mem_of_mem_getLast? hc))

theorem inlineDeclaration?_of_property (hlead : ∀ c ∈ lead, Lexer.isBlank c = true) (hproperty : isProperty name = true)
    (hgap : ∀ c ∈ gap, Lexer.isBlank c = true) (hvalue : Text.trimChars value.toList = value.toList) :
    inlineDeclaration? (lead ++ (name.toList ++ ':' :: (gap ++ value.toList))) =
      some (Text.lowerAscii name, value) := by
  have hcolon : ':' ∉ lead ++ name.toList := by
    rw [List.mem_append, not_or]
    refine ⟨fun hmem => absurd (hlead _ hmem) (by decide), fun hmem => ?_⟩
    exact absurd (isAlphanum_of_isProperty hproperty _ hmem) (by decide)
  have hname : trimmed (lead ++ name.toList) = name := by
    rw [trimmed, Text.trimChars_append_left fun c hc => isBlank_of_lexer (hlead c hc), trimChars_of_isProperty hproperty,
      String.ofList_toList]
  have htrim : trimmed (gap ++ value.toList) = value := by
    rw [trimmed, Text.trimChars_append_left fun c hc => isBlank_of_lexer (hgap c hc), hvalue, String.ofList_toList]
  have hne : Text.lowerAscii name ≠ "" := by
    intro hempty
    have hlower := isProperty_lowerAscii hproperty
    rw [hempty] at hlower
    exact absurd hlower (by decide)
  rw [inlineDeclaration?, ← List.append_assoc, Text.cutAt_append hcolon]
  dsimp only
  rw [hname, htrim, if_neg (by simpa using hne)]

theorem isWhole_chunk {d : String × String} (hproperty : isProperty d.1 = true)
    (hvalue : Text.trimChars d.2.toList = d.2.toList) (hwhole : isWhole d.2.toList = true) :
    isWhole (chunk d) = true :=
  isWhole_of_name (isPropertyName_of_isProperty hproperty)
    (isWhole_blanks_append (List.forall_mem_singleton.mpr rfl) (isBlank_of_trimChars_eq hvalue) hwhole)

theorem readsAlike_of_blank (hlead : ∀ c ∈ lead, Lexer.isBlank c = true) : ReadsAlike lead := by
  have hwhole := isWhole_blanks_append (a := []) hlead (fun _ h => nomatch h) rfl
  have hcolon : ':' ∉ lead := fun hmem => absurd (hlead _ hmem) (by decide)
  rw [List.append_nil] at hwhole
  refine ⟨hwhole, ?_⟩
  rw [inlineDeclaration?_eq_none hcolon]
  exact declarations_blanks hlead

/-- A property, a colon and a whole value are read alike, if the capitals of the name do not count or it has none. -/
theorem readsAlike_of_property (hlead : ∀ c ∈ lead, Lexer.isBlank c = true) (hproperty : isProperty name = true)
    (hname : propertyName name = Text.lowerAscii name) (hgap : ∀ c ∈ gap, Lexer.isBlank c = true)
    (hvalue : Text.trimChars value.toList = value.toList) (hwhole : isWhole value.toList = true) :
    ReadsAlike (lead ++ (name.toList ++ ':' :: (gap ++ value.toList))) := by
  have hspace : ∀ c ∈ [' '], Lexer.isBlank c = true := List.forall_mem_singleton.mpr rfl
  have hhead := isBlank_of_trimChars_eq hvalue
  have hnamed := isPropertyName_of_isProperty hproperty
  have hlowered := isPropertyName_of_isProperty (isProperty_lowerAscii hproperty)
  have hbare : isWhole (name.toList ++ ':' :: (gap ++ value.toList)) = true :=
    isWhole_of_name hnamed (isWhole_blanks_append hgap hhead hwhole)
  have hchunk : isWhole (chunk (Text.lowerAscii name, value)) = true :=
    isWhole_chunk (isProperty_lowerAscii hproperty) hvalue hwhole
  have hfirst : ∀ c ∈ (name.toList ++ ':' :: (gap ++ value.toList)).head?, Lexer.isBlank c = false := by
    obtain ⟨c, cs, hcs, -⟩ := hnamed.exists_next
    have hnot := isBlank_of_trimChars_eq (trimChars_of_isProperty hproperty)
    rw [hcs] at hnot ⊢
    exact hnot
  refine ⟨isWhole_blanks_append hlead hfirst hbare, ?_⟩
  rw [inlineDeclaration?_of_property hlead hproperty hgap hvalue]
  refine ⟨hchunk, ?_⟩
  have hsame : propertyName (Text.lowerAscii name) = Text.lowerAscii name := by
    rw [propertyName, lowerAscii_lowerAscii]
    split <;> rfl
  have hread : declaration? (trees (chunk (Text.lowerAscii name, value))) =
      some (propertyName (String.ofList (Text.lowerAscii name).toList), trimmedValue (trees ([' '] ++ value.toList))) :=
    declaration?_of_name hlowered (' ' :: value.toList)
  rw [declarations_blanks_append hlead hfirst, declarations_of_isWhole hchunk, declarations_of_isWhole hbare, hread,
    declaration?_of_name hnamed, trimmedValue_blanks_append hspace hhead, trimmedValue_blanks_append hgap hhead,
    String.ofList_toList, String.ofList_toList, hsame, hname]

end

/-! ## Parts with properties -/

/-- A part of a style that is blank, or a property with its value: behind blanks its name, in which no capitals
count, and behind a colon and blanks a value without blanks at its ends that CSS takes for one part. -/
inductive IsPropertyPart : List Char → Prop where
  | blank {lead : List Char} (hlead : ∀ c ∈ lead, Lexer.isBlank c = true) : IsPropertyPart lead
  | property {lead gap : List Char} {name value : String} (hlead : ∀ c ∈ lead, Lexer.isBlank c = true)
      (hproperty : isProperty name = true) (hname : propertyName name = Text.lowerAscii name)
      (hgap : ∀ c ∈ gap, Lexer.isBlank c = true) (hvalue : Text.trimChars value.toList = value.toList)
      (hwhole : isWhole value.toList = true) :
      IsPropertyPart (lead ++ (name.toList ++ ':' :: (gap ++ value.toList)))

theorem readsAlike_of_isPropertyPart {part : List Char} (h : IsPropertyPart part) : ReadsAlike part := by
  cases h with
  | blank hlead => exact readsAlike_of_blank hlead
  | property hlead hproperty hname hgap hvalue hwhole =>
    exact readsAlike_of_property hlead hproperty hname hgap hvalue hwhole

/-- Whether a part of a style is blank, or a property with a value that hides no semicolon. -/
def isSimplePart (part : List Char) : Bool :=
  part.all Lexer.isBlank ||
    match Text.cutAt ':' (part.dropWhile Lexer.isBlank) with
    | some (cs, rest) =>
      let name := String.ofList cs
      let value := rest.dropWhile Lexer.isBlank
      isProperty name && propertyName name == Text.lowerAscii name && Text.trimChars value == value &&
        value.all isValueChar
    | none => false

theorem isPropertyPart_of_isSimplePart {part : List Char} (h : isSimplePart part = true) : IsPropertyPart part := by
  have hblanks : ∀ s : List Char, ∀ c ∈ s.takeWhile Lexer.isBlank, Lexer.isBlank c = true := fun s =>
    List.all_eq_true.mp List.all_takeWhile
  rw [isSimplePart, Bool.or_eq_true] at h
  rcases h with hblank | hproperty
  · exact .blank (List.all_eq_true.mp hblank)
  · split at hproperty
    · next cs rest hcut =>
      simp only [Bool.and_eq_true, beq_iff_eq] at hproperty
      obtain ⟨⟨⟨hname, hlower⟩, htrim⟩, hchars⟩ := hproperty
      have hpart : part = part.takeWhile Lexer.isBlank ++ ((String.ofList cs).toList ++
          ':' :: (rest.takeWhile Lexer.isBlank ++ (String.ofList (rest.dropWhile Lexer.isBlank)).toList)) := by
        rw [String.toList_ofList, String.toList_ofList, List.takeWhile_append_dropWhile,
          ← (Text.eq_append_of_cutAt hcut).1, List.takeWhile_append_dropWhile]
      rw [hpart]
      refine .property (hblanks part) hname hlower (hblanks rest) ?_ ?_
      · rwa [String.toList_ofList]
      · rw [String.toList_ofList]
        exact isWhole_of_isValueChar (List.all_eq_true.mp hchars)
    · cases hproperty

/-- Many styles can be seen to have such parts alone. -/
example : (Text.pieces (· == ';') "MARGIN:0 auto; color: #f00 !important;".toList).all isSimplePart = true := by
  decide +kernel

/-- Whether all parts of a style are blank, or properties with their values. -/
def IsStyleOfProperties (style : String) : Prop :=
  ∀ part ∈ Text.pieces (· == ';') style.toList, IsPropertyPart part

theorem isPlainStyle_of_isStyleOfProperties {style : String} (h : IsStyleOfProperties style) : IsPlainStyle style :=
  fun part hpart => readsAlike_of_isPropertyPart (h part hpart)

/-! ## Plain styles -/

theorem isWhole_chunk_of_isPlainStyle {style : String} (h : IsPlainStyle style) :
    ∀ d ∈ inlineStyle style, isWhole (chunk d) = true := by
  intro d hd
  obtain ⟨part, hpart, hread⟩ := List.mem_filterMap.mp hd
  have halike := (h part hpart).2
  rw [hread] at halike
  exact halike.1

theorem declarations_of_isPlainStyle {style : String} (h : IsPlainStyle style) :
    declarations style.toList = (inlineStyle style).flatMap fun d => declarations (chunk d) := by
  rw [declarations_eq_flatMap_pieces fun part hpart => (h part hpart).1, inlineStyle]
  unfold IsPlainStyle at h
  generalize Text.pieces (· == ';') style.toList = parts at h
  induction parts with
  | nil => rfl
  | cons part parts ih =>
    obtain ⟨⟨-, hpart⟩, hrest⟩ := List.forall_mem_cons.mp h
    rw [List.flatMap_cons, ih hrest, List.filterMap_cons]
    cases hread : inlineDeclaration? part with
    | none =>
      rw [hread] at hpart
      rw [hpart, List.nil_append]
    | some d =>
      rw [hread] at hpart
      rw [List.flatMap_cons, hpart.2]

/-! ## Styles that have been written -/

section

variable {written : Payload.Pairs} {d : String × String} {lead : List Char}

theorem head_chunk (h : IsStable d) (rest : List Char) : ∀ c ∈ (chunk d ++ rest).head?, Lexer.isBlank c = false := by
  obtain ⟨first, name, hname⟩ := List.exists_cons_of_ne_nil (l := d.1.toList) (by simpa using h.name)
  intro c hc
  refine isBlank_of_trimChars_eq h.trimmedName c ?_
  rw [chunk, hname] at hc
  rwa [hname]

/-- What CSS reads of declarations that have been written. -/
theorem declarations_writeStyle (h : ∀ d ∈ written, IsStable d) (hwhole : ∀ d ∈ written, isWhole (chunk d) = true)
    (hlead : ∀ c ∈ lead, c = ' ') :
    declarations (lead ++ (writeStyle written).toList) = written.flatMap fun d => declarations (chunk d) := by
  induction written generalizing lead with
  | nil =>
    have hempty : (writeStyle []).toList = [] := rfl
    rw [hempty, List.append_nil, declarations_blanks (isBlank_of_spaces hlead)]
    rfl
  | cons d rest ih =>
    obtain ⟨hd, hrest⟩ := List.forall_mem_cons.mp h
    obtain ⟨hdWhole, hrestWhole⟩ := List.forall_mem_cons.mp hwhole
    obtain ⟨more, hmore, htext⟩ := exists_toList_writeStyle d rest
    rw [htext, declarations_blanks_append (isBlank_of_spaces hlead) (head_chunk hd _), declarations_append hdWhole,
      ih hrest hrestWhole hmore, List.flatMap_cons]

/-- The parts of a style that has been written. -/
theorem exists_of_mem_pieces_writeStyle (h : ∀ d ∈ written, IsStable d) (hlead : ∀ c ∈ lead, c = ' ')
    {part : List Char} (hpart : part ∈ Text.pieces (· == ';') (lead ++ (writeStyle written).toList)) :
    ∃ spaces : List Char, (∀ c ∈ spaces, c = ' ') ∧ (part = spaces ∨ ∃ d ∈ written, part = spaces ++ chunk d) := by
  induction written generalizing lead with
  | nil =>
    rw [pieces_writeStyle_nil hlead, List.mem_singleton] at hpart
    exact ⟨lead, hlead, .inl hpart⟩
  | cons d rest ih =>
    obtain ⟨hd, hrest⟩ := List.forall_mem_cons.mp h
    obtain ⟨more, hmore, hpieces⟩ := exists_pieces_writeStyle_cons hd hlead rest
    rw [hpieces, List.mem_cons] at hpart
    rcases hpart with rfl | hpart
    · exact ⟨lead, hlead, .inr ⟨d, List.mem_cons_self, rfl⟩⟩
    · obtain ⟨spaces, hspaces, hcases⟩ := ih hrest hmore hpart
      refine ⟨spaces, hspaces, hcases.imp_right ?_⟩
      rintro ⟨x, hx, rfl⟩
      exact ⟨x, List.mem_cons_of_mem _ hx, rfl⟩

/-- What has been written is read alike when it is written again. -/
theorem isPlainStyle_writeStyle (h : ∀ d ∈ written, IsStable d) (hwhole : ∀ d ∈ written, isWhole (chunk d) = true) :
    IsPlainStyle (writeStyle written) := by
  intro part hpart
  rw [← List.nil_append (writeStyle written).toList] at hpart
  obtain ⟨spaces, hspaces, rfl | ⟨d, hd, rfl⟩⟩ := exists_of_mem_pieces_writeStyle h (List.forall_mem_nil _) hpart
  · exact readsAlike_of_blank (isBlank_of_spaces hspaces)
  · have hhead := head_chunk (h d hd) []
    rw [List.append_nil] at hhead
    refine ⟨isWhole_blanks_append (isBlank_of_spaces hspaces) hhead (hwhole d hd), ?_⟩
    rw [inlineDeclaration?_chunk (h d hd) hspaces]
    exact ⟨hwhole d hd, (declarations_blanks_append (isBlank_of_spaces hspaces) hhead).symm⟩

end

/-! ## Merging -/

section

variable {name : String} {updates declarations : Payload.Pairs}

/-- Whether a declaration is of none of some names. -/
def isUnnamed {α : Type} (names : List String) (d : String × α) : Bool := !names.contains d.1

theorem isUnnamed_of_mem {α : Type} {names : List String} (h : name ∈ names) (value : α) :
    isUnnamed names (name, value) = false := by
  simpa [isUnnamed] using h

/-- What is not named stays as it is. -/
theorem filter_foldl_declare {keep : String × String → Bool} (h : ∀ u ∈ updates, ∀ v, keep (u.1, v) = false) :
    (updates.foldl declare declarations).filter keep = declarations.filter keep := by
  induction updates generalizing declarations with
  | nil => rfl
  | cons u rest ih =>
    obtain ⟨hu, hrest⟩ := List.forall_mem_cons.mp h
    rw [List.foldl_cons, ih hrest, declare]
    split
    · exact filter_dropPair hu
    · exact filter_setPair hu

theorem flatMap_filter_of_forall {α β : Type} {f : α → List β} {keep : α → Bool} {list : List α}
    (h : ∀ a ∈ list, keep a = false → f a = []) : (list.filter keep).flatMap f = list.flatMap f := by
  induction list with
  | nil => rfl
  | cons a rest ih =>
    obtain ⟨ha, hrest⟩ := List.forall_mem_cons.mp h
    rw [List.filter_cons, List.flatMap_cons]
    split
    · rw [List.flatMap_cons, ih hrest]
    · next hkeep => rw [ih hrest, ha (Bool.eq_false_iff.mpr hkeep), List.nil_append]

/-- What CSS reads of declarations without those of some properties. -/
theorem filter_flatMap_chunk (hupdates : ∀ u ∈ updates, isProperty u.1 = true)
    (h : ∀ d ∈ declarations, IsStable d) (hwhole : ∀ d ∈ declarations, isWhole (chunk d) = true) :
    (declarations.flatMap fun d => Css.declarations (chunk d)).filter (isUnnamed (namesIn updates)) =
      (declarations.filter (isUnnamed (namesIn updates))).flatMap fun d =>
        (Css.declarations (chunk d)).filter (isUnnamed (namesIn updates)) := by
  rw [List.filter_flatMap]
  refine (flatMap_filter_of_forall fun d hd hunnamed => ?_).symm
  have hmem : d.1 ∈ namesIn updates := by simpa [isUnnamed] using hunnamed
  have hproperty : isProperty d.1 = true := by
    obtain ⟨u, hu, hname⟩ := List.mem_map.mp hmem
    exact hname ▸ hupdates u hu
  have hfst := fst_of_mem_declarations hproperty (h d hd).lower (hwhole d hd)
  refine List.filter_eq_nil_iff.mpr fun x hx => ?_
  have hx' : x.1 ∈ namesIn updates := hfst x hx ▸ hmem
  simpa [isUnnamed] using hx'

end

section

variable {e : Element} {updates : Payload.Pairs}

/-- What is not named stays in the style that is written, as the program reads it. -/
theorem filter_mergedStyle (e : Element) (updates : Payload.Pairs) :
    (mergedStyle e updates).filter (isUnnamed (namesIn updates)) =
      (inlineStyle (styleIn e.attributes)).filter (isUnnamed (namesIn updates)) := by
  rw [mergedStyle_eq]
  exact filter_foldl_declare fun u hu v => isUnnamed_of_mem (List.mem_map_of_mem hu) v

/-- What is not named stays in a plain style, as CSS reads it, and the style stays plain. -/
theorem declarations_withStyle (hupdates : ∀ u ∈ updates, IsStable u ∧ isProperty u.1 = true)
    (hplain : IsPlainStyle (styleIn e.attributes)) (hwhole : ∀ u ∈ updates, isWhole (chunk u) = true) :
    (Css.declarations (styleIn (withStyle e updates)).toList).filter (isUnnamed (namesIn updates)) =
        (Css.declarations (styleIn e.attributes).toList).filter (isUnnamed (namesIn updates)) ∧
      IsPlainStyle (styleIn (withStyle e updates)) := by
  have hstable := isStable_mergedStyle (e := e) fun u hu => (hupdates u hu).1
  have hall : ∀ d ∈ mergedStyle e updates, isWhole (chunk d) = true := by
    intro d hd
    rw [mergedStyle_eq] at hd
    exact (mem_of_mem_foldl_declare hd).elim (hwhole d) (isWhole_chunk_of_isPlainStyle hplain d)
  refine ⟨?_, styleIn_withStyle e updates ▸ isPlainStyle_writeStyle hstable hall⟩
  have hwritten := declarations_writeStyle hstable hall (List.forall_mem_nil _)
  have hnamed : ∀ u ∈ updates, isProperty u.1 = true := fun u hu => (hupdates u hu).2
  rw [styleIn_withStyle, ← List.nil_append (writeStyle _).toList, hwritten, declarations_of_isPlainStyle hplain,
    filter_flatMap_chunk hnamed hstable hall, filter_mergedStyle, ← filter_flatMap_chunk hnamed
      (fun d hd => isStable_of_mem_inlineStyle hd) (isWhole_chunk_of_isPlainStyle hplain)]

end

/-! ## Main statement -/

/-- A sound patch for styles keeps the declarations that it does not name, as the program reads them. As CSS reads
them it keeps them in a plain style, if its own declarations are whole, and the style stays plain. -/
theorem style_patches_keep_other_declarations (p : Patch) (plan : Plan) (e : Element) (hplan : p.plan = .ok plan)
    (haction : p.action = .setStyle) (hlist : p.payload?.any isDeclarationList = true) :
    ∃ updates written, plan.change = .style updates ∧ p.attributes? e = some written ∧
      (inlineStyle (styleIn written)).filter (isUnnamed (namesIn updates)) =
        (inlineStyle (styleIn e.attributes)).filter (isUnnamed (namesIn updates)) ∧
      (IsPlainStyle (styleIn e.attributes) → (∀ u ∈ updates, isWhole (chunk u) = true) →
        (declarations (styleIn written).toList).filter (isUnnamed (namesIn updates)) =
            (declarations (styleIn e.attributes).toList).filter (isUnnamed (namesIn updates)) ∧
          IsPlainStyle (styleIn written)) := by
  obtain ⟨updates, hchange, hupdates⟩ := exists_style_of_plan hplan haction hlist
  have hstable := isStable_mergedStyle (e := e) fun u hu => (hupdates u hu).1
  refine ⟨updates, withStyle e updates, hchange, Patch.attributes?_of_style hplan hchange e, ?_,
    declarations_withStyle hupdates⟩
  rw [styleIn_withStyle, inlineStyle_writeStyle hstable, filter_mergedStyle]

/-- An element keeps its background, which has an address, when its colour is set. -/
theorem style_patches_keep_other_declarations_background :
    let e : Element := ⟨0, .html "p", [⟨.plain "style", "COLOR:red; background: url(a.png)"⟩]⟩
    let p : Patch := { Patch.bare "p" .setStyle with value := some "color: blue" }
    p.action = .setStyle ∧ p.payload?.any isDeclarationList = true ∧ IsPlainStyle (styleIn e.attributes) ∧
      ∃ plan written, p.plan = .ok plan ∧ p.attributes? e = some written ∧
        (declarations (styleIn written).toList).filter (isUnnamed ["color"]) =
          (declarations (styleIn e.attributes).toList).filter (isUnnamed ["color"]) ∧
        IsPlainStyle (styleIn written) := by
  intro e p
  have haction : p.action = .setStyle := rfl
  have hlist : p.payload?.any isDeclarationList = true := by decide
  have hparts : Text.pieces (· == ';') (styleIn e.attributes).toList =
      [[] ++ ("COLOR".toList ++ ':' :: ([] ++ "red".toList)),
        [' '] ++ ("background".toList ++ ':' :: ([' '] ++ "url(a.png)".toList))] := by decide +kernel
  have hplain : IsPlainStyle (styleIn e.attributes) := by
    rw [IsPlainStyle, hparts]
    refine List.forall_mem_cons.mpr ⟨?_, List.forall_mem_singleton.mpr ?_⟩
    · exact readsAlike_of_property (List.forall_mem_nil _) (by decide) (if_neg (by decide)) (List.forall_mem_nil _)
        (by decide) (by decide +kernel)
    · exact readsAlike_of_property (isBlank_of_spaces (List.forall_mem_singleton.mpr rfl)) (by decide)
        (if_neg (by decide)) (isBlank_of_spaces (List.forall_mem_singleton.mpr rfl)) (by decide) (by decide +kernel)
  obtain ⟨plan, hplan, hasks⟩ : ∃ plan, p.plan = .ok plan ∧ plan.change = .style [("color", "blue")] :=
    Patch.exists_plan_of_change (by decide +kernel)
  obtain ⟨updates, written, hchange, hwrites, -, hkeeps⟩ :=
    style_patches_keep_other_declarations p plan e hplan haction hlist
  obtain rfl : updates = [("color", "blue")] := Change.style.inj (hchange.symm.trans hasks)
  obtain ⟨hsame, hstays⟩ := hkeeps hplain (by decide +kernel)
  exact ⟨haction, hlist, hplain, plan, written, hplan, hwrites, hsame, hstays⟩

/-- A sound patch for styles keeps what CSS reads of a style of properties, apart from the properties that it names,
if CSS takes each of its values for one part. -/
theorem declarations_kept_of_properties {p : Patch} {plan : Plan} {e : Element} (hplan : p.plan = .ok plan)
    (haction : p.action = .setStyle) (hlist : p.payload?.any isDeclarationList = true)
    (hstyle : IsStyleOfProperties (styleIn e.attributes)) :
    ∃ updates written, plan.change = .style updates ∧ p.attributes? e = some written ∧
      ((∀ u ∈ updates, isWhole u.2.toList = true) →
        (declarations (styleIn written).toList).filter (isUnnamed (namesIn updates)) =
          (declarations (styleIn e.attributes).toList).filter (isUnnamed (namesIn updates))) := by
  obtain ⟨updates, hchange, hupdates⟩ := exists_style_of_plan hplan haction hlist
  refine ⟨updates, withStyle e updates, hchange, Patch.attributes?_of_style hplan hchange e, fun hwhole => ?_⟩
  have hchunks : ∀ u ∈ updates, isWhole (chunk u) = true := fun u hu =>
    isWhole_chunk (hupdates u hu).2 (hupdates u hu).1.trimmedValue (hwhole u hu)
  exact (declarations_withStyle hupdates (isPlainStyle_of_isStyleOfProperties hstyle) hchunks).1

/-- An address with a semicolon in it is cut off, and a property whose name has capitals is renamed. -/
theorem address_and_capitals_are_lost :
    let p : Patch := { Patch.bare "p" .setStyle with value := some "color: red" }
    let styled : String → Element := fun style => ⟨0, .html "p", [⟨.plain "style", style⟩]⟩
    let hasAddress : String × List Tree → Bool := fun d => match d with
      | ("background", [.leaf (.url url)]) => url == "data:image/png;base64,AAAA"
      | _ => false
    p.attributes? (styled "background: url(data:image/png;base64,AAAA)") =
        some [("style", "background: url(data:image/png; color: red;")] ∧
      (declarations "background: url(data:image/png;base64,AAAA)".toList).any hasAddress = true ∧
      (declarations "background: url(data:image/png; color: red;".toList).any hasAddress = false ∧
      p.attributes? (styled "--Foo: 1") = some [("style", "--foo: 1; color: red;")] ∧
      (declarations "--Foo: 1".toList).map (·.1) = ["--Foo"] ∧
      (declarations "--foo: 1; color: red;".toList).map (·.1) = ["--foo", "color"] := by
  decide +kernel

end PageEdit
