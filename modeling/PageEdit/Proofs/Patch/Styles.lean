import PageEdit.Proofs.Html.Tokens
import PageEdit.Proofs.Patch.Attributes
import PageEdit.Proofs.Text.Words

/-!
# Styles that patches write

A patch for styles reads the style of an element as a list of declarations, sets or removes some of them, and
writes the list back. What it writes is read as the same list again. A property that is set gets its value where
it is declared first, while further declarations of it stay, and of equal properties the last one counts.

* `inlineStyle_writeStyle`: what is written is read again.
* `valuesAt_foldl_declare`: the values of a property after some updates.
* `style_patches_take_hold`: when the declaration that counts is the one that the patch has written.
-/

namespace PageEdit

open Html Payload

/-! ## Letters in lower case -/

section

variable {c d : Char} {s : String}

theorem toLower_of_not_isAlpha (h : c.isAlpha = false) : c.toLower = c := by
  have hcase : (c.isUpper || c.isLower) = false := h
  exact toLower_eq_self (Bool.or_eq_false_iff.mp hcase).1

theorem eq_of_toLower (hd : d.isAlpha = false) (h : c.toLower = d) : c = d := by
  cases hc : c.isAlpha with
  | true =>
    rw [← h, isAlpha_toLower hc] at hd
    cases hd
  | false => rw [← h, toLower_of_not_isAlpha hc]

theorem isAlphanum_toLower (h : c.isAlphanum = true) : c.toLower.isAlphanum = true := by
  cases hc : c.isAlpha with
  | true => rw [Char.isAlphanum, isAlpha_toLower hc, Bool.true_or]
  | false => rwa [toLower_of_not_isAlpha hc]

theorem isBlank_toLower (c : Char) : Text.isBlank c.toLower = Text.isBlank c := by
  cases hc : c.isAlpha with
  | true => rw [Text.isBlank_of_isAlpha hc, Text.isBlank_of_isAlpha (isAlpha_toLower hc)]
  | false => rw [toLower_of_not_isAlpha hc]

theorem mem_of_mem_lowerAscii (hd : d.isAlpha = false) (h : d ∈ (Text.lowerAscii s).toList) : d ∈ s.toList := by
  rw [Text.lowerAscii, String.toList_map] at h
  obtain ⟨c, hc, hlower⟩ := List.mem_map.mp h
  exact eq_of_toLower hd hlower ▸ hc

theorem lowerAscii_lowerAscii (s : String) : Text.lowerAscii (Text.lowerAscii s) = Text.lowerAscii s := by
  rw [Text.lowerAscii, Text.lowerAscii, ← String.toList_inj, String.toList_map, String.toList_map, List.map_map]
  exact List.map_congr_left fun c _ => toLower_eq_self (isUpper_toLower c)

theorem trimChars_lowerAscii (s : String) :
    Text.trimChars (Text.lowerAscii s).toList = (Text.trimChars s.toList).map Char.toLower := by
  have hblank : Text.isBlank ∘ Char.toLower = Text.isBlank := funext isBlank_toLower
  rw [Text.lowerAscii, String.toList_map]
  simp only [Text.trimChars, Text.trimStart, Text.trimEnd, List.dropWhile_map, ← List.map_reverse, hblank]

end

/-! ## Declarations that are read as they are written -/

/-- Whether a declaration can be one that has been read. -/
structure IsStable (d : String × String) : Prop where
  name : d.1 ≠ ""
  lower : Text.lowerAscii d.1 = d.1
  trimmedName : Text.trimChars d.1.toList = d.1.toList
  trimmedValue : Text.trimChars d.2.toList = d.2.toList
  colon : ':' ∉ d.1.toList
  semicolon : ';' ∉ d.1.toList ++ d.2.toList

theorem isStable_of_cutAt {s name value : List Char} (h : Text.cutAt ':' s = some (name, value)) (hs : ';' ∉ s)
    (hname : Text.lowerAscii (trimmed name) ≠ "") : IsStable (Text.lowerAscii (trimmed name), trimmed value) := by
  obtain ⟨rfl, hcolon⟩ := Text.eq_append_of_cutAt h
  rw [List.mem_append, List.mem_cons, not_or, not_or] at hs
  have hsub : ∀ {d : Char}, d.isAlpha = false → d ∈ (Text.lowerAscii (trimmed name)).toList → d ∈ name := by
    intro d hd hmem
    have htrim := mem_of_mem_lowerAscii hd hmem
    rw [trimmed, String.toList_ofList] at htrim
    exact Text.mem_of_mem_trimChars htrim
  have hvalue : (trimmed value).toList = Text.trimChars value := String.toList_ofList
  refine ⟨hname, lowerAscii_lowerAscii _, ?_, ?_, fun hmem => hcolon (hsub rfl hmem), fun hmem => ?_⟩
  · rw [trimChars_lowerAscii, trimmed, String.toList_ofList, Text.trimChars_trimChars, Text.lowerAscii,
      String.toList_map, String.toList_ofList]
  · rw [hvalue, Text.trimChars_trimChars]
  · rw [List.mem_append, hvalue] at hmem
    rcases hmem with hmem | hmem
    · exact hs.1 (hsub rfl hmem)
    · exact hs.2.2 (Text.mem_of_mem_trimChars hmem)

theorem isStable_of_mem_inlineStyle {style : String} {d : String × String} (h : d ∈ inlineStyle style) :
    IsStable d := by
  obtain ⟨part, hpart, hd⟩ := List.mem_filterMap.mp h
  have hs : ';' ∉ part := fun hmem => absurd (Text.mem_pieces hpart ';' hmem) (by decide)
  rw [inlineDeclaration?] at hd
  split at hd
  · next name value hcut =>
    dsimp only at hd
    split at hd
    · cases hd
    · next hname =>
      obtain rfl := Option.some.inj hd
      exact isStable_of_cutAt hcut hs (by simpa using hname)
  · cases hd

/-! ## Writing and reading -/

/-- A declaration as it is written, without its semicolon. -/
def chunk (d : String × String) : List Char := d.1.toList ++ ':' :: ' ' :: d.2.toList

/-- Behind the first declaration a space stands before the next one. -/
theorem exists_toList_writeStyle (d : String × String) (rest : Payload.Pairs) :
    ∃ lead : List Char, (∀ c ∈ lead, c = ' ') ∧
      (writeStyle (d :: rest)).toList = chunk d ++ ';' :: (lead ++ (writeStyle rest).toList) := by
  cases rest with
  | nil => exact ⟨[], List.forall_mem_nil _, by simp [writeStyle, chunk]⟩
  | cons e rest =>
    exact ⟨[' '], List.forall_mem_singleton.mpr rfl, by simp [writeStyle, chunk, String.intercalate_cons_cons]⟩

theorem inlineDeclaration?_chunk {d : String × String} (h : IsStable d) {lead : List Char}
    (hlead : ∀ c ∈ lead, c = ' ') : inlineDeclaration? (lead ++ chunk d) = some d := by
  have hcolon : ':' ∉ lead ++ d.1.toList := by
    rw [List.mem_append, not_or]
    exact ⟨fun hmem => absurd (hlead _ hmem) (by decide), h.colon⟩
  have hblank : ∀ c ∈ lead, Text.isBlank c = true := fun c hc => hlead c hc ▸ rfl
  have hname : trimmed (lead ++ d.1.toList) = d.1 := by
    rw [trimmed, Text.trimChars_append_left hblank, h.trimmedName, String.ofList_toList]
  have hvalue : trimmed (' ' :: d.2.toList) = d.2 := by
    have hspace : ∀ c ∈ [' '], Text.isBlank c = true := List.forall_mem_singleton.mpr rfl
    rw [trimmed, ← List.singleton_append, Text.trimChars_append_left hspace, h.trimmedValue, String.ofList_toList]
  rw [inlineDeclaration?, chunk, ← List.append_assoc, Text.cutAt_append hcolon]
  dsimp only
  rw [hname, hvalue, h.lower, if_neg (by simpa using h.name)]

theorem inlineDeclaration?_eq_none {part : List Char} (h : ':' ∉ part) : inlineDeclaration? part = none := by
  rw [inlineDeclaration?]
  cases hcut : Text.cutAt ':' part with
  | none => rfl
  | some cut =>
    obtain ⟨rfl, -⟩ := Text.eq_append_of_cutAt hcut
    exact absurd (by simp) h

theorem semicolon_notMem_chunk {d : String × String} (h : IsStable d) {lead : List Char}
    (hlead : ∀ c ∈ lead, c = ' ') : ';' ∉ lead ++ chunk d := by
  have hsemicolon := h.semicolon
  have hspaces : ';' ∉ lead := fun hmem => absurd (hlead _ hmem) (by decide)
  simp only [chunk, List.mem_append, List.mem_cons, not_or] at hsemicolon ⊢
  exact ⟨hspaces, hsemicolon.1, by decide, by decide, hsemicolon.2⟩

theorem pieces_writeStyle_nil {lead : List Char} (hlead : ∀ c ∈ lead, c = ' ') :
    Text.pieces (· == ';') (lead ++ (writeStyle []).toList) = [lead] := by
  have hempty : (writeStyle []).toList = [] := rfl
  have hnone : ∀ c ∈ lead, (c == ';') = false := fun c hc => hlead c hc ▸ rfl
  rw [hempty, Text.pieces_append hnone rfl, List.append_nil]

theorem exists_pieces_writeStyle_cons {d : String × String} (h : IsStable d) {lead : List Char}
    (hlead : ∀ c ∈ lead, c = ' ') (rest : Payload.Pairs) :
    ∃ more : List Char, (∀ c ∈ more, c = ' ') ∧ Text.pieces (· == ';') (lead ++ (writeStyle (d :: rest)).toList) =
      (lead ++ chunk d) :: Text.pieces (· == ';') (more ++ (writeStyle rest).toList) := by
  obtain ⟨more, hmore, htext⟩ := exists_toList_writeStyle d rest
  have hnone : ∀ c ∈ lead ++ chunk d, (c == ';') = false :=
    fun c hc => beq_false_of_ne (ne_of_mem_of_not_mem hc (semicolon_notMem_chunk h hlead))
  have hcut : Text.pieces (· == ';') (';' :: (more ++ (writeStyle rest).toList)) =
      [] :: Text.pieces (· == ';') (more ++ (writeStyle rest).toList) := rfl
  refine ⟨more, hmore, ?_⟩
  rw [htext, ← List.append_assoc, Text.pieces_append hnone hcut, List.append_nil]

theorem filterMap_pieces_writeStyle {declarations : Payload.Pairs} (h : ∀ d ∈ declarations, IsStable d)
    {lead : List Char} (hlead : ∀ c ∈ lead, c = ' ') :
    (Text.pieces (· == ';') (lead ++ (writeStyle declarations).toList)).filterMap inlineDeclaration? =
      declarations := by
  induction declarations generalizing lead with
  | nil =>
    have hcolon : ':' ∉ lead := fun hmem => absurd (hlead _ hmem) (by decide)
    rw [pieces_writeStyle_nil hlead, List.filterMap_cons, inlineDeclaration?_eq_none hcolon, List.filterMap_nil]
  | cons d rest ih =>
    obtain ⟨hd, hrest⟩ := List.forall_mem_cons.mp h
    obtain ⟨more, hmore, hpieces⟩ := exists_pieces_writeStyle_cons hd hlead rest
    rw [hpieces, List.filterMap_cons, inlineDeclaration?_chunk hd hlead, ih hrest hmore]

/-- Declarations that are written are read again. -/
theorem inlineStyle_writeStyle {declarations : Payload.Pairs} (h : ∀ d ∈ declarations, IsStable d) :
    inlineStyle (writeStyle declarations) = declarations :=
  filterMap_pieces_writeStyle h (List.forall_mem_nil _)

/-! ## Names of properties -/

section

variable {cs : List Char} {name : String}

theorem exists_of_isPropertyTail (h : isPropertyTail cs = true) :
    ∃ c rest, cs = c :: rest ∧ c.isAlpha = true ∧ ∀ d ∈ rest, d.isAlphanum = true ∨ d = '-' := by
  cases cs with
  | nil => cases h
  | cons c rest =>
    rw [isPropertyTail, Bool.and_eq_true, List.all_eq_true] at h
    exact ⟨c, rest, rfl, h.1, fun d hd => by simpa using h.2 d hd⟩

theorem isPropertyTail_toLower (h : isPropertyTail cs = true) : isPropertyTail (cs.map Char.toLower) = true := by
  obtain ⟨c, rest, rfl, hc, hrest⟩ := exists_of_isPropertyTail h
  rw [List.map_cons, isPropertyTail, Bool.and_eq_true, List.all_eq_true, List.forall_mem_map]
  refine ⟨isAlpha_toLower hc, fun d hd => ?_⟩
  rcases hrest d hd with hd | rfl
  · rw [isAlphanum_toLower hd, Bool.true_or]
  · rfl

/-- The name of a property has two dashes at most, and a letter behind them. -/
theorem isProperty_iff : isProperty name = true ↔
    ∃ n ≤ 2, ∃ cs, isPropertyTail cs = true ∧ name.toList = List.replicate n '-' ++ cs := by
  constructor
  · intro h
    unfold isProperty at h
    split at h
    · next cs heq => exact ⟨2, Nat.le_refl 2, cs, h, heq⟩
    · next cs _ heq => exact ⟨1, Nat.le_succ 1, cs, h, heq⟩
    · exact ⟨0, Nat.zero_le 2, _, h, rfl⟩
  · rintro ⟨n, hn, cs, hcs, heq⟩
    obtain ⟨c, rest, rfl, hc, -⟩ := exists_of_isPropertyTail hcs
    have hdash : c ≠ '-' := by
      rintro rfl
      cases hc
    obtain rfl | rfl | rfl : n = 0 ∨ n = 1 ∨ n = 2 := by omega
    all_goals simp [isProperty, heq, hdash, hcs, List.replicate]

theorem isProperty_lowerAscii (h : isProperty name = true) : isProperty (Text.lowerAscii name) = true := by
  obtain ⟨n, hn, cs, hcs, heq⟩ := isProperty_iff.mp h
  have hdash : '-'.toLower = '-' := toLower_of_not_isAlpha rfl
  refine isProperty_iff.mpr ⟨n, hn, cs.map Char.toLower, isPropertyTail_toLower hcs, ?_⟩
  rw [Text.lowerAscii, String.toList_map, heq, List.map_append, List.map_replicate, hdash]

theorem isAlphanum_of_isProperty (h : isProperty name = true) : ∀ c ∈ name.toList, c.isAlphanum = true ∨ c = '-' := by
  obtain ⟨n, -, cs, hcs, heq⟩ := isProperty_iff.mp h
  obtain ⟨c, rest, rfl, hc, hrest⟩ := exists_of_isPropertyTail hcs
  intro d hd
  rw [heq, List.mem_append, List.mem_cons] at hd
  rcases hd with hd | rfl | hd
  · exact .inr (List.eq_of_mem_replicate hd)
  · exact .inl (by rw [Char.isAlphanum, hc, Bool.true_or])
  · exact hrest d hd

end

/-! ## Payloads -/

theorem exists_of_mem_mapM {α β ε : Type} {f : α → Except ε β} {list : List α} {out : List β}
    (h : list.mapM f = .ok out) : ∀ b ∈ out, ∃ a ∈ list, f a = .ok b := by
  induction list generalizing out with
  | nil =>
    obtain rfl : [] = out := Except.ok.inj h
    exact List.forall_mem_nil _
  | cons a rest ih =>
    rw [List.mapM_cons] at h
    obtain ⟨b, hb, h⟩ := exists_of_bind_eq_ok h
    obtain ⟨bs, hbs, h⟩ := exists_of_bind_eq_ok h
    obtain rfl : b :: bs = out := Except.ok.inj h
    intro c hc
    rcases List.mem_cons.mp hc with rfl | hc
    · exact ⟨a, List.mem_cons_self, hb⟩
    · obtain ⟨x, hx, hfx⟩ := ih hbs c hc
      exact ⟨x, List.mem_cons_of_mem _ hx, hfx⟩

/-- Whether a payload is a list of declarations, not an object. -/
def isDeclarationList (payload : String) : Bool := (Text.trimChars payload.toList).head? != some '\x7b'

theorem styles_eq_bind {payload : String} (h : isDeclarationList payload = true) : styles payload =
    (((Text.pieces (· == ';') (Text.trimChars payload.toList)).map Text.trimChars).filter
        (!·.isEmpty)).mapM ofDeclaration >>= fun pairs =>
      if pairs.isEmpty then .error .noDeclaration else checkNames isProperty .badProperty pairs := by
  have hobject : ((Text.trimChars payload.toList).head? == some '\x7b') = false := by simpa [isDeclarationList] using h
  simp only [styles, hobject]
  rfl

/-- The declarations of a payload are read as they are written, and their names are those of properties. -/
theorem isStable_of_styles {payload : String} {updates : Payload.Pairs} (hlist : isDeclarationList payload = true)
    (h : styles payload = .ok updates) :
    ∀ u ∈ updates, IsStable u ∧ isProperty u.1 = true := by
  rw [styles_eq_bind hlist] at h
  obtain ⟨pairs, hpairs, h⟩ := exists_of_bind_eq_ok h
  split at h
  · cases h
  · obtain ⟨hgood, rfl⟩ := checkNames_ok h
    intro u hu
    obtain ⟨d, hd, rfl⟩ := List.mem_map.mp hu
    have hproperty := hgood d hd
    obtain ⟨part, hpart, hread⟩ := exists_of_mem_mapM hpairs d hd
    obtain ⟨piece, hpiece, rfl⟩ := List.mem_map.mp (List.mem_filter.mp hpart).1
    have hs : ';' ∉ Text.trimChars piece := fun hmem =>
      absurd (Text.mem_pieces hpiece ';' (Text.mem_of_mem_trimChars hmem)) (by decide)
    rw [ofDeclaration] at hread
    split at hread
    · next name value hcut =>
      obtain rfl := Except.ok.inj hread
      have hlower := isProperty_lowerAscii hproperty
      refine ⟨isStable_of_cutAt hcut hs fun hempty => ?_, hlower⟩
      rw [hempty] at hlower
      exact absurd hlower (by decide)
    · cases hread

/-! ## Merging -/

section

variable {name value : String} {updates declarations : Payload.Pairs} {u : String × String}

theorem mem_of_mem_setPair {d : String × String} (h : d ∈ setPair name value declarations) :
    d = (name, value) ∨ d ∈ declarations := by
  induction declarations with
  | nil => exact .inl (List.mem_singleton.mp h)
  | cons p rest ih =>
    obtain ⟨k, v⟩ := p
    rw [setPair] at h
    by_cases hk : k = name
    · rw [if_pos (by simpa using hk), hk] at h
      exact (List.mem_cons.mp h).imp_right (List.mem_cons_of_mem _)
    · rw [if_neg (by simpa using hk)] at h
      rcases List.mem_cons.mp h with rfl | h
      · exact .inr List.mem_cons_self
      · exact (ih h).imp_right (List.mem_cons_of_mem _)

theorem mem_of_mem_foldl_declare {d : String × String} (h : d ∈ updates.foldl declare declarations) :
    d ∈ updates ∨ d ∈ declarations := by
  induction updates generalizing declarations with
  | nil => exact .inr h
  | cons u rest ih =>
    rcases ih h with h | h
    · exact .inl (List.mem_cons_of_mem _ h)
    · rw [declare] at h
      split at h
      · exact .inr (List.mem_filter.mp h).1
      · rcases mem_of_mem_setPair h with rfl | h
        · exact .inl List.mem_cons_self
        · exact .inr h

/-- The values of a property after it has been set: the first one is replaced, and an empty value clears all. -/
def revalue (values : List String) (value : String) : List String :=
  if value.isEmpty then [] else value :: values.tail

theorem valuesAt_declare : valuesAt name (declare declarations u) =
    if u.1 = name then revalue (valuesAt name declarations) u.2 else valuesAt name declarations := by
  rw [declare, revalue]
  by_cases hu : u.1 = name
  · rw [if_pos hu, ← hu, ← valuesAt_setPair_self, ← valuesAt_dropPair_self]
    split <;> rfl
  · rw [if_neg hu]
    split
    · exact valuesAt_dropPair_of_ne (Ne.symm hu)
    · exact valuesAt_setPair_of_ne (Ne.symm hu)

theorem valuesAt_foldl_declare : valuesAt name (updates.foldl declare declarations) =
    (valuesAt name updates).foldl revalue (valuesAt name declarations) := by
  induction updates generalizing declarations with
  | nil => rfl
  | cons u rest ih =>
    rw [List.foldl_cons, ih, valuesAt_declare, valuesAt_cons]
    split <;> rfl

/-- Behind the first value stand those that stood there, unless the property has been cleared. -/
theorem tail_foldl_revalue (given values : List String) :
    (given.foldl revalue values).tail = if "" ∈ given then [] else values.tail := by
  induction given generalizing values with
  | nil => rfl
  | cons v rest ih =>
    rw [List.foldl_cons, ih, revalue]
    by_cases hv : v = ""
    · simp [hv]
    · simp [hv, Ne.symm hv]

theorem valuesAt_foldl_declare_of_last (h : lastValueAt name updates = some value) :
    valuesAt name (updates.foldl declare declarations) =
      if value = "" then []
      else value :: (if "" ∈ valuesAt name updates then [] else (valuesAt name declarations).tail) := by
  obtain ⟨init, hinit⟩ := List.getLast?_eq_some_iff.mp h
  rw [valuesAt_foldl_declare, hinit, List.foldl_append, List.foldl_cons, List.foldl_nil, revalue, tail_foldl_revalue]
  by_cases hvalue : value = ""
  · simp [hvalue]
  · simp [hvalue, Ne.symm hvalue]

/-- Whether declarations give a property a value: the last one counts, and without a value there is none. -/
def Declares (name value : String) (declarations : Payload.Pairs) : Prop :=
  if value = "" then valuesAt name declarations = [] else lastValueAt name declarations = some value

theorem declares_foldl_declare_iff (h : lastValueAt name updates = some value) :
    Declares name value (updates.foldl declare declarations) ↔
      value = "" ∨ "" ∈ valuesAt name updates ∨ ∀ old ∈ (valuesAt name declarations).tail.getLast?, old = value := by
  rw [Declares, lastValueAt, valuesAt_foldl_declare_of_last h]
  by_cases hvalue : value = ""
  · simp [hvalue]
  · by_cases hempty : "" ∈ valuesAt name updates
    · simp [hvalue, hempty]
    · rw [if_neg hvalue, if_neg hvalue, if_neg hempty, List.getLast?_cons]
      cases (valuesAt name declarations).tail.getLast? with
      | none => simp
      | some old => simp [hvalue, hempty]

end

/-! ## Main statement -/

/-- The style among some attributes, which is empty if there is none. -/
def styleIn (pairs : Payload.Pairs) : String := (valueAt "style" pairs).getD ""

theorem mergedStyle_eq (e : Element) (updates : Payload.Pairs) :
    mergedStyle e updates = updates.foldl declare (inlineStyle (styleIn e.attributes)) := by
  rw [mergedStyle, Element.attr?_eq (by decide), styleIn]

theorem styleIn_withStyle (e : Element) (updates : Payload.Pairs) :
    styleIn (withStyle e updates) = writeStyle (mergedStyle e updates) :=
  getD_valueAt_withOrWithout

theorem isStable_mergedStyle {e : Element} {updates : Payload.Pairs} (h : ∀ u ∈ updates, IsStable u) :
    ∀ d ∈ mergedStyle e updates, IsStable d := by
  intro d hd
  rw [mergedStyle_eq] at hd
  exact (mem_of_mem_foldl_declare hd).elim (h d) isStable_of_mem_inlineStyle

/-- What a sound patch for styles asks for, if its payload is a list of declarations. -/
theorem exists_style_of_plan {p : Patch} {plan : Plan} (hplan : p.plan = .ok plan) (haction : p.action = .setStyle)
    (hlist : p.payload?.any isDeclarationList = true) :
    ∃ updates, plan.change = .style updates ∧
      ∀ u ∈ updates, IsStable u ∧ isProperty u.1 = true := by
  have hchange := (Patch.plan_selectors hplan).2
  unfold Patch.change at hchange
  rw [haction] at hchange
  obtain ⟨text, htext, hchange⟩ := exists_of_bind_eq_ok hchange
  obtain ⟨updates, hread, hchange⟩ := exists_of_bind_eq_ok hchange
  refine ⟨updates, (Except.ok.inj hchange).symm, ?_⟩
  have hpayload : p.payload? = some text := by
    cases hp : p.payload? with
    | none =>
      rw [hp] at htext
      cases htext
    | some s =>
      rw [hp] at htext
      rw [Except.ok.inj htext]
  rw [hpayload, Option.any_some] at hlist
  rw [Patch.readPayload] at hread
  split at hread
  · next h =>
    obtain rfl := Except.ok.inj hread
    exact isStable_of_styles hlist h
  · cases hread

theorem Patch.attributes?_of_style {p : Patch} {plan : Plan} {updates : Payload.Pairs} (hplan : p.plan = .ok plan)
    (hchange : plan.change = .style updates) (e : Element) : p.attributes? e = some (withStyle e updates) := by
  rw [attributes?_of_plan hplan, hchange]
  rfl

/-- A sound patch for styles gives a property the last value that it has for it, or removes the property if that
is empty, exactly if it removes the property on the way or the last of the declarations that follow the first one
has the value already. -/
theorem style_patches_take_hold (p : Patch) (plan : Plan) (e : Element) (hplan : p.plan = .ok plan)
    (haction : p.action = .setStyle) (hlist : p.payload?.any isDeclarationList = true) :
    ∃ updates written, plan.change = .style updates ∧ p.attributes? e = some written ∧
      ∀ name ∈ namesIn updates, ∃ value, lastValueAt name updates = some value ∧
        (Declares name value (inlineStyle (styleIn written)) ↔
          value = "" ∨ "" ∈ valuesAt name updates ∨
            ∀ old ∈ (valuesAt name (inlineStyle (styleIn e.attributes))).tail.getLast?, old = value) := by
  obtain ⟨updates, hchange, hupdates⟩ := exists_style_of_plan hplan haction hlist
  have hstable := isStable_mergedStyle (e := e) fun u hu => (hupdates u hu).1
  refine ⟨updates, withStyle e updates, hchange, Patch.attributes?_of_style hplan hchange e, fun name hname => ?_⟩
  obtain ⟨value, hvalue⟩ := Option.isSome_iff_exists.mp (isSome_lastValueAt_iff.mpr hname)
  refine ⟨value, hvalue, ?_⟩
  rw [styleIn_withStyle, inlineStyle_writeStyle hstable, mergedStyle_eq]
  exact declares_foldl_declare_iff hvalue

/-- A colour is set that the element has once, and a margin is removed that it has twice. -/
theorem style_patches_take_hold_colour :
    let e : Element := ⟨0, .html "p", [⟨.plain "style", "COLOR: red; margin: 0; margin: 1px"⟩]⟩
    let p : Patch := { Patch.bare "p" .setStyle with value := some "color: blue; margin: 2px; margin:" }
    p.action = .setStyle ∧ p.payload?.any isDeclarationList = true ∧ ∃ plan written, p.plan = .ok plan ∧
      p.attributes? e = some written ∧ Declares "color" "blue" (inlineStyle (styleIn written)) ∧
        Declares "margin" "" (inlineStyle (styleIn written)) := by
  intro e p
  have haction : p.action = .setStyle := rfl
  have hlist : p.payload?.any isDeclarationList = true := by decide
  have honce : (valuesAt "color" (inlineStyle (styleIn e.attributes))).tail.getLast? = none := by decide +kernel
  obtain ⟨plan, hplan, hasks⟩ : ∃ plan, p.plan = .ok plan ∧
      plan.change = .style [("color", "blue"), ("margin", "2px"), ("margin", "")] :=
    Patch.exists_plan_of_change (by decide +kernel)
  obtain ⟨updates, written, hchange, hwrites, hnames⟩ := style_patches_take_hold p plan e hplan haction hlist
  obtain rfl : updates = [("color", "blue"), ("margin", "2px"), ("margin", "")] :=
    Change.style.inj (hchange.symm.trans hasks)
  obtain ⟨colour, hcolour, hset⟩ := hnames "color" (by decide)
  obtain ⟨margin, hmargin, hremoved⟩ := hnames "margin" (by decide)
  obtain rfl : "blue" = colour := Option.some.inj hcolour
  obtain rfl : "" = margin := Option.some.inj hmargin
  refine ⟨haction, hlist, plan, written, hplan, hwrites, hset.mpr (.inr (.inr ?_)), hremoved.mpr (.inl rfl)⟩
  rw [honce]
  exact fun _ h => nomatch h

/-- Of two colours the first one is set, and the second one counts. -/
theorem second_colour_counts :
    let e : Element := ⟨0, .html "p", [⟨.plain "style", "color: red; color: blue"⟩]⟩
    let p : Patch := { Patch.bare "p" .setStyle with value := some "color: green" }
    p.attributes? e = some [("style", "color: green; color: blue;")] ∧
      lastValueAt "color" (inlineStyle "color: green; color: blue;") = some "blue" := by
  decide +kernel

end PageEdit
