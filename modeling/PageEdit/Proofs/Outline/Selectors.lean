import PageEdit.Css.Matches
import PageEdit.Patch.Check
import PageEdit.Proofs.Css.Compounds
import PageEdit.Proofs.Html.Pages
import PageEdit.Proofs.Outline.Sections

/-!
# Selectors that address what they are made from

The selector of an entry is text that is trimmed and read again. It is made of the section that an element marks,
between quotes; or of its identifier, written as a name; or of its label as it is, with classes as names. What
has been written is read back, and the element passes the tests that come out, as its names and attributes are
those of a page that has been read: they hold no U+0000, and its label begins with a letter and has no capitals
in HTML.

It is not read back where nothing is written for what cannot stand as it is: for a line break, for what a label
holds besides name characters, and for a blank that trimming takes from the end. A section or an identifier is
then refused or read as another one; a label that is cut short may by chance still be that of the element.

* `addresses_section`, `addresses_id`: exactly which sections and identifiers are read back.
* `selectors_address_what_they_say`: the selectors of the entries of a page.
-/

namespace PageEdit

open Html Css

variable {doc : Document} {p : Place} {e : Element}

/-! ## Selectors of patches -/

/-- Whether a patch with this selector is for the element at a place: the selector can be read, and the place
is among those that it picks. -/
def Addresses (selector : String) (doc : Document) (p : Place) : Prop :=
  ∀ patch : Patch, patch.selector = selector →
    ∃ selectors, patch.selectors = .ok selectors ∧ p ∈ Css.select selectors doc

section

variable {selector text : String} (htrim : Text.trim selector = text) (hne : text.toList ≠ [])

include htrim hne

/-- A patch has the selectors that are read in its trimmed text. -/
theorem Patch.selectors_eq_ok {patch : Patch} {selectors : List Selector} (hp : patch.selector = selector) :
    patch.selectors = .ok selectors ↔ Selector.parse text = .ok selectors := by
  have hempty : text.isEmpty = false := by
    rw [← Bool.not_eq_true, String.isEmpty_iff, ← String.toList_inj]
    exact hne
  simp only [Patch.selectors, hp, htrim, hempty, Bool.false_eq_true, if_false]
  cases Selector.parse text <;> simp

theorem addresses_iff :
    Addresses selector doc p ↔ p ∈ doc.elementPlaces ∧
      ∃ selectors, Selector.parse text = .ok selectors ∧ anyMatches none p selectors = true := by
  constructor
  · intro h
    obtain ⟨selectors, hselectors, hpick⟩ := h (.bare selector .removeElement) rfl
    obtain ⟨hp, hmatch⟩ := List.mem_filter.mp hpick
    exact ⟨hp, selectors, (Patch.selectors_eq_ok htrim hne rfl).mp hselectors, hmatch⟩
  · rintro ⟨hp, selectors, hparse, hmatch⟩ patch hpatch
    exact ⟨selectors, (Patch.selectors_eq_ok htrim hne hpatch).mpr hparse, List.mem_filter.mpr ⟨hp, hmatch⟩⟩

/-- A selector that is one chain of tests addresses the elements that pass them. -/
theorem addresses_of_tests {tests : List Test} (hparse : Selector.parse text = .ok [.tests tests])
    (hp : p ∈ doc.elementPlaces) (he : p.element? = some e) :
    Addresses selector doc p ↔ allHold none p e tests = true := by
  rw [addresses_iff htrim hne, and_iff_right hp, hparse]
  simp [anyMatches, Selector.holds, he]

theorem not_addresses_of_error (h : ∃ fault, Selector.parse text = .error fault) :
    ¬ Addresses selector doc p := by
  rw [addresses_iff htrim hne]
  rintro ⟨-, selectors, hparse, -⟩
  obtain ⟨fault, hfault⟩ := h
  rw [hfault] at hparse
  cases hparse

end

/-! ## Attributes -/

theorem exists_attr_of_attr? {label value : String} (h : e.attr? label = some value) :
    ∃ a ∈ e.attrs, a.name = AttrName.plain label ∧ a.value = value := by
  obtain ⟨a, hfind, rfl⟩ := Option.map_eq_some_iff.mp h
  exact ⟨a, List.mem_of_find?_eq_some hfind, by simpa using List.find?_some hfind, rfl⟩

theorem exists_attr_of_section? {id : String} (h : e.section? = some id) :
    ∃ a ∈ e.attrs, a.name = AttrName.plain sectionAttr ∧ a.value = id :=
  exists_attr_of_attr? (Option.filter_eq_some_iff.mp h).1

theorem foldName_sectionAttr (e : Element) : foldName e sectionAttr = sectionAttr := by
  have hlower : sectionAttr.map Char.toLower = sectionAttr := by decide +kernel
  rw [foldName, hlower, ite_self]

theorem holds_of_section? {id : String} (h : e.section? = some id) :
    AttrTest.holds ⟨sectionAttr, false, some (.equal, id, .exact)⟩ e = true := by
  obtain ⟨a, ha, hname, hvalue⟩ := exists_attr_of_section? h
  simp only [AttrTest.holds, foldName_sectionAttr, List.any_eq_true]
  exact ⟨a, ha, by simp [hname, AttrName.plain, hvalue, Comparison.holds]⟩

/-- A class that is listed is one that the element has. -/
theorem hasClass_of_mem_classes {c : String} (h : c ∈ e.classes) : hasClass e c = true := by
  rw [Element.classes, Order.mem_distinct] at h
  cases hattr : e.attr? "class" with
  | none =>
    rw [hattr] at h
    exact absurd h List.not_mem_nil
  | some value =>
    obtain ⟨a, ha, hname, hvalue⟩ := exists_attr_of_attr? hattr
    rw [hattr, Option.getD_some] at h
    exact List.any_eq_true.mpr ⟨a, ha, by simp [hname, AttrName.plain, hvalue, h]⟩

/-! ## What can be said -/

namespace Outline

/-- Whether a text has a character that ends a line of a style sheet. -/
def hasLineBreak (s : String) : Bool := s.toList.any Lexer.isNewline

/-- Whether a text ends in a blank, such as are taken off a selector. -/
def endsInBlank (s : String) : Bool := s.toList.getLast?.any Text.isBlank

/-- Whether the selector of an element says what it is meant to say. No escape is made for a line break, or for
what a label may hold besides name characters, and a blank at the end of a selector is not read. -/
def isSayable (e : Element) : Bool :=
  match e.section? with
  | some id => !hasLineBreak id
  | none =>
    match e.id?.filter (!·.isEmpty) with
    | some id => !hasLineBreak id && !endsInBlank id
    | none => e.label.toList.all isNameChar && !endsInBlank ((e.classes.take classLimit).getLastD e.label)

theorem isWritable_of_mem_classes (hfair : ∀ a ∈ e.attrs, a.IsFair) {c : String} (h : c ∈ e.classes) :
    IsWritable c := by
  rw [Element.classes, Order.mem_distinct] at h
  have hword := Text.isWord_of_mem_splitAsciiBlanks h
  refine ⟨hword.1, fun d hd => ?_, fun hnull => ?_⟩
  · have hblank := hword.2 d hd
    simp only [Text.isAsciiBlank, Bool.or_eq_false_iff] at hblank
    simp [Lexer.isNewline, hblank]
  · cases hattr : e.attr? "class" with
    | none =>
      rw [hattr] at h
      exact absurd h List.not_mem_nil
    | some value =>
      obtain ⟨a, ha, -, rfl⟩ := exists_attr_of_attr? hattr
      rw [hattr, Option.getD_some] at h
      exact (hfair a ha).value (Text.mem_of_mem_splitAsciiBlanks h hnull)

/-! ### Sections -/

theorem toList_sectionSelector (id : String) : (sectionSelector id).toList =
    '[' :: (sectionAttr.toList ++ '=' :: '\'' :: (quoteChars id.toList ++ ['\'', ']'])) := by
  simp [sectionSelector]

theorem trim_sectionSelector (id : String) : Text.trim (sectionSelector id) = sectionSelector id := by
  rw [Text.trim, Text.trimChars_eq_self, String.ofList_toList] <;> rw [toList_sectionSelector] <;> intro c hc
  · obtain rfl : '[' = c := Option.some.inj hc
    decide
  · have hlast : c = ']' := by simpa [List.getLast?_cons, List.getLast?_append, eq_comm] using hc
    rw [hlast]
    decide

/-- The selector of a section addresses what marks it, unless there is a line break in it. -/
theorem addresses_section {id : String} (hp : p ∈ doc.elementPlaces) (he : p.element? = some e)
    (hfair : Build.IsFairElement e.name e.attrs) (hsection : e.section? = some id) :
    Addresses (sectionSelector id) doc p ↔ hasLineBreak id = false := by
  have hne : (sectionSelector id).toList ≠ [] := by
    rw [toList_sectionSelector]
    exact List.cons_ne_nil _ _
  cases hline : hasLineBreak id with
  | true =>
    have herror :=
      Selector.exists_error_of_section (by simpa [hasLineBreak] using hline) (toList_sectionSelector id)
    simpa using not_addresses_of_error (trim_sectionSelector id) hne herror
  | false =>
    obtain ⟨a, ha, -, hvalue⟩ := exists_attr_of_section? hsection
    have hnull : '\x00' ∉ id.toList := hvalue ▸ (hfair.attrs a ha).value
    have hparse := Selector.parse_section (by simpa [hasLineBreak] using hline) (toList_sectionSelector id)
    rw [map_readAs hnull, String.ofList_toList] at hparse
    rw [addresses_of_tests (trim_sectionSelector id) hne hparse hp he]
    simp [allHold, Test.holds, holds_of_section? hsection]

/-! ### Identifiers -/

theorem trim_idSelector (id : String) :
    Text.trim ("#" ++ Css.ident id) = String.ofList ('#' :: Text.trimEnd (identChars id.toList)) := by
  have htext : ("#" ++ Css.ident id).toList = ['#'] ++ identChars id.toList := by simp [Css.ident]
  rw [Text.trim, htext, Text.trimChars_append]
  · rfl
  · intro c hc
    obtain rfl : '#' = c := Option.some.inj hc
    decide
  · intro c hc
    obtain rfl : '#' = c := Option.some.inj hc
    decide

/-- The selector of an identifier addresses what has it, unless there is a line break in it or a blank at its
end. -/
theorem addresses_id {id : String} (hp : p ∈ doc.elementPlaces) (he : p.element? = some e)
    (hfair : Build.IsFairElement e.name e.attrs) (hid : e.id?.filter (!·.isEmpty) = some id) :
    Addresses ("#" ++ Css.ident id) doc p ↔ hasLineBreak id = false ∧ endsInBlank id = false := by
  obtain ⟨hvalue, hempty⟩ := Option.filter_eq_some_iff.mp hid
  obtain ⟨a, ha, rfl⟩ := Option.map_eq_some_iff.mp hvalue
  have hne : a.value.toList ≠ [] := by simpa using hempty
  have hnull := (hfair.attrs a (List.mem_of_find?_eq_some ha)).value
  have htrim := trim_idSelector a.value
  have htext : (String.ofList ('#' :: Text.trimEnd (identChars a.value.toList))).toList ≠ [] := by simp
  have hbare : (hasLineBreak a.value = false ∧ endsInBlank a.value = false) ↔
      (∀ c ∈ a.value.toList, Lexer.isNewline c = false) ∧
        ∀ c ∈ a.value.toList.getLast?, Text.isBlank c = false := by
    simp [hasLineBreak, endsInBlank, Option.any_eq_false]
  rw [hbare]
  constructor
  · intro h
    rcases Selector.parse_trimmed_id hne hnull String.toList_ofList with herror | ⟨n, hparse, hsame⟩
    · exact absurd h (not_addresses_of_error htrim htext herror)
    · rw [addresses_of_tests htrim htext hparse hp he] at h
      have hname : a.value = String.ofList n := by simpa [allHold, Test.holds, hvalue] using h
      exact hsame (by rw [hname, String.toList_ofList])
  · rintro ⟨hline, hblank⟩
    have hspells := IsWritable.spells_trimEnd ⟨hne, hline, hnull⟩ hblank
    have hparse := Selector.parse_id String.toList_ofList hspells
    rw [String.ofList_toList] at hparse
    rw [addresses_of_tests htrim htext hparse hp he]
    simp [allHold, Test.holds, hvalue]

/-! ### Labels with classes -/

theorem foldName_label (hfair : e.name.IsFair) : foldName e e.label = e.label := by
  rw [foldName]
  split
  · next h =>
    have hlower : ∀ c ∈ e.label.toList, c.toLower = c := fun c hc =>
      toLower_eq_self (hfair.lower (by simpa using h) c hc)
    rw [← String.toList_inj, String.toList_map, List.map_congr_left hlower, List.map_id']
  · rfl

theorem allHold_classes {names : List String} (h : ∀ c ∈ names, hasClass e c = true) :
    allHold none p e (names.map .cls) = true := by
  induction names with
  | nil => rfl
  | cons c names ih =>
    rw [List.forall_mem_cons] at h
    rw [List.map_cons, allHold, Test.holds, h.1, ih h.2, Bool.and_true]

/-- The selector of a label with classes addresses what has them, if the label is made of name characters and
what is named last does not end in a blank. -/
theorem addresses_classes (hp : p ∈ doc.elementPlaces) (he : p.element? = some e)
    (hfair : Build.IsFairElement e.name e.attrs) (hlabel : e.label.toList.all isNameChar = true)
    (hblank : endsInBlank ((e.classes.take classLimit).getLastD e.label) = false) :
    Addresses (e.label ++ String.join ((e.classes.take classLimit).map fun c => "." ++ Css.ident c))
      doc p := by
  have hclasses : ∀ c ∈ e.classes.take classLimit, IsWritable c ∧ hasClass e c = true := fun c hc =>
    have hmem := List.mem_of_mem_take hc
    ⟨isWritable_of_mem_classes hfair.attrs hmem, hasClass_of_mem_classes hmem⟩
  generalize e.classes.take classLimit = names at hblank hclasses
  have htext : (e.label ++ String.join (names.map fun c => "." ++ Css.ident c)).toList =
      e.label.toList ++ classText names := by
    simp [String.toList_join, classText, Css.ident, List.flatMap_map]
  have htokens := lexes_trimChars hfair.name.first (List.all_eq_true.mp hlabel) (fun c hc => (hclasses c hc).1)
    (by simpa [endsInBlank, Option.any_eq_false] using hblank)
  rw [← htext] at htokens
  generalize e.label ++ String.join (names.map fun c => "." ++ Css.ident c) = selector at htokens
  have hlexes : Lexes (Text.trim selector).toList (.ident e.label :: classTokens names) [] := by
    rwa [Text.trim, String.toList_ofList]
  have hne : (Text.trim selector).toList ≠ [] := fun hnil => by
    rw [hnil] at hlexes
    exact absurd hlexes.tokens_eq (List.cons_ne_nil _ _).symm
  rw [addresses_of_tests rfl hne (Selector.parse_classes hlexes) hp he, allHold, Test.holds,
    foldName_label hfair.name, beq_self_eq_true, Bool.true_and]
  exact allHold_classes fun c hc => (hclasses c hc).2

/-! ### Main statement -/

/-- Whether the selector of an element is made of its section or its identifier. -/
def isNamed (e : Element) : Bool := e.section?.isSome || (e.id?.filter (!·.isEmpty)).isSome

/-- What the selector of an entry comes to. -/
structure Entry.Points (doc : Document) (entry : Entry) (p : Place) : Prop where
  shows : entry.Shows p
  /-- What can be said addresses the element. -/
  addresses : ∀ e, p.element? = some e → isSayable e = true → Addresses entry.selector doc p
  /-- A section or an identifier does so only then. -/
  only : ∀ e, p.element? = some e → isNamed e = true → Addresses entry.selector doc p → isSayable e = true

theorem addresses_selectorOf (hp : p ∈ doc.elementPlaces) (he : p.element? = some e)
    (hfair : Build.IsFairElement e.name e.attrs) :
    (isSayable e = true → Addresses (selectorOf e) doc p) ∧
      (isNamed e = true → Addresses (selectorOf e) doc p → isSayable e = true) := by
  cases hsection : e.section? with
  | some id =>
    have hiff := addresses_section hp he hfair hsection
    simp only [isSayable, selectorOf, hsection, Bool.not_eq_true']
    exact ⟨hiff.mpr, fun _ => hiff.mp⟩
  | none =>
    cases hid : e.id?.filter (!·.isEmpty) with
    | some id =>
      have hiff := addresses_id hp he hfair hid
      simp only [isSayable, selectorOf, hsection, hid, Bool.and_eq_true, Bool.not_eq_true']
      exact ⟨hiff.mpr, fun _ => hiff.mp⟩
    | none =>
      simp only [isSayable, selectorOf, isNamed, hsection, hid, Bool.and_eq_true, Bool.not_eq_true']
      exact ⟨fun h => addresses_classes hp he hfair h.1 h.2, fun h => nomatch h⟩

/-- The selector of every entry of a page addresses the element that the entry is for, if it can say what it is
meant to say, and for a section or an identifier only then. -/
theorem selectors_address_what_they_say (html : String) :
    List.Forall₂ (Entry.Points (.ofHtml html)) (ofHtml html).entries
      (shownElements (Document.ofHtml html).bodyPlace) := by
  have htop := Document.bodyPlace_mem_places html
  have hfair := fun p hp => @Document.isFair_ofHtml html p (.inl hp)
  have hforall : List.Forall₂ Entry.Shows (ofHtml html).entries
      (shownElements (Document.ofHtml html).bodyPlace) := (forall₂_ofDocument _ _ _).imp fun _ _ h => h.1
  generalize Document.ofHtml html = doc at htop hfair hforall ⊢
  rw [List.forall₂_iff_zip] at hforall ⊢
  refine ⟨hforall.1, fun {entry p} hmem => ?_⟩
  have hshows := hforall.2 hmem
  obtain ⟨e, he, -, -, hselector, -⟩ := hshows.element
  have hplace :=
    Document.subtree_subset_places htop (mem_subtree_of_mem_shownElements (List.of_mem_zip hmem).2)
  have hp : p ∈ doc.elementPlaces :=
    Document.mem_elementPlaces.mpr ⟨.inl hplace, Document.isAttached_of_mem_places hplace,
      Option.isSome_iff_exists.mpr ⟨e, he⟩⟩
  have hpoints := addresses_selectorOf hp he (hfair p hp he)
  rw [← hselector] at hpoints
  refine ⟨hshows, fun e' he' => ?_, fun e' he' => ?_⟩
  · obtain rfl : e = e' := Option.some.inj (he.symm.trans he')
    exact hpoints.1
  · obtain rfl : e = e' := Option.some.inj (he.symm.trans he')
    exact hpoints.2

/-- A selector that addresses something can be read. -/
theorem isSome_selectors_of_addresses {entries : List Entry} {places : List Place}
    (h : List.Forall₂ (fun entry p => Addresses entry.selector doc p) entries places) :
    ∀ entry ∈ entries, (Patch.bare entry.selector .removeElement).selectors.toOption.isSome = true := by
  induction h with
  | nil => exact fun _ h => absurd h List.not_mem_nil
  | cons haddresses _ ih =>
    refine List.forall_mem_cons.mpr ⟨?_, ih⟩
    obtain ⟨selectors, hselectors, -⟩ := haddresses (.bare _ .removeElement) rfl
    rw [hselectors]
    rfl

/-- An identifier with a line break in it comes to a selector that is refused. -/
theorem not_addresses_line_break :
    ¬ List.Forall₂ (fun entry p => Addresses entry.selector (.ofHtml "<p id=\"a\nb\">x</p>") p)
      (ofHtml "<p id=\"a\nb\">x</p>").entries
      (shownElements (Document.ofHtml "<p id=\"a\nb\">x</p>").bodyPlace) := by
  intro h
  have hrefused : ¬ ∀ entry ∈ (ofHtml "<p id=\"a\nb\">x</p>").entries,
      (Patch.bare entry.selector .removeElement).selectors.toOption.isSome = true := by
    decide +kernel
  exact hrefused (isSome_selectors_of_addresses h)

end Outline

end PageEdit
