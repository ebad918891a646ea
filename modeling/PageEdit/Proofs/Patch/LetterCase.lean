import PageEdit.Proofs.Html.Pages
import PageEdit.Proofs.Patch.Attributes

/-!
# Names of attributes in capitals

A patch puts the names of attributes that it is given in lower case, and looks for them among the names of an
element, which have capitals if SVG or MathML spell them so. The next reading puts all names in lower case before
it looks for them, and of equal names the first one counts.

* `map_firstNamed_setPairs_eq_iff`, `firstNamed_dropPair_eq_none_iff`: which attribute counts after a patch.
* `spelled_of_mem_elementPlaces`: the names that have capitals on a page.
* `attribute_patches_take_hold`: when the attribute that counts is the one that the patch has written.
-/

namespace PageEdit

open Html

/-- The attribute that counts under a name where capitals do not: the first one. -/
def firstNamed (name : String) (pairs : Payload.Pairs) : Option (String × String) :=
  pairs.find? fun a => Text.sameAscii a.1 name

/-- Whether an attribute has none of some names, whatever its capitals. -/
def isNamedOtherwise (names : List String) (a : String × String) : Bool := !names.any (Text.sameAscii a.1)

section

variable {name other value : String} {pairs updates : Payload.Pairs} {a : String × String}

theorem sameAscii_iff : Text.sameAscii other name = true ↔ other.toList.map Char.toLower = name.toList.map Char.toLower := by
  rw [Text.sameAscii, beq_iff_eq, Text.lowerAscii, Text.lowerAscii, ← String.toList_inj, String.toList_map,
    String.toList_map]

theorem sameAscii_iff_of_lower (h : Text.lowerAscii name = name) (ho : Text.lowerAscii other = other) :
    Text.sameAscii other name = true ↔ other = name := by
  rw [Text.sameAscii, beq_iff_eq, h, ho]

theorem isNamedOtherwise_of_mem {names : List String} (h : name ∈ names) (value : String) :
    isNamedOtherwise names (name, value) = false := by
  rw [isNamedOtherwise, Bool.not_eq_false', List.any_eq_true]
  exact ⟨name, h, beq_self_eq_true _⟩

/-! ## Setting -/

theorem firstNamed_setPair_of_ne (h : Text.sameAscii other name = false) :
    firstNamed name (setPair other value pairs) = firstNamed name pairs := by
  induction pairs with
  | nil => simp [setPair, firstNamed, h]
  | cons p rest ih =>
    obtain ⟨k, v⟩ := p
    rw [setPair]
    unfold firstNamed at ih ⊢
    by_cases hk : k = other
    · simp [hk, h]
    · simp [hk, List.find?_cons, ih]

/-- The attribute that counts after one has been set: an attribute that has been spelled otherwise stays. -/
theorem firstNamed_setPair_self : firstNamed name (setPair name value pairs) =
    match firstNamed name pairs with
    | some a => if a.1 = name then some (name, value) else some a
    | none => some (name, value) := by
  induction pairs with
  | nil => simp [setPair, firstNamed, Text.sameAscii]
  | cons p rest ih =>
    obtain ⟨k, v⟩ := p
    rw [setPair]
    unfold firstNamed at ih ⊢
    by_cases hk : k = name
    · simp [hk, Text.sameAscii]
    · by_cases hsame : Text.sameAscii k name = true
      · simp [hk, hsame]
      · simp [hk, hsame, ih]

/-- An attribute that counts under a name, but is spelled otherwise, counts still when others have been set. -/
theorem firstNamed_setPairs_of_ne (hnames : ∀ n ∈ namesIn updates, IsPlainName n) (hname : IsPlainName name)
    (ha : firstNamed name pairs = some a) (hne : a.1 ≠ name) :
    firstNamed name (setPairs updates pairs) = some a := by
  induction updates generalizing pairs with
  | nil => exact ha
  | cons u rest ih =>
    obtain ⟨hu, hrest⟩ := List.forall_mem_cons.mp hnames
    rw [setPairs_cons]
    refine ih hrest ?_
    by_cases hun : u.1 = name
    · rw [hun, firstNamed_setPair_self, ha]
      exact if_neg hne
    · rw [firstNamed_setPair_of_ne, ha]
      exact Bool.eq_false_iff.mpr (mt (sameAscii_iff_of_lower hname.2 hu.2).mp hun)

theorem firstNamed_setPairs_of_eq (hnames : ∀ n ∈ namesIn updates, IsPlainName n) (hname : IsPlainName name)
    (ha : ∀ a, firstNamed name pairs = some a → a.1 = name) :
    firstNamed name (setPairs updates pairs) =
      ((lastValueAt name updates).map fun v => (name, v)).or (firstNamed name pairs) := by
  induction updates generalizing pairs with
  | nil => rfl
  | cons u rest ih =>
    obtain ⟨hu, hrest⟩ := List.forall_mem_cons.mp hnames
    have hstep : firstNamed name (setPair u.1 u.2 pairs) =
        if u.1 = name then some (name, u.2) else firstNamed name pairs := by
      by_cases hun : u.1 = name
      · rw [if_pos hun, hun, firstNamed_setPair_self]
        cases hfirst : firstNamed name pairs with
        | none => rfl
        | some a => exact if_pos (ha a hfirst)
      · rw [if_neg hun, firstNamed_setPair_of_ne]
        exact Bool.eq_false_iff.mpr (mt (sameAscii_iff_of_lower hname.2 hu.2).mp hun)
    have hnext : ∀ a, firstNamed name (setPair u.1 u.2 pairs) = some a → a.1 = name := by
      intro a hfirst
      rw [hstep] at hfirst
      split at hfirst
      · rw [← Option.some.inj hfirst]
      · exact ha a hfirst
    rw [setPairs_cons, ih hrest hnext, hstep, lastValueAt_cons]
    by_cases hun : u.1 = name
    · cases lastValueAt name rest <;> simp [hun]
    · cases lastValueAt name rest <;> simp [hun]

/-- The last value given for a name counts, unless the attribute that counted before is spelled otherwise and has
another value. -/
theorem map_firstNamed_setPairs_eq_iff (hnames : ∀ n ∈ namesIn updates, IsPlainName n)
    (hname : name ∈ namesIn updates) :
    (firstNamed name (setPairs updates pairs)).map (·.2) = lastValueAt name updates ↔
      ∀ a, firstNamed name pairs = some a → a.1 = name ∨ some a.2 = lastValueAt name updates := by
  by_cases hspelled : ∀ a, firstNamed name pairs = some a → a.1 = name
  · obtain ⟨v, hv⟩ := Option.isSome_iff_exists.mp (isSome_lastValueAt_iff.mpr hname)
    rw [firstNamed_setPairs_of_eq hnames (hnames name hname) hspelled, hv]
    exact iff_of_true rfl fun a ha => .inl (hspelled a ha)
  · simp only [not_forall] at hspelled
    obtain ⟨a, ha, hne⟩ := hspelled
    rw [firstNamed_setPairs_of_ne hnames (hnames name hname) ha hne, ha]
    constructor
    · intro hvalue b hb
      obtain rfl := Option.some.inj hb
      exact .inr hvalue
    · intro h
      exact (h a rfl).resolve_left hne

/-! ## Removing -/

theorem firstNamed_dropPair_eq_none_iff : firstNamed name (dropPair name pairs) = none ↔
    ∀ a ∈ pairs, Text.sameAscii a.1 name = true → a.1 = name := by
  rw [firstNamed, List.find?_eq_none]
  constructor
  · intro h a ha hsame
    by_contra hne
    exact h a (List.mem_filter.mpr ⟨ha, by simpa using hne⟩) hsame
  · intro h a ha hsame
    obtain ⟨hmem, hne⟩ := List.mem_filter.mp ha
    exact absurd (h a hmem hsame) (by simpa using hne)

end

/-! ## Pages -/

/-- The names under which a change sets or removes attributes. -/
def Change.attributeNames : Change → List String
  | .setAttributes pairs => namesIn pairs
  | .dropAttribute name => [name]
  | _ => []

theorem isPlainName_of_mem_attributeNames {c : Change} (h : c.IsWellFormed) {name : String}
    (hname : name ∈ c.attributeNames) : IsPlainName name := by
  cases c with
  | setAttributes pairs => exact h name hname
  | dropAttribute dropped =>
    obtain rfl := List.mem_singleton.mp hname
    exact h
  | _ => exact absurd hname List.not_mem_nil

theorem lowerAscii_of_isLower {s : String} (h : IsLower s) : Text.lowerAscii s = s := by
  rw [Text.lowerAscii, ← String.toList_inj, String.toList_map]
  exact (List.map_congr_left fun c hc => toLower_eq_self (h c hc)).trans (List.map_id _)

theorem isLower_text {name : AttrName} (h : IsLower name.label) : IsLower name.text := by
  have hleads : ∀ space : AttrSpace, ∀ lead, space.lead? = some lead → IsLower lead := by
    intro space lead hlead
    cases space <;> cases hlead <;> exact isLower_of_all (by decide)
  rw [AttrName.text]
  split
  · exact h
  · next lead hlead =>
    intro c hc
    simp only [String.toList_append, List.mem_append] at hc
    obtain (hc | hc) | hc := hc
    · exact hleads _ _ hlead c hc
    · obtain rfl : c = ':' := by simpa using hc
      decide
    · exact h c hc

/-- The attributes of a page have capitals in their names only as SVG and MathML spell them. -/
theorem spelled_of_mem_elementPlaces {html : String} {place : Place}
    (hplace : place ∈ (Document.ofHtml html).elementPlaces) {e : Element} (he : place.element? = some e)
    {a : String × String} (ha : a ∈ e.attributes) : Text.lowerAscii a.1 = a.1 ∨ a.1 ∈ Foreign.capitalAttrs := by
  obtain ⟨attr, hattr, rfl⟩ := List.mem_map.mp ha
  have hfair := (Document.isFair_ofHtml html (.inl hplace) he).attrs attr hattr
  exact hfair.spelled.imp_left fun hlower => lowerAscii_of_isLower (isLower_text hlower)

/-! ## Main statement -/

/-- Setting attributes takes hold under a name exactly if the attribute that counted is spelled alike or had the
value, and removing one takes hold exactly if the element has it in no other spelling. Attributes of other names
stay as they are. On a page, only the names of SVG and MathML that have capitals are ever spelled otherwise. -/
theorem attribute_patches_take_hold (p : Patch) (plan : Plan) (e : Element) (hplan : p.plan = .ok plan) :
    (∀ pairs, plan.change = .setAttributes pairs → ∃ written, p.attributes? e = some written ∧
      (∀ name ∈ namesIn pairs, (firstNamed name written).map (·.2) = lastValueAt name pairs ↔
        ∀ a, firstNamed name e.attributes = some a → a.1 = name ∨ some a.2 = lastValueAt name pairs) ∧
      written.filter (isNamedOtherwise (namesIn pairs)) = e.attributes.filter (isNamedOtherwise (namesIn pairs))) ∧
    (∀ name, plan.change = .dropAttribute name → ∃ written, p.attributes? e = some written ∧
      (firstNamed name written = none ↔ ∀ a ∈ e.attributes, Text.sameAscii a.1 name = true → a.1 = name) ∧
      written.filter (isNamedOtherwise [name]) = e.attributes.filter (isNamedOtherwise [name])) ∧
    ∀ html, ∀ place ∈ (Document.ofHtml html).elementPlaces, place.element? = some e →
      ∀ name ∈ plan.change.attributeNames, ∀ a ∈ e.attributes, Text.sameAscii a.1 name = true →
        a.1 = name ∨ a.1 ∈ Foreign.capitalAttrs := by
  have hwellFormed := Patch.isWellFormed_change (Patch.plan_selectors hplan).2
  rw [Patch.attributes?_of_plan hplan]
  refine ⟨fun pairs hc => ?_, fun name hc => ?_, fun html place hplace he name hname a ha hsame => ?_⟩
  · rw [hc] at hwellFormed ⊢
    refine ⟨_, rfl, fun name hname => map_firstNamed_setPairs_eq_iff hwellFormed hname, filter_setPairs ?_⟩
    intro u hu v
    exact isNamedOtherwise_of_mem (List.mem_map_of_mem hu) v
  · rw [hc]
    exact ⟨_, rfl, firstNamed_dropPair_eq_none_iff,
      filter_dropPair (isNamedOtherwise_of_mem (List.mem_singleton_self name))⟩
  · refine (spelled_of_mem_elementPlaces hplace he ha).imp_left fun hlower => ?_
    have hplain := isPlainName_of_mem_attributeNames hwellFormed hname
    exact (sameAscii_iff_of_lower hplain.2 hlower).mp hsame

/-- A title is set, whatever the capitals of the payload, and the language stays. -/
theorem attribute_patches_take_hold_title :
    let e : Element := ⟨0, .html "p", [⟨.plain "lang", "en"⟩, ⟨.plain "title", "x"⟩]⟩
    let p : Patch := { Patch.bare "p" .setAttribute with value := some "Title=y" }
    ∃ plan written, p.plan = .ok plan ∧ p.attributes? e = some written ∧
      (firstNamed "title" written).map (·.2) = some "y" ∧
      written.filter (isNamedOtherwise ["title"]) = [("lang", "en")] := by
  intro e p
  have hspelled : firstNamed "title" e.attributes = some ("title", "x") := by decide +kernel
  have hothers : e.attributes.filter (isNamedOtherwise ["title"]) = [("lang", "en")] := by decide +kernel
  obtain ⟨plan, hplan, hchange⟩ : ∃ plan, p.plan = .ok plan ∧ plan.change = .setAttributes [("title", "y")] :=
    Patch.exists_plan_of_change (by decide +kernel)
  obtain ⟨written, hwrites, hcounts, hrest⟩ := (attribute_patches_take_hold p plan e hplan).1 _ hchange
  refine ⟨plan, written, hplan, hwrites, ?_, hrest.trans hothers⟩
  rw [(hcounts "title" (List.mem_singleton_self _)).mpr fun a ha => .inl ?_]
  · decide
  · rw [hspelled] at ha
    rw [← Option.some.inj ha]

/-- The view of a drawing gets a second attribute when it is set, which does not count, and stays when it is
removed. -/
theorem viewBox_keeps_its_value :
    let svg : Element := ⟨4, ⟨.svg, "svg"⟩, [⟨.plain "viewBox", "0 0 1 1"⟩]⟩
    let set : Patch := { Patch.bare "svg" .setAttribute with value := some "viewBox=0 0 2 2" }
    let drop : Patch := { Patch.bare "svg" .removeAttribute with value := some "viewBox" }
    svg ∈ (Document.ofHtml "<svg viewBox=\"0 0 1 1\"></svg>").elementPlaces.filterMap Place.element? ∧
      set.attributes? svg = some [("viewBox", "0 0 1 1"), ("viewbox", "0 0 2 2")] ∧
      firstNamed "viewbox" [("viewBox", "0 0 1 1"), ("viewbox", "0 0 2 2")] = some ("viewBox", "0 0 1 1") ∧
      drop.attributes? svg = some [("viewBox", "0 0 1 1")] ∧
      firstNamed "viewbox" [("viewBox", "0 0 1 1")] = some ("viewBox", "0 0 1 1") := by
  have hsame : Text.sameAscii "viewBox" "viewbox" = true := sameAscii_iff.mpr (by decide)
  intro svg set drop
  refine ⟨by decide +kernel, by decide +kernel, ?_, by decide +kernel, ?_⟩
  · exact List.find?_cons_of_pos hsame
  · exact List.find?_cons_of_pos hsame

end PageEdit
