import PageEdit.Patch.Inverse
import PageEdit.Proofs.Html.Shape
import PageEdit.Proofs.Json.Texts
import PageEdit.Proofs.Text.Words

/-!
# What undoes a change of an element

The inverse of a patch is made of patches with its selector. They are always sound, and what they ask for is
told by the change: to restore values of attributes, to swap classes back, or to put the old content in
again. On an element that looks as the change has left it, they lead back to how it looked before.

* `Inverse.map_change_ofChange`: the patches of an inverse are sound, and ask for `Inverse.changes`.
* `Inverse.leadsBack_changes`: the changes of an inverse lead back.
-/

namespace PageEdit

open Html

/-! ## Lists of attributes as maps -/

section Pairs

variable {name other value : String} {pairs : Payload.Pairs}

theorem valueAt_setPair_self : valueAt name (setPair name value pairs) = some value := by
  rw [valueAt, setPair_find, Option.map_some]

theorem valueAt_setPair_of_ne (h : other ≠ name) :
    valueAt other (setPair name value pairs) = valueAt other pairs := by
  induction pairs with
  | nil => simp [setPair, valueAt, h.symm]
  | cons p rest ih =>
    obtain ⟨k, v⟩ := p
    rw [setPair]
    split
    · rename_i hk
      obtain rfl := eq_of_beq hk
      simp [valueAt, h.symm]
    · unfold valueAt at ih ⊢
      rw [List.find?_cons, List.find?_cons]
      split
      · rfl
      · exact ih

theorem valueAt_dropPair_self : valueAt name (dropPair name pairs) = none := by
  rw [valueAt, dropPair, List.find?_eq_none.mpr, Option.map_none]
  intro p hp
  simpa using (List.mem_filter.mp hp).2

theorem valueAt_dropPair_of_ne (h : other ≠ name) :
    valueAt other (dropPair name pairs) = valueAt other pairs := by
  rw [valueAt, valueAt, dropPair, List.find?_filter]
  congr 2
  funext p
  by_cases hp : p.1 = other <;> simp [hp, h]

theorem valueAt_setPairs_of_notMem {updates : Payload.Pairs} (h : other ∉ updates.map (·.1)) :
    valueAt other (setPairs updates pairs) = valueAt other pairs := by
  induction updates generalizing pairs with
  | nil => rfl
  | cons u rest ih =>
    obtain ⟨hu, hrest⟩ := not_or.mp (mt List.mem_cons.mpr h)
    rw [setPairs, List.foldl_cons, ← setPairs, ih hrest, valueAt_setPair_of_ne hu]

theorem valueAt_withOrWithout_self {e : Element} {text : String} :
    valueAt name (withOrWithout e name text) = if text.isEmpty then none else some text := by
  rw [withOrWithout]
  split
  · exact valueAt_dropPair_self
  · exact valueAt_setPair_self

theorem getD_valueAt_withOrWithout {e : Element} {text : String} :
    (valueAt name (withOrWithout e name text)).getD "" = text := by
  rw [valueAt_withOrWithout_self]
  split
  · next hempty => rw [Option.getD_none, String.isEmpty_iff.mp hempty]
  · rw [Option.getD_some]

theorem valueAt_withOrWithout_of_ne {e : Element} {text : String} (h : other ≠ name) :
    valueAt other (withOrWithout e name text) = valueAt other e.attributes := by
  rw [withOrWithout]
  split
  · exact valueAt_dropPair_of_ne h
  · exact valueAt_setPair_of_ne h

end Pairs

/-! ## Names of attributes -/

/-- Whether a text is the name of an attribute in lower case. -/
def IsPlainName (name : String) : Prop :=
  Payload.isAttrName name = true ∧ Text.lowerAscii name = name

theorem isNameChar_toLower {c : Char} (h : Payload.isNameChar c = true) :
    Payload.isNameChar c.toLower = true ∧ c.toLower.toLower = c.toLower := by
  -- no character from 91 on is changed, and those before can be gone through
  have hletters : ∀ n < 91, Payload.isNameChar (Char.ofNat n) = true →
      Payload.isNameChar (Char.ofNat n).toLower = true ∧
        (Char.ofNat n).toLower.toLower = (Char.ofNat n).toLower := by
    decide
  by_cases hc : c.toNat < 91
  · simpa only [Char.ofNat_toNat] using hletters c.toNat hc (by rwa [Char.ofNat_toNat])
  · have hlarge : ¬ (c.val ≥ 'A'.val ∧ c.val ≤ 'Z'.val) := by
      rintro ⟨-, hle⟩
      exact hc (Nat.lt_succ_of_le hle)
    have hsame : c.toLower = c := dif_neg hlarge
    rw [hsame]
    exact ⟨h, hsame⟩

theorem isPlainName_lowerAscii {name : String} (h : Payload.isAttrName name = true) :
    IsPlainName (Text.lowerAscii name) := by
  rw [Payload.isAttrName, Bool.and_eq_true, List.all_eq_true] at h
  obtain ⟨hne, hall⟩ := h
  constructor
  · rw [Payload.isAttrName, Bool.and_eq_true, List.all_eq_true]
    refine ⟨by simpa [Text.lowerAscii] using hne, fun c hc => ?_⟩
    rw [Text.lowerAscii, String.toList_map, List.mem_map] at hc
    obtain ⟨d, hd, rfl⟩ := hc
    exact (isNameChar_toLower (hall d hd)).1
  · rw [← String.toList_inj, Text.lowerAscii, Text.lowerAscii, String.toList_map, String.toList_map,
      List.map_map]
    exact List.map_congr_left fun c hc => (isNameChar_toLower (hall c hc)).2

theorem isPlainName_style : IsPlainName "style" := by
  refine ⟨by decide, ?_⟩
  rw [Text.lowerAscii, ← String.toList_inj, String.toList_map]
  decide

theorem IsPlainName.isWord {name : String} (h : IsPlainName name) : Text.IsWord Text.isBlank name := by
  have hattr := h.1
  rw [Payload.isAttrName, Bool.and_eq_true, List.all_eq_true] at hattr
  obtain ⟨hne, hall⟩ := hattr
  refine ⟨by simpa using hne, fun c hc => ?_⟩
  have hchar := hall c hc
  simp only [Payload.isNameChar, Bool.not_eq_true', Bool.or_eq_false_iff] at hchar
  exact hchar.1.1.1.1.1.1

/-! ## Changes that patches ask for -/

/-- Whether classes are words and names are plain, as they are in what patches ask for. -/
def Change.IsWellFormed : Change → Prop
  | .classes removed added => ∀ c ∈ removed ++ added, Text.IsWord Text.isBlank c
  | .setAttributes pairs => ∀ name ∈ pairs.map (·.1), IsPlainName name
  | .dropAttribute name => IsPlainName name
  | _ => True

theorem exists_of_bind_eq_ok {ε α β : Type} {x : Except ε α} {f : α → Except ε β} {b : β}
    (h : x >>= f = .ok b) : ∃ a, x = .ok a ∧ f a = .ok b := by
  cases x with
  | error e => cases h
  | ok a => exact ⟨a, rfl, h⟩

/-- Attributes are read from an object or from one assignment, and then their names are checked. -/
theorem attributes_eq_bind (payload : String) : Payload.attributes payload =
    (if (Text.trimChars payload.toList).head? == some '\x7b'
      then Payload.ofObject (String.ofList (Text.trimChars payload.toList))
      else .ok [Payload.ofAssignment (Text.trimChars payload.toList)]) >>= fun pairs =>
        if pairs.isEmpty then .error .noAttribute
        else Payload.checkNames Payload.isAttrName .badName pairs := by
  simp only [Payload.attributes]
  cases (Text.trimChars payload.toList).head? == some '\x7b' with
  | true => rw [if_pos rfl, if_pos rfl]
  | false => rw [if_neg Bool.false_ne_true, if_neg Bool.false_ne_true]

theorem isPlainName_of_attributes {payload : String} {pairs : Payload.Pairs}
    (h : Payload.attributes payload = .ok pairs) : ∀ name ∈ pairs.map (·.1), IsPlainName name := by
  rw [attributes_eq_bind] at h
  obtain ⟨read, -, hread⟩ := exists_of_bind_eq_ok h
  split at hread
  · cases hread
  · obtain ⟨hgood, rfl⟩ := Payload.checkNames_ok hread
    intro name hname
    obtain ⟨_, hp, rfl⟩ := List.mem_map.mp hname
    obtain ⟨q, hq, rfl⟩ := List.mem_map.mp hp
    exact isPlainName_lowerAscii (hgood q hq)

namespace Patch

theorem isPlainName_dropName {p : Patch} {name : String} (h : p.dropName = .ok name) :
    IsPlainName name := by
  unfold dropName at h
  split at h
  · split at h
    · cases h
    split at h
    · rename_i hattr
      obtain rfl := Except.ok.inj h
      exact isPlainName_lowerAscii hattr
    · cases h
  · cases h

theorem isWellFormed_change {p : Patch} {c : Change} (h : p.change = .ok c) : c.IsWellFormed := by
  unfold change at h
  cases haction : p.action <;> rw [haction] at h
  case addClass | removeClass =>
    obtain ⟨text, -, hc⟩ := exists_of_bind_eq_ok h
    obtain rfl := Except.ok.inj hc
    simpa [Change.IsWellFormed] using fun c => Text.isWord_of_mem_splitBlanks
  case replaceClass =>
    obtain ⟨old, -, h⟩ := exists_of_bind_eq_ok h
    obtain ⟨new, -, hc⟩ := exists_of_bind_eq_ok h
    obtain rfl := Except.ok.inj hc
    exact List.forall_mem_append.mpr
      ⟨fun c => Text.isWord_of_mem_splitBlanks, fun c => Text.isWord_of_mem_splitBlanks⟩
  case setAttribute =>
    obtain ⟨text, -, h⟩ := exists_of_bind_eq_ok h
    obtain ⟨pairs, hpairs, hc⟩ := exists_of_bind_eq_ok h
    obtain rfl := Except.ok.inj hc
    unfold readPayload at hpairs
    split at hpairs
    · rename_i hread
      obtain rfl := Except.ok.inj hpairs
      exact isPlainName_of_attributes hread
    · cases hpairs
  case removeAttribute =>
    obtain ⟨name, hname, hc⟩ := exists_of_bind_eq_ok h
    obtain rfl := Except.ok.inj hc
    exact isPlainName_dropName hname
  case setText | setHtml | appendChild | prependChild =>
    obtain ⟨text, -, hc⟩ := exists_of_bind_eq_ok h
    obtain rfl := Except.ok.inj hc
    trivial
  case setStyle =>
    obtain ⟨text, -, h⟩ := exists_of_bind_eq_ok h
    obtain ⟨pairs, hpairs, hc⟩ := exists_of_bind_eq_ok h
    obtain rfl := Except.ok.inj hc
    trivial
  case removeElement =>
    obtain rfl := Except.ok.inj h
    trivial

end Patch

/-! ## The patches of an inverse -/

namespace Inverse

/-- The change that gives an attribute its old value again, or takes it away. -/
def restoring (name : String) : Option String → Change
  | some value => .setAttributes [(name, value)]
  | none => .dropAttribute name

/-- What the patches ask for that take back a change of the element at a node. -/
def changes (e : Element) (node : Node) : Change → List Change
  | .classes removed added =>
    let (taken, given) := classChanges e.classes removed added
    if taken = [] ∧ given = [] then [] else [.classes given taken]
  | .setText _ | .setHtml _ | .append _ | .prepend _ => [.setHtml node.innerMarkup]
  | .setAttributes pairs => (pairs.map (·.1)).map fun name => restoring name (e.attribute? name)
  | .dropAttribute name =>
    if (e.attribute? name).isSome then [restoring name (e.attribute? name)] else []
  | .style _ => [restoring "style" (e.attribute? "style")]
  | .remove => []

variable {selector name : String}

/-- An object with one text in it is read as one attribute. -/
theorem attributes_render_single (h : IsPlainName name) (value : String) :
    Payload.attributes (Json.Value.object [(name, .text value)]).render = .ok [(name, value)] := by
  -- the object ends in braces, so that nothing is trimmed, whatever the value is
  have hends : Text.trimChars (Json.Value.object [(name, .text value)]).render.toList =
      (Json.Value.object [(name, .text value)]).render.toList := by
    refine Text.trimChars_eq_self ?_ ?_
    · rw [Json.toList_render_single]
      exact fun c hc => by obtain rfl := Option.some.inj hc; decide
    · have hlast : (Json.Value.object [(name, .text value)]).render.toList.getLast? = some '\x7d' := by
        rw [Json.toList_render_single]
        simp [List.getLast?_cons, List.getLast?_append]
      rw [hlast]
      exact fun c hc => by obtain rfl := Option.some.inj hc; decide
  have hhead : (Json.Value.object [(name, .text value)]).render.toList.head? = some '\x7b' := by
    rw [Json.toList_render_single, List.head?_cons]
  rw [attributes_eq_bind, hends, hhead, String.ofList_toList, Payload.ofObject,
    Json.parseObject_render_single]
  simp [Payload.pairOf, Payload.checkNames, Text.trim_of_isWord h.isWord, h.1, h.2, bind, Except.bind, pure,
    Except.pure]

theorem change_ofAttribute (h : IsPlainName name) (old : Option String) :
    (ofAttribute selector name old).change = .ok (restoring name old) := by
  cases old with
  | none =>
    have htrim : Text.trim name = name := Text.trim_of_isWord h.isWord
    have hne : name.isEmpty = false := by simpa using h.isWord.1
    simp [ofAttribute, Patch.change, Patch.bare, Patch.dropName, htrim, hne, h.1, h.2, restoring, bind,
      Except.bind, pure, Except.pure]
  | some value =>
    simp [ofAttribute, Patch.change, Patch.bare, Patch.payload?, Patch.need, Patch.readPayload,
      attributes_render_single h, restoring, bind, Except.bind, pure, Except.pure]

theorem map_change_ofClasses {taken given : List String}
    (htaken : ∀ c ∈ taken, Text.IsWord Text.isBlank c) (hgiven : ∀ c ∈ given, Text.IsWord Text.isBlank c) :
    (ofClasses selector taken given).map (·.change) =
      (if taken = [] ∧ given = [] then [] else [.classes given taken]).map Except.ok := by
  have hneed : ∀ (n : Need) {list : List String}, list ≠ [] → (∀ c ∈ list, Text.IsWord Text.isBlank c) →
      Patch.needText n (some (String.intercalate " " list)) = .ok (String.intercalate " " list) := by
    intro n list hne hwords
    rw [Patch.needText, Text.isBlankText_intercalate hne hwords, if_neg Bool.false_ne_true]
  cases taken with
  | nil =>
    cases given with
    | nil => rfl
    | cons g given =>
      simp [ofClasses, Patch.change, Patch.bare, Patch.removed?, hneed _ (List.cons_ne_nil g given) hgiven,
        Text.splitBlanks_intercalate hgiven, bind, Except.bind, pure, Except.pure]
  | cons t taken =>
    cases given with
    | nil =>
      simp [ofClasses, Patch.change, Patch.bare, Patch.added?, hneed _ (List.cons_ne_nil t taken) htaken,
        Text.splitBlanks_intercalate htaken, bind, Except.bind, pure, Except.pure]
    | cons g given =>
      simp [ofClasses, Patch.change, Patch.bare, hneed _ (List.cons_ne_nil t taken) htaken,
        hneed _ (List.cons_ne_nil g given) hgiven, Text.splitBlanks_intercalate hgiven,
        Text.splitBlanks_intercalate htaken, bind, Except.bind, pure, Except.pure]

theorem map_change_ofChange {c : Change} (h : c.IsWellFormed) (e : Element) (node : Node) :
    (ofChange selector e node c).map (·.change) = (changes e node c).map Except.ok := by
  cases c with
  | classes removed added =>
    rw [Change.IsWellFormed, List.forall_mem_append] at h
    exact map_change_ofClasses (fun c hc => h.1 c ((List.mem_filter.mp hc).1))
      (fun c hc => h.2 c ((List.mem_filter.mp hc).1))
  | setText | setHtml | append | prepend => rfl
  | setAttributes pairs =>
    rw [ofChange, changes, List.map_map, List.map_map, List.map_map]
    exact List.map_congr_left fun p hp =>
      change_ofAttribute (h p.1 (List.mem_map_of_mem hp)) (e.attribute? p.1)
  | dropAttribute name =>
    rw [ofChange, changes]
    cases hold : e.attribute? name with
    | none => rfl
    | some old =>
      simp only [List.map_cons, List.map_nil, change_ofAttribute h]
      rfl
  | style declarations =>
    simp only [ofChange, changes, List.map_cons, List.map_nil, change_ofAttribute isPlainName_style]
  | remove => rfl

theorem selector_ofAttribute (name : String) (old : Option String) :
    (ofAttribute selector name old).selector = selector := by
  cases old <;> rfl

theorem selector_of_mem_ofChange {e : Element} {node : Node} {c : Change} {q : Patch}
    (h : q ∈ ofChange selector e node c) : q.selector = selector := by
  cases c with
  | classes removed added =>
    simp only [ofChange, ofClasses] at h
    split at h
    · cases h
    all_goals
      obtain rfl := List.mem_singleton.mp h
      rfl
  | setText | setHtml | append | prepend =>
    obtain rfl := List.mem_singleton.mp h
    rfl
  | setAttributes pairs =>
    obtain ⟨p, -, rfl⟩ := List.mem_map.mp h
    exact selector_ofAttribute _ _
  | dropAttribute name =>
    rw [ofChange] at h
    split at h
    · obtain rfl := List.mem_singleton.mp h
      exact selector_ofAttribute _ _
    · cases h
  | style declarations =>
    obtain rfl := List.mem_singleton.mp h
    exact selector_ofAttribute _ _
  | remove => cases h

end Inverse

/-! ## Looks under revisions -/

/-- The look of an element as it is written under a revision. -/
def Html.Element.lookUnder (e : Element) (r : Revision) : Look :=
  .of e.name (r.attributes.getD e.attributes)

/-- The content of an element that is written under a revision, if what this brings is read as `new`. -/
def Html.Revision.contentFrom (r : Revision) (old new : Shape) : Shape :=
  if r.content = .keep then old else new

/-- Whether changes, made one after the other to elements that look as the ones before have left them, end
with the look and the content of an element. Content that they bring is taken to be that content. -/
def LeadsBack (e : Element) (content : Shape) : Look → Shape → List Change → Prop
  | look, inner, [] => look = e.look ∧ inner = content
  | look, inner, c :: rest => ∀ f : Element, f.look = look → ∀ r, c.revision? f = some r →
    LeadsBack e content (f.lookUnder r) (r.contentFrom inner content) rest

namespace Change

variable {e : Element}

theorem revision?_of_attributes? {c : Change} {attrs : Payload.Pairs}
    (h : c.attributes? e = some attrs) : c.revision? e = some ⟨false, some attrs, .keep⟩ := by
  cases c <;> simp_all [revision?, content?, attributes?]

theorem eq_of_revision? {c : Change} {attrs : Payload.Pairs} {r : Revision}
    (h : c.attributes? e = some attrs) (hr : c.revision? e = some r) :
    r = ⟨false, some attrs, .keep⟩ := by
  rw [revision?_of_attributes? h] at hr
  exact (Option.some.inj hr).symm

theorem eq_of_content? {c : Change} {content : ContentRevision} {r : Revision}
    (h : c.content? = some content) (hr : c.revision? e = some r) : r = ⟨false, none, content⟩ := by
  rw [revision?, h] at hr
  simp only [Option.ite_none_left_eq_some] at hr
  exact (Option.some.inj hr.2).symm

end Change

/-! ## Classes -/

theorem mem_changeClasses {removed added classes : List String} {c : String} :
    c ∈ changeClasses removed added classes ↔ (c ∈ classes ∧ c ∉ removed) ∨ c ∈ added := by
  have hadd : ∀ seen : List String,
      added.foldl (fun acc c => if c ∈ acc then acc else acc ++ [c]) seen = added.foldl Order.see seen :=
    fun seen => rfl
  rw [changeClasses, hadd, Order.mem_foldl_see, List.mem_filter]
  simp

theorem classesIn_withClasses {e : Element} {classes : List String}
    (h : ∀ c ∈ classes, Text.IsWord Text.isAsciiBlank c) :
    classesIn (withClasses e classes) = classes := by
  rw [classesIn, withClasses, getD_valueAt_withOrWithout, Text.splitAsciiBlanks_intercalate h]

theorem isWord_changeClasses {e : Element} {removed added : List String}
    (h : ∀ c ∈ added, Text.IsWord Text.isBlank c) :
    ∀ c ∈ changeClasses removed added e.classes, Text.IsWord Text.isAsciiBlank c := by
  intro c hc
  rcases mem_changeClasses.mp hc with ⟨hmem, -⟩ | hmem
  · exact Text.isWord_of_mem_splitAsciiBlanks (Element.mem_classes.mp hmem)
  · exact (h c hmem).ascii

theorem of_withClasses_eq_iff {e : Element} {removed added : List String} {pairs : Payload.Pairs}
    (h : ∀ c ∈ added, Text.IsWord Text.isBlank c) :
    Look.of e.name (withClasses e (changeClasses removed added e.classes)) = .of e.name pairs ↔
      (∀ c, (c ∈ e.classes ∧ c ∉ removed) ∨ c ∈ added ↔ c ∈ classesIn pairs) ∧
        ∀ n, n ≠ "class" → valueAt n e.attributes = valueAt n pairs := by
  rw [Look.of_eq_iff, classesIn_withClasses (isWord_changeClasses h)]
  simp only [mem_changeClasses]
  refine and_congr_right fun _ => forall₂_congr fun n hn => ?_
  rw [withClasses, valueAt_withOrWithout_of_ne hn]

/-- Taking away what a change has given and giving what it has taken leads back to the classes there were. -/
theorem mem_classes_back {classes removed added : List String} (c : String) :
    let (taken, given) := Inverse.classChanges classes removed added
    (((c ∈ classes ∧ c ∉ removed) ∨ c ∈ added) ∧ c ∉ given) ∨ c ∈ taken ↔ c ∈ classes := by
  simp only [Inverse.classChanges, List.mem_filter, Bool.or_eq_true, Bool.not_eq_true',
    List.contains_eq_mem, decide_eq_true_eq, decide_eq_false_iff_not]
  by_cases hmem : c ∈ classes <;> by_cases hremoved : c ∈ removed <;>
    by_cases hadded : c ∈ added <;> simp [hmem, hremoved, hadded]

namespace Inverse

variable {e : Element} {content : Shape}

theorem leadsBack_classes {removed added : List String}
    (h : (Change.classes removed added).IsWellFormed) (node : Node) :
    LeadsBack e content (.of e.name (withClasses e (changeClasses removed added e.classes))) content
      (changes e node (.classes removed added)) := by
  rw [Change.IsWellFormed, List.forall_mem_append] at h
  obtain ⟨hremoved, hadded⟩ := h
  have hback := fun c => @mem_classes_back e.classes removed added c
  have htaken : ∀ c ∈ (classChanges e.classes removed added).1, Text.IsWord Text.isBlank c :=
    fun c hc => hremoved c (List.mem_filter.mp hc).1
  rw [changes]
  -- of the swap only `hback` and `htaken` count from here on
  generalize classChanges e.classes removed added = swap at hback htaken
  obtain ⟨taken, given⟩ := swap
  dsimp only at hback htaken ⊢
  by_cases hnone : taken = [] ∧ given = []
  · obtain ⟨rfl, rfl⟩ := hnone
    rw [if_pos ⟨rfl, rfl⟩]
    refine ⟨(of_withClasses_eq_iff hadded).mpr ⟨fun c => ?_, fun n _ => rfl⟩, rfl⟩
    simpa [Element.mem_classes] using hback c
  · rw [if_neg hnone]
    intro f hf r hr
    obtain rfl := Change.eq_of_revision? rfl hr
    have hname : f.name = e.name := Element.name_of_look hf
    have hlook : Look.of e.name (withClasses e (changeClasses removed added e.classes)) =
        .of e.name f.attributes := by
      rw [← hf, ← hname]
      rfl
    obtain ⟨hclasses, hothers⟩ := (of_withClasses_eq_iff hadded).mp hlook
    refine ⟨?_, rfl⟩
    rw [Element.look, ← hname]
    refine (of_withClasses_eq_iff htaken).mpr ⟨fun c => ?_, fun n hn => (hothers n hn).symm⟩
    rw [Element.mem_classes, ← hclasses c, hback c, Element.mem_classes]

theorem sameAt_of_restoring {f : Element} {name : String} {r : Revision}
    (hr : (restoring name (e.attribute? name)).revision? f = some r) :
    ∃ attrs, r = ⟨false, some attrs, .keep⟩ ∧ Look.SameAt name attrs e.attributes ∧
      ∀ n, n ≠ name → Look.SameAt n attrs f.attributes := by
  cases hold : e.attribute? name with
  | none =>
    rw [hold] at hr
    refine ⟨_, Change.eq_of_revision? rfl hr, Look.sameAt_of_valueAt_eq ?_, fun n hn =>
      Look.sameAt_of_valueAt_eq (valueAt_dropPair_of_ne hn)⟩
    rw [valueAt_dropPair_self, ← Element.attribute?_eq, hold]
  | some old =>
    rw [hold] at hr
    refine ⟨_, Change.eq_of_revision? rfl hr, Look.sameAt_of_valueAt_eq ?_, fun n hn =>
      Look.sameAt_of_valueAt_eq (valueAt_setPair_of_ne hn)⟩
    exact valueAt_setPair_self.trans (hold.symm.trans (Element.attribute?_eq e name))

/-- Restoring attributes one after the other leads back if they are all that has changed. -/
theorem leadsBack_restoring (names : List String) {pairs : Payload.Pairs}
    (h : ∀ n, n ∉ names → Look.SameAt n pairs e.attributes) :
    LeadsBack e content (.of e.name pairs) content
      (names.map fun name => restoring name (e.attribute? name)) := by
  induction names generalizing pairs with
  | nil => exact ⟨Look.of_eq_iff_sameAt.mpr fun n => h n List.not_mem_nil, rfl⟩
  | cons name rest ih =>
    intro f hf r hr
    obtain ⟨attrs, rfl, hself, hothers⟩ := sameAt_of_restoring hr
    have hname : f.name = e.name := Element.name_of_look hf
    rw [← hname] at hf
    have hbefore := Element.look_eq_iff.mp hf
    have hstep := @ih attrs fun n hn => by
      by_cases hn' : n = name
      · exact hn' ▸ hself
      · exact ((hothers n hn').trans (hbefore n)).trans (h n (by simp [hn, hn']))
    rw [← hname] at hstep
    exact hstep

theorem leadsBack_content {c : Change} {r : Revision} {inner : ContentRevision} {old new : Shape}
    (hr : c.revision? e = some r) (h : c.content? = some inner) (markup : String) :
    LeadsBack e content (e.lookUnder r) (r.contentFrom old new) [.setHtml markup] := by
  obtain rfl := Change.eq_of_content? h hr
  intro f hf r hr
  obtain rfl := Change.eq_of_content? rfl hr
  refine ⟨hf, ?_⟩
  rw [Revision.contentFrom, if_neg (by simp)]

theorem leadsBack_changes {c : Change} {r : Revision} {children : List Node} (hc : c.IsWellFormed)
    (hremove : c ≠ .remove) (hr : c.revision? e = some r) (new : Shape) :
    LeadsBack e (Node.shapeAll children) (e.lookUnder r) (r.contentFrom (Node.shapeAll children) new)
      (changes e (.element e children) c) := by
  cases c with
  | classes removed added =>
    obtain rfl := Change.eq_of_revision? rfl hr
    exact leadsBack_classes hc _
  | setText | setHtml | append | prepend => exact leadsBack_content hr rfl _
  | setAttributes pairs =>
    obtain rfl := Change.eq_of_revision? rfl hr
    exact leadsBack_restoring _ fun n hn => Look.sameAt_of_valueAt_eq (valueAt_setPairs_of_notMem hn)
  | dropAttribute name =>
    obtain rfl := Change.eq_of_revision? rfl hr
    rw [changes]
    split
    · refine leadsBack_restoring [name] fun n hn => Look.sameAt_of_valueAt_eq ?_
      exact valueAt_dropPair_of_ne (mt List.mem_singleton.mpr hn)
    · rename_i hold
      rw [Option.not_isSome_iff_eq_none, Element.attribute?_eq] at hold
      refine leadsBack_restoring [] fun n _ => Look.sameAt_of_valueAt_eq ?_
      by_cases hn : n = name
      · rw [hn, hold]
        exact valueAt_dropPair_self
      · exact valueAt_dropPair_of_ne hn
  | style declarations =>
    obtain rfl := Change.eq_of_revision? rfl hr
    refine leadsBack_restoring ["style"] fun n hn => Look.sameAt_of_valueAt_eq ?_
    exact valueAt_withOrWithout_of_ne (mt List.mem_singleton.mpr hn)
  | remove => exact absurd rfl hremove

end Inverse

end PageEdit
