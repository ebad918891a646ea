import Mathlib.Tactic.Set
import PageEdit.Html.Build.Formatting
import PageEdit.Proofs.Html.Arenas
import PageEdit.Proofs.Html.Tokens

/-!
# Bounds of what reading can build

What there can be in a document under construction depends on how far reading has got: which elements are
called `body`, whether a template is open, which nodes are without a place, whether a frameset may still take
the place of the body, and which rules read the next token. A `Bounds` says all that, and `Within` that a
state keeps to it. Most of what the rules do leaves any bounds alone; the lemmas here say so for what the
rules share, `Within.openNamed` and `Within.endFormatting` being the ones with an argument to them.
-/

namespace PageEdit.Html.Build

/-- Whether what is said of an element can have been read. -/
structure IsFairElement (name : Name) (attrs : List Attr) : Prop where
  name : name.IsFair
  attrs : ∀ a ∈ attrs, a.IsFair

/-- Bounds of what has been built. -/
structure Bounds where
  /-- The elements that may be called `body`. -/
  body : Nat → Prop
  /-- Whether there may be a template. -/
  template : Prop
  /-- The nodes that may be without a place. -/
  loose : Nat → Prop
  /-- Whether a frameset may take the place of the body. -/
  frameset : Prop
  /-- The modes there may be, that of raw text left aside. -/
  modes : Mode → Prop

namespace Bounds

/-- Whether an element may have a name. -/
def Admits (c : Bounds) (id : Nat) (name : Name) : Prop :=
  (name.label = "body" → c.body id) ∧ (name = .html "template" → c.template)

/-- What may be said of an element. -/
def Element (c : Bounds) (id : Nat) (name : Name) (attrs : List Attr) : Prop :=
  IsFairElement name attrs ∧ c.Admits id name

/-- The bounds with one more node that may be without a place. -/
def sparing (c : Bounds) (id : Nat) : Bounds := { c with loose := Arena.sparing c.loose id }

end Bounds

/-- Whether a start tag can be one of an element with no part in the bounds. -/
structure IsUsualTag (tag : Tag) : Prop where
  fair : tag.IsFair
  body : tag.name ≠ "body"
  template : tag.name ≠ "template"

/-- Whether a label can be that of a usual tag without attributes. -/
def isUsualLabel (label : String) : Bool :=
  label.toList.head?.any Char.isAlpha && label.toList.all (!·.isUpper) && label != "body" &&
    label != "template"

theorem isFair_bare (label : String) (h : label.toList.head?.any Char.isAlpha = true)
    (hlower : label.toList.all (!·.isUpper) = true) : Tag.IsFair ⟨label, [], false⟩ := by
  refine ⟨⟨by simpa [Option.any_eq_true, Name.html] using h, fun _ c hc => ?_⟩, by simp, by simp⟩
  simpa using List.all_eq_true.mp hlower c hc

theorem isUsualTag_bare (label : String) (h : isUsualLabel label = true) :
    IsUsualTag ⟨label, [], false⟩ := by
  simp only [isUsualLabel, Bool.and_eq_true, bne_iff_ne] at h
  exact ⟨isFair_bare label h.1.1.1 h.1.1.2, h.1.2, h.2⟩

theorem isFairElement_of_tag {tag : Tag} (h : tag.IsFair) :
    IsFairElement (.html tag.name) (Foreign.attrs .html tag) :=
  ⟨h.name, Foreign.isFair_attrs h⟩

theorem IsUsualTag.element {tag : Tag} (h : IsUsualTag tag) (c : Bounds) (id : Nat) :
    c.Element id (.html tag.name) (Foreign.attrs .html tag) :=
  ⟨isFairElement_of_tag h.fair, fun hl => absurd hl h.body,
    fun hn => absurd (congrArg Name.label hn) h.template⟩

namespace Entry

/-- Whether an entry can be opened again under any bounds. -/
def IsUsual : Entry → Prop
  | .mark => True
  | .element _ tag => IsUsualTag tag

end Entry

/-- What keeps to bounds, of the parts of a state. -/
structure Bounds.Holds (c : Bounds) (arena : Arena) (stack : List Opened) (formatting : List Entry)
    (head : Option Nat) (framesetOk : Bool) (mode home : Mode) : Prop where
  sound : arena.Sound c.Element c.loose
  opened : ∀ o ∈ stack, o.id < arena.size ∧ c.Admits o.id o.name
  entries : ∀ e ∈ formatting, e.IsUsual
  head : ∀ id, head = some id → id < arena.size
  frameset : framesetOk = true → c.frameset
  mode : c.modes mode ∨ mode = .text ∧ c.modes home

namespace Builder

/-- Whether a state keeps to bounds. -/
def Within (c : Bounds) (b : Builder) : Prop :=
  c.Holds b.arena b.stack b.formatting b.head b.framesetOk b.mode b.home

namespace Within

variable {c d : Bounds} {b : Builder} {id : Nat}

/-! ## Bounds -/

theorem mono (h : Within c b) (hbody : ∀ id, c.body id → d.body id) (htemplate : c.template → d.template)
    (hloose : ∀ id, c.loose id → d.loose id) (hframeset : c.frameset → d.frameset)
    (hmodes : ∀ m, c.modes m → d.modes m) : Within d b := by
  have hadmits : ∀ id name, c.Admits id name → d.Admits id name := fun id name h =>
    ⟨fun hl => hbody _ (h.1 hl), fun hn => htemplate (h.2 hn)⟩
  refine ⟨h.sound.mono (fun id name attrs he => ⟨he.1, hadmits id name he.2⟩) hloose,
    fun o ho => ⟨(h.opened o ho).1, hadmits _ _ (h.opened o ho).2⟩, h.entries, h.head,
    fun hok => hframeset (h.frameset hok), ?_⟩
  exact h.mode.imp (hmodes _) fun hm => ⟨hm.1, hmodes _ hm.2⟩

/-- What keeps to bounds keeps to them with a node taken out. -/
theorem spare (h : Within c b) (id : Nat) : Within (c.sparing id) b :=
  h.mono (fun _ hb => hb) (fun ht => ht) (fun _ => .inl) (fun hf => hf) fun _ hm => hm

theorem withMode (h : Within c b) {m : Mode} (hm : c.modes m) : Within c { b with mode := m } :=
  { h with mode := .inl hm }

theorem noFrameset (h : Within c b) : Within c { b with framesetOk := false } :=
  { h with frameset := nofun }

/-! ## Closing elements -/

/-- Fewer elements are open. -/
theorem keep (h : Within c b) {stack : List Opened} (hs : stack ⊆ b.stack) : Within c { b with stack } :=
  { h with opened := fun o ho => h.opened o (hs ho) }

theorem pop (h : Within c b) : Within c b.pop := h.keep (List.tail_sublist _).subset

theorem dropIn_subset (set : ElementSet) (stack : List Opened) : dropIn set stack ⊆ stack := by
  induction stack with
  | nil => exact List.Subset.refl _
  | cons o rest ih =>
    rw [dropIn]
    split
    · exact List.subset_cons_of_subset _ ih
    · exact List.Subset.refl _

theorem popUntilCurrent (h : Within c b) (set : ElementSet) : Within c (b.popUntilCurrent set) :=
  h.keep (dropIn_subset _ _)

theorem popUntil (h : Within c b) (set : ElementSet) : Within c (b.popUntil set) :=
  (h.popUntilCurrent set).pop

theorem popUntilNamed (h : Within c b) (label : String) : Within c (b.popUntilNamed label) :=
  h.popUntil _

theorem closeImplied (h : Within c b) (set : ElementSet) : Within c (b.closeImplied set) :=
  h.keep (dropIn_subset _ _)

theorem closeParagraph (h : Within c b) : Within c b.closeParagraph :=
  (h.closeImplied _).popUntilNamed "p"

theorem endParagraph (h : Within c b) : Within c b.endParagraph := by
  unfold Builder.endParagraph
  split
  · exact h.closeParagraph
  · exact h

theorem removeOpen (h : Within c b) (id : Nat) : Within c (b.removeOpen id) :=
  h.keep List.eraseP_subset

/-! ## Putting content in its place -/

/-- The table of nodes has grown. -/
theorem grow (h : Within c b) {arena : Arena} {loose : Nat → Prop} (ha : arena.Sound c.Element loose)
    (hsize : b.arena.size ≤ arena.size) : Within { c with loose } { b with arena } :=
  { h with
    sound := ha
    opened := fun o ho => ⟨Nat.lt_of_lt_of_le (h.opened o ho).1 hsize, (h.opened o ho).2⟩
    head := fun id hid => Nat.lt_of_lt_of_le (h.head id hid) hsize }

theorem insertNode (h : Within (c.sparing id) b) (hid : id < b.arena.size)
    (hp : b.arena.parent? id = none) : Within c (b.insert (.node id)) :=
  h.grow (h.sound.putNode hid hp _) (Arena.size_le_put _ _ _)

theorem insertChar (h : Within c b) (char : Char) : Within c (b.insertChar char) :=
  h.grow (h.sound.putChar _ _) (Arena.size_le_put _ _ _)

/-- A node that is no element is made. -/
theorem makePlain (h : Within c b) (kind : Kind) (hk : ∀ name attrs, kind ≠ .element name attrs) :
    Within (c.sparing b.arena.size) { b with arena := (b.arena.make kind).1 } :=
  h.grow (h.sound.make kind fun _ _ he => absurd he (hk _ _)) (by simp)

theorem insertComment (h : Within c b) (text : String) : Within c (b.insertComment text) :=
  (h.makePlain (.comment text) nofun).insertNode (by simp)
    (by rw [Arena.parent?_make, Arena.parent?, Arena.slot_of_size_le (Nat.le_refl _)])

/-- A node that is no element is made and put last in another. -/
theorem appendPlain (h : Within c b) (kind : Kind) (hk : ∀ name attrs, kind ≠ .element name attrs)
    (p : Nat) : Within c { b with arena := (b.arena.make kind).1.append p b.arena.size } :=
  h.grow (h.sound.appendNew kind (fun _ _ he => absurd he (hk _ _)) p) (by simp [Arena.size_append])

theorem appendComment (h : Within c b) (p : Nat) (text : String) : Within c (b.appendComment p text) :=
  h.appendPlain (.comment text) nofun p

/-! ## Opening elements -/

theorem openNamed (h : Within c b) {name : Name} {attrs : List Attr}
    (hnew : c.Element b.arena.size name attrs) : Within c (b.openNamed name attrs).1 := by
  have hmade : Within (c.sparing b.arena.size) { b with arena := (b.arena.makeElement name attrs).1 } :=
    h.grow (h.sound.makeElement hnew) (Nat.le_of_lt (Arena.size_lt_makeElement _ _ _))
  have hput := hmade.insertNode (Arena.size_lt_makeElement _ _ _) (Arena.parent?_makeElement _ _ _)
  have hid : (b.arena.makeElement name attrs).2 = b.arena.size := Arena.makeElement_snd _ _ _
  simp only [Builder.openNamed, hid]
  refine { hput with opened := fun o ho => ?_ }
  rcases List.mem_cons.mp ho with rfl | ho
  · exact ⟨Nat.lt_of_lt_of_le (Arena.size_lt_makeElement _ _ _) (Arena.size_le_put _ _ _), hnew.2⟩
  · exact hput.opened o ho

theorem openNamed_snd (b : Builder) (name : Name) (attrs : List Attr) :
    (b.openNamed name attrs).2 = b.arena.size := Arena.makeElement_snd _ _ _

theorem size_lt_openNamed (b : Builder) (name : Name) (attrs : List Attr) :
    b.arena.size < (b.openNamed name attrs).1.arena.size :=
  Nat.lt_of_lt_of_le (Arena.size_lt_makeElement _ _ _) (Arena.size_le_put _ _ _)

theorem openTag (h : Within c b) {tag : Tag} (ht : IsUsualTag tag) : Within c (b.openTag tag) :=
  h.openNamed (ht.element c _)

theorem openPhantom (h : Within c b) (label : String) (hl : isUsualLabel label = true) :
    Within c (b.openPhantom label) := by
  have ht := isUsualTag_bare label hl
  have hnone : Foreign.attrs .html ⟨label, [], false⟩ = [] := rfl
  rw [Builder.openPhantom, ← hnone]
  exact h.openNamed (ht.element c _)

theorem addTag (h : Within c b) {tag : Tag} (ht : IsUsualTag tag) : Within c (b.addTag tag) :=
  (h.openTag ht).pop

theorem openRaw (h : Within c b) {tag : Tag} (ht : IsUsualTag tag) (hm : c.modes b.mode)
    (kind : RawKind) : Within c (b.openRaw tag kind).1 :=
  { h.openTag ht with mode := .inr ⟨rfl, hm⟩ }

theorem openRoot (h : Within c b) {attrs : List Attr} (ha : IsFairElement (.html "html") attrs) :
    Within c (b.openRoot attrs) := by
  have hnew : c.Element b.arena.size (.html "html") attrs :=
    ⟨ha, fun hl => absurd hl (by decide), fun hn => absurd hn (by decide)⟩
  have hmade : Within (c.sparing b.arena.size)
      { b with arena := (b.arena.makeElement (.html "html") attrs).1 } :=
    h.grow (h.sound.makeElement hnew) (Nat.le_of_lt (Arena.size_lt_makeElement _ _ _))
  have hid : (b.arena.makeElement (.html "html") attrs).2 = b.arena.size := Arena.makeElement_snd _ _ _
  have hlt := Arena.size_lt_makeElement b.arena (.html "html") attrs
  have hput : Within c _ := hmade.grow (hmade.sound.append hlt Arena.documentId)
    (Nat.le_of_eq (Arena.size_append _ _ _).symm)
  simp only [Builder.openRoot, hid]
  refine { hput with opened := fun o ho => ?_ }
  obtain rfl := List.mem_singleton.mp ho
  exact ⟨by rwa [Arena.size_append], hnew.2⟩

theorem addAttrs (h : Within c b) {more : List Attr} (hmore : ∀ a ∈ more, a.IsFair) (id : Nat) :
    Within c { b with arena := b.arena.addAttrs id more } := by
  refine h.grow (h.sound.addAttrs fun name attrs hold => ⟨⟨hold.1.name, fun a ha => ?_⟩, hold.2⟩)
    (by simp [Arena.addAttrs])
  exact (mem_of_mem_mergeAttrs ha).elim (hold.1.attrs a) (hmore a)

/-! ## Formatting elements -/

/-- Other entries are to be opened again. -/
theorem withEntries (h : Within c b) {formatting : List Entry} (he : ∀ e ∈ formatting, e.IsUsual) :
    Within c { b with formatting } :=
  { h with entries := he }

/-- Fewer entries are to be opened again. -/
theorem keepEntries (h : Within c b) {formatting : List Entry} (hs : formatting ⊆ b.formatting) :
    Within c { b with formatting } :=
  h.withEntries fun e he => h.entries e (hs he)

theorem pushMark (h : Within c b) : Within c b.pushMark :=
  h.withEntries fun e he => (List.mem_cons.mp he).elim (fun heq => heq ▸ trivial) (h.entries e)

theorem clearToMark (h : Within c b) : Within c b.clearToMark :=
  h.keepEntries ((List.tail_sublist _).trans (List.dropWhile_sublist _)).subset

theorem removeEntry (h : Within c b) (id : Nat) : Within c (b.removeEntry id) :=
  h.keepEntries List.eraseP_subset

theorem reopenAll (h : Within c b) {entries : List Entry} (he : ∀ e ∈ entries, e.IsUsual) :
    Within c (b.reopenAll entries).1 ∧ ∀ e ∈ (b.reopenAll entries).2, e.IsUsual := by
  induction entries generalizing b with
  | nil => exact ⟨h, by simp [Builder.reopenAll]⟩
  | cons entry rest ih =>
    have hrest : ∀ e ∈ rest, e.IsUsual := fun e hmem => he e (.tail _ hmem)
    cases entry with
    | mark =>
      obtain ⟨hw, hentries⟩ := ih h hrest
      refine ⟨hw, fun e hmem => ?_⟩
      rcases List.mem_append.mp hmem with hmem | hmem
      · exact hentries e hmem
      · exact List.mem_singleton.mp hmem ▸ trivial
    | element id tag =>
      have ht : IsUsualTag tag := he _ (.head _)
      obtain ⟨hw, hentries⟩ := ih (h.openTag ht) hrest
      refine ⟨hw, fun e hmem => ?_⟩
      rcases List.mem_append.mp hmem with hmem | hmem
      · exact hentries e hmem
      · exact List.mem_singleton.mp hmem ▸ ht

theorem reopen (h : Within c b) : Within c b.reopen := by
  unfold Builder.reopen
  dsimp only
  split
  · exact h
  · have husual : ∀ e ∈ (b.formatting.takeWhile (!b.isMarkOrOpen ·)).reverse, e.IsUsual := fun e he =>
      h.entries e ((List.takeWhile_sublist _).subset (List.mem_reverse.mp he))
    obtain ⟨hw, hentries⟩ := h.reopenAll husual
    refine hw.withEntries fun e he => ?_
    exact (List.mem_append.mp he).elim (hentries e) fun he => h.entries e (List.mem_of_mem_drop he)

theorem openFormatting (h : Within c b) {tag : Tag} (ht : IsUsualTag tag) :
    Within c (b.openFormatting tag) := by
  have hadd : ∀ {b : Builder}, Within c b → Within c
      { (b.openTag tag) with
        formatting := .element (b.openNamed (.html tag.name) (Foreign.attrs .html tag)).2 tag ::
          (b.openTag tag).formatting } := fun h =>
    (h.openTag ht).withEntries fun e he =>
      (List.mem_cons.mp he).elim (fun heq => heq ▸ ht) ((h.openTag ht).entries e)
  unfold Builder.openFormatting
  dsimp only
  split
  · exact hadd h
  · split
    · exact hadd (h.removeEntry _)
    · exact hadd h

theorem endPlain (h : Within c b) (label : String) : Within c (b.endPlain label) := by
  unfold Builder.endPlain
  split
  · exact h
  · next o rest hdrop =>
    split
    · have hsub : b.stack.dropWhile (fun o => !o.name.isHtml label && !ElementSet.special o.name) ⊆ b.stack :=
        (List.dropWhile_sublist _).subset
      rw [hdrop] at hsub
      exact h.keep fun x hx => hsub (.tail _ hx)
    · exact h

/-! ## Ending formatting elements -/

theorem mem_entryAfter {id : Nat} {entry e : Entry} {entries : List Entry}
    (h : e ∈ entryAfter id entry entries) : e = entry ∨ e ∈ entries := by
  obtain ⟨x, hx, he⟩ := List.mem_flatMap.mp h
  split at he
  · rcases List.mem_cons.mp he with rfl | he
    · exact .inl rfl
    · exact .inr (List.mem_singleton.mp he ▸ hx)
  · exact .inr (List.mem_singleton.mp he ▸ hx)

/-- What is kept to while elements are cut: the one that has just been moved is without a place. -/
def IsCutting (c : Bounds) (cut : Cut) : Prop :=
  Within (c.sparing cut.last) cut.builder ∧ cut.last < cut.builder.arena.size

/-- An open element with an entry is copied, and the copy takes the last one as its child. -/
theorem isCutting_copy {cut : Cut} (h : IsCutting c cut) {tag : Tag} (ht : IsUsualTag tag)
    (old : Nat) (bookmark : Bookmark) :
    let made := cut.builder.arena.makeElement (.html tag.name) (Foreign.attrs .html tag)
    IsCutting c ⟨{ cut.builder with
      arena := made.1.append made.2 cut.last
      stack := cut.builder.stack.map fun x => if x.id == old then ⟨made.2, .html tag.name⟩ else x
      formatting := cut.builder.formatting.map fun e =>
        if isEntry old e then .element made.2 tag else e }, made.2, bookmark⟩ := by
  obtain ⟨hw, hlast⟩ := h
  set made := cut.builder.arena.makeElement (.html tag.name) (Foreign.attrs .html tag) with hmade
  have hid : made.2 = cut.builder.arena.size := Arena.makeElement_snd _ _ _
  have hlt : cut.builder.arena.size < made.1.size := Arena.size_lt_makeElement _ _ _
  have hsound : made.1.Sound c.Element (Arena.sparing (Arena.sparing c.loose made.2) cut.last) := by
    have := hw.sound.makeElement (ht.element (c.sparing cut.last) _)
    rw [← hmade, ← hid] at this
    exact this.mono (fun _ _ _ he => he) fun _ hl => hl.elim (Or.imp_left .inl) (.inl ∘ .inr)
  have hput : Within (c.sparing made.2) _ := hw.grow (hsound.append (Nat.lt_trans hlast hlt) made.2)
    (by rw [Arena.size_append]; exact Nat.le_of_lt hlt)
  refine ⟨{ hput with opened := fun o ho => ?_, entries := fun e he => ?_ }, ?_⟩
  · obtain ⟨x, hx, rfl⟩ := List.mem_map.mp ho
    split
    · refine ⟨?_, (ht.element c made.2).2⟩
      rw [Arena.size_append, hid]
      exact hlt
    · exact hput.opened x hx
  · obtain ⟨x, hx, rfl⟩ := List.mem_map.mp he
    split
    · exact ht
    · exact hput.entries x hx
  · rw [Arena.size_append, hid]
    exact hlt

theorem isCutting_cutBetween (block count : Nat) (between : List Opened) {cut : Cut} (h : IsCutting c cut) :
    IsCutting c (Builder.cutBetween block count between cut) := by
  induction between generalizing count cut with
  | nil => exact h
  | cons o rest ih =>
    rw [Builder.cutBetween]
    dsimp only
    split
    · next id tag hfind =>
      split
      · exact ih _ ⟨(h.1.removeEntry o.id).removeOpen o.id, h.2⟩
      · exact ih _ (isCutting_copy h (h.1.entries _ (List.mem_of_find?_eq_some hfind)) _ _)
    · exact ih _ ⟨h.1.removeOpen o.id, h.2⟩

/-- The last one of the elements that were cut gets a place elsewhere. -/
theorem putLast {cut : Cut} (h : IsCutting c cut) (spot : Spot) :
    Within c { cut.builder with arena := (cut.builder.arena.detach cut.last).put spot (.node cut.last) } := by
  obtain ⟨hw, hlast⟩ := h
  have hout : Within (c.sparing cut.last) { cut.builder with arena := cut.builder.arena.detach cut.last } :=
    hw.grow hw.sound.detachSpared (Nat.le_of_eq (Arena.size_detach _ _).symm)
  have hsize : cut.last < (cut.builder.arena.detach cut.last).size := by rwa [Arena.size_detach]
  have hnone : (cut.builder.arena.detach cut.last).parent? cut.last = none := by
    rw [Arena.parent?_detach, if_pos rfl]
  exact hout.grow (hout.sound.putNode hsize hnone spot) (Arena.size_le_put _ _ _)

/-- A new element takes all children of another, and goes into it. -/
theorem wrapChildren (h : Within c b) {tag : Tag} (ht : IsUsualTag tag) (block : Nat) :
    Within c { b with
      arena := ((b.arena.makeElement (.html tag.name) (Foreign.attrs .html tag)).1.moveChildren block
        b.arena.size).append block b.arena.size } := by
  have hlt : b.arena.size < (b.arena.makeElement (.html tag.name) (Foreign.attrs .html tag)).1.size :=
    Arena.size_lt_makeElement _ _ _
  have hmoved := ((h.sound.makeElement (ht.element c b.arena.size)).moveChildren block b.arena.size).append
    (by rwa [Arena.size_moveChildren]) block
  refine h.grow hmoved ?_
  rw [Arena.size_append, Arena.size_moveChildren]
  exact Nat.le_of_lt hlt

theorem cutBlock (h : Within c b) {tag : Tag} (ht : IsUsualTag tag) {block : Opened}
    (hblock : block.id < b.arena.size) (ended : Opened) (between : List Opened) (outer : Opened) :
    Within c (b.cutBlock ended tag block between outer) := by
  have hcut : IsCutting c (Builder.cutBetween block.id 0 between ⟨b, block.id, .inPlace⟩) :=
    isCutting_cutBetween block.id 0 between ⟨h.spare block.id, hblock⟩
  unfold Builder.cutBlock
  dsimp only
  generalize Builder.cutBetween block.id 0 between ⟨b, block.id, .inPlace⟩ = cut at hcut ⊢
  generalize Builder.spot _ outer = spot
  have hput := putLast hcut spot
  generalize (cut.builder.arena.detach cut.last).put spot (.node cut.last) = arena at hput
  have hid : (arena.makeElement (.html tag.name) (Foreign.attrs .html tag)).2 = arena.size :=
    Arena.makeElement_snd _ _ _
  have hlt : arena.size < (arena.makeElement (.html tag.name) (Foreign.attrs .html tag)).1.size :=
    Arena.size_lt_makeElement _ _ _
  rw [hid]
  have hnew := hput.wrapChildren ht block.id
  refine { hnew with opened := fun o ho => ?_, entries := fun e he => ?_ }
  · obtain ⟨x, hx, ho⟩ := List.mem_flatMap.mp ho
    have hold := hnew.opened x (List.mem_of_mem_eraseP hx)
    split at ho
    · rcases List.mem_cons.mp ho with rfl | ho
      · refine ⟨?_, (ht.element c arena.size).2⟩
        rw [Arena.size_append, Arena.size_moveChildren]
        exact hlt
      · exact List.mem_singleton.mp ho ▸ hold
    · exact List.mem_singleton.mp ho ▸ hold
  · have hentry : Entry.IsUsual (.element arena.size tag) := ht
    split at he
    · obtain ⟨x, hx, rfl⟩ := List.mem_map.mp he
      split
      · exact hentry
      · exact hnew.entries x hx
    · exact (mem_entryAfter (List.mem_of_mem_eraseP he)).elim (fun heq => heq ▸ hentry) (hnew.entries e)

theorem endFormattingOnce (h : Within c b) (label : String) : Within c (b.endFormattingOnce label).1 := by
  unfold Builder.endFormattingOnce
  dsimp only
  split
  · next id tag hfind =>
    have ht : IsUsualTag tag :=
      h.entries _ ((List.takeWhile_sublist _).subset (List.mem_of_find?_eq_some hfind))
    split
    · exact h.removeEntry id
    · next ended outer hdrop =>
      split
      · exact h
      · split
        · have hsub : ended :: outer ⊆ b.stack := hdrop ▸ List.drop_subset _ _
          exact (h.keep fun o ho => hsub (.tail _ ho)).removeEntry id
        · next block _ hblock =>
          refine h.cutBlock ht (h.opened block ?_).1 _ _ _
          have hsub : (b.stack.takeWhile (·.id != id)).reverse.dropWhile (!ElementSet.special ·.name) ⊆
              (b.stack.takeWhile (·.id != id)).reverse := (List.dropWhile_sublist _).subset
          rw [hblock] at hsub
          exact (List.takeWhile_sublist _).subset (List.mem_reverse.mp (hsub (.head _)))
  · exact h.endPlain label

theorem endFormattingRounds (label : String) (n : Nat) (h : Within c b) :
    Within c (Builder.endFormattingRounds label n b) := by
  induction n generalizing b with
  | zero => exact h
  | succ n ih =>
    have honce := h.endFormattingOnce label
    rw [Builder.endFormattingRounds]
    split
    · next b' heq => exact ih (by rwa [heq] at honce)
    · next b' heq => rwa [heq] at honce

theorem endFormatting (h : Within c b) (label : String) : Within c (b.endFormatting label) := by
  unfold Builder.endFormatting
  split
  · exact h.pop
  · exact endFormattingRounds label 8 h

theorem endOpenLink (h : Within c b) : Within c b.endOpenLink := by
  unfold Builder.endOpenLink
  dsimp only
  split
  · exact ((h.endFormatting "a").removeEntry _).removeOpen _
  · exact h

end Within

end Builder

end PageEdit.Html.Build
