import Mathlib.Tactic.SplitIfs
import PageEdit.Html.Build.Reader
import PageEdit.Proofs.Html.Bounds

/-!
# What the rules keep to

Reading a document goes through phases. Up to the body nothing is called `body`; then one element is, and a
frameset may still take its place; once it has, this element alone may be without a place, and nothing but
framesets and text follows. Whatever else there is in a document, a table, a selection or a template to begin
with, has ruled out a frameset by then, and from there on every node has a place.

* `shut`, `early`, `late`, `framed`: the bounds of the phases.
* `Within.inBody`, `Within.inAfterHead`: the rules that lead from one phase to another.
-/

namespace PageEdit.Html.Build

/-! ## Phases -/

/-- The modes before the body. -/
def headModes : List Mode := [.initial, .beforeHtml, .beforeHead, .inHead, .afterHead]

/-- The modes in a body that a frameset may still take the place of. -/
def bodyModes : List Mode := [.inBody, .afterBody, .afterAfterBody]

/-- The modes after a frameset. -/
def framesetModes : List Mode := [.inFrameset, .afterFrameset, .afterAfterFrameset]

/-- No frameset can come any more. -/
def shut : Bounds := ⟨fun _ => True, True, fun _ => False, False, fun _ => True⟩

/-- There is no body yet. -/
def early : Bounds := ⟨fun _ => False, False, fun _ => False, True, (· ∈ headModes)⟩

/-- The body with this number has been opened. -/
def late (body : Nat) : Bounds := ⟨(· = body), False, fun _ => False, True, (· ∈ bodyModes)⟩

/-- A frameset has taken the place of the body with this number, if there was one. -/
def framed (body : Nat) : Bounds := ⟨(· = body), False, (· = body), True, (· ∈ framesetModes)⟩

/-- The bounds where a frameset is just being ruled out. -/
def closing : Bounds := ⟨fun _ => True, True, fun _ => False, True, fun _ => True⟩

/-- The bounds of the phases. -/
inductive IsPhase : Bounds → Prop where
  | shut : IsPhase shut
  | early : IsPhase early
  | late (body : Nat) : IsPhase (late body)
  | framed (body : Nat) : IsPhase (framed body)

/-- Whether a phase is one before the body, or after a frameset has been ruled out. -/
def IsHeadPhase (c : Bounds) : Prop := c = shut ∨ c = early

/-- Whether a phase is one in the body, or after a frameset has been ruled out. -/
def IsBodyPhase (c : Bounds) : Prop := c = shut ∨ ∃ body, c = late body

theorem IsHeadPhase.isPhase {c : Bounds} (hc : IsHeadPhase c) : IsPhase c := by
  rcases hc with rfl | rfl
  · exact .shut
  · exact .early

theorem IsBodyPhase.isPhase {c : Bounds} (hc : IsBodyPhase c) : IsPhase c := by
  rcases hc with rfl | ⟨body, rfl⟩
  · exact .shut
  · exact .late body

/-- Whether every node but the document has a place. -/
def Bounds.IsPlaced (c : Bounds) : Prop := ∀ id, ¬ c.loose id

theorem IsHeadPhase.isPlaced {c : Bounds} (hc : IsHeadPhase c) : c.IsPlaced := by
  rcases hc with rfl | rfl <;> exact fun _ h => h

theorem IsBodyPhase.isPlaced {c : Bounds} (hc : IsBodyPhase c) : c.IsPlaced := by
  rcases hc with rfl | ⟨body, rfl⟩ <;> exact fun _ h => h

theorem IsHeadPhase.mode {c : Bounds} (hc : IsHeadPhase c) {m : Mode} (hm : m ∈ headModes) : c.modes m := by
  rcases hc with rfl | rfl
  · trivial
  · exact hm

theorem IsBodyPhase.mode {c : Bounds} (hc : IsBodyPhase c) {m : Mode} (hm : m ∈ bodyModes) :
    c.modes m := by
  rcases hc with rfl | ⟨body, rfl⟩
  · trivial
  · exact hm

/-- There are templates only after a frameset has been ruled out. -/
theorem IsPhase.eq_shut {c : Bounds} (hc : IsPhase c) (h : c.template) : c = Build.shut := by
  cases hc with
  | shut => rfl
  | early => exact h.elim
  | late => exact h.elim
  | framed => exact h.elim

namespace Builder

/-- Whether a state keeps to the bounds of some phase. -/
def IsReading (b : Builder) : Prop := ∃ c, IsPhase c ∧ Within c b

namespace Within

variable {c : Bounds} {b : Builder} {tag : Tag} {token : Token}

/-- A choice of rules is gone through rule by rule. -/
theorem fst_ite (P : Builder → Prop) {p : Prop} [Decidable p] {x y : Outcome} (hx : p → P x.1)
    (hy : ¬ p → P y.1) : P (if p then x else y).1 := by
  split
  · next hp => exact hx hp
  · next hp => exact hy hp

theorem ite {p : Prop} [Decidable p] {x y : Builder} (hx : Within c x) (hy : Within c y) :
    Within c (if p then x else y) := by
  split
  · exact hx
  · exact hy

theorem isReading (h : Within c b) (hc : IsPhase c) : IsReading b := ⟨c, hc, h⟩

/-! ## Ruling out a frameset -/

/-- A state that keeps to any bounds with every node in its place. -/
theorem loosen (h : Within c b) (hc : c.IsPlaced) : Within closing b :=
  h.mono (fun _ _ => trivial) (fun _ => trivial) (fun id hl => hc id hl) (fun _ => trivial)
    fun _ _ => trivial

theorem anyMode (h : Within shut b) (m : Mode) : Within shut { b with mode := m } := h.withMode trivial

theorem template_of_hasOpen (h : Within c b) (ho : b.hasOpen "template" = true) : c.template := by
  obtain ⟨o, ho, hname⟩ := List.any_eq_true.mp ho
  refine (h.opened o ho).2.2 ?_
  simp only [Name.isHtml, Bool.and_eq_true, beq_iff_eq] at hname
  rw [Name.html, ← hname.1, ← hname.2]

/-! ## Templates and the head -/

theorem mergeRoot (h : Within c b) (ht : tag.IsFair) : Within c (b.mergeRoot tag).1 := by
  unfold Builder.mergeRoot
  split
  · exact h
  · exact h.addAttrs (Foreign.isFair_attrs ht) _

theorem closeTemplate (h : Within shut b) : Within shut b.closeTemplate :=
  anyMode (h.popUntilNamed "template").clearToMark _

theorem onTemplateEnd (h : Within c b) (hc : IsPhase c) : Within c b.onTemplateEnd.1 := by
  unfold Builder.onTemplateEnd
  split
  · next ho =>
    obtain rfl := hc.eq_shut (h.template_of_hasOpen ho)
    exact closeTemplate (h.closeImplied _)
  · exact h

theorem endTemplates (h : Within c b) (hc : IsPhase c) : Within c b.endTemplates.1 := by
  unfold Builder.endTemplates
  split
  · next ho =>
    obtain rfl := hc.eq_shut (h.template_of_hasOpen ho)
    exact h.closeTemplate.anyMode _
  · exact h

/-- A tag of the head, templates aside. -/
theorem onHeadTag (h : Within c b) (ht : IsUsualTag tag) (hm : c.modes b.mode) :
    Within c (b.onHeadTag tag).1 := by
  unfold Builder.onHeadTag
  split
  · exact h.openRaw ht hm _
  · exact h.openRaw ht hm _
  · exact h.openRaw ht hm _
  · exact h.openRaw ht hm _
  · exact h.openRaw ht hm _
  · next hname => exact absurd hname ht.template
  · exact h.addTag ht

theorem onTemplateStart (h : Within c b) (hc : c.IsPlaced) (ht : tag.IsFair) (hname : tag.name = "template") :
    Within shut (b.onHeadTag tag).1 := by
  have hopen : Within closing (b.openTag tag) :=
    (h.loosen hc).openNamed ⟨isFairElement_of_tag ht, fun _ => trivial, fun _ => trivial⟩
  simp only [Builder.onHeadTag, hname]
  -- the rule itself rules out a frameset, with which any bounds are those without one
  split
  · exact { (h.loosen hc).pushMark with frameset := nofun, mode := .inl trivial }
  · exact { hopen.pushMark with frameset := nofun, mode := .inl trivial }

/-- The tags that may stand in the head do not include the body's. -/
theorem ne_body_of_head (h : headLabels.contains tag.name = true) : tag.name ≠ "body" := by
  rintro hb
  rw [hb] at h
  revert h
  decide

/-- A tag of the head, where a frameset may have to be ruled out. -/
theorem onAnyHeadTag (h : Within c b) (hc : c.IsPlaced) (ht : tag.IsFair) (hbody : tag.name ≠ "body")
    (hm : c.modes b.mode) : Within c (b.onHeadTag tag).1 ∨ Within shut (b.onHeadTag tag).1 := by
  by_cases hname : tag.name = "template"
  · exact .inr (h.onTemplateStart hc ht hname)
  · exact .inl (h.onHeadTag ⟨ht, hbody, hname⟩ hm)

/-! ## Before the body -/

theorem html_isFair {attrs : List Attr} (ha : ∀ a ∈ attrs, a.IsFair) :
    IsFairElement (.html "html") attrs :=
  ⟨(isFair_bare "html" (by decide) (by decide)).name, ha⟩

theorem openHead (h : Within c b) {attrs : List Attr} (ha : ∀ a ∈ attrs, a.IsFair)
    (hm : c.modes .inHead) : Within c (b.openHead attrs) := by
  have hfair : IsFairElement (.html "head") attrs :=
    ⟨(isFair_bare "head" (by decide) (by decide)).name, ha⟩
  have hopen : Within c (b.openNamed (.html "head") attrs).1 :=
    h.openNamed ⟨hfair, fun hl => absurd hl (by decide), fun hn => absurd hn (by decide)⟩
  have hid : (b.openNamed (.html "head") attrs).2 < (b.openNamed (.html "head") attrs).1.arena.size := by
    rw [openNamed_snd]
    exact size_lt_openNamed _ _ _
  unfold Builder.openHead
  generalize b.openNamed (.html "head") attrs = r at hopen hid
  exact { hopen with head := fun id h => Option.some.inj h ▸ hid, mode := .inl hm }

theorem inInitial (h : Within c b) (hc : IsHeadPhase c) : Within c (b.inInitial token).1 := by
  have hm : c.modes .beforeHtml := hc.mode (by decide)
  unfold Builder.inInitial
  split
  · exact h.appendComment _ _
  · split
    · exact h
    · exact h.withMode hm
  · exact h.withMode hm

theorem onDoctype (h : Within c b) (hc : b.mode = .initial → IsHeadPhase c) (doctype : Doctype) :
    Within c (b.onDoctype doctype) := by
  unfold Builder.onDoctype
  split
  · next hmode =>
    have hm : c.modes .beforeHtml := (hc (beq_iff_eq.mp hmode)).mode (by decide)
    exact (h.appendPlain (.doctype (doctype.name.getD "")) nofun _).withMode hm
  · exact h

theorem inBeforeHtml (h : Within c b) (hc : IsHeadPhase c) (ht : token.IsFair) :
    Within c (b.inBeforeHtml token).1 := by
  have hm : c.modes .beforeHead := hc.mode (by decide)
  have hroot := (h.openRoot (html_isFair (List.forall_mem_nil _))).withMode hm
  unfold Builder.inBeforeHtml
  dsimp only
  split
  · exact h.appendComment _ _
  · split
    · exact h
    · exact hroot
  · split
    · exact (h.openRoot (html_isFair (Foreign.isFair_attrs ht))).withMode hm
    · exact hroot
  · split
    · exact hroot
    · exact h
  · exact hroot

theorem inBeforeHead (h : Within c b) (hc : IsHeadPhase c) (ht : token.IsFair) :
    Within c (b.inBeforeHead token).1 := by
  have hm : c.modes .inHead := hc.mode (by decide)
  have hhead := (h.openHead (List.forall_mem_nil _) hm).withMode hm
  unfold Builder.inBeforeHead
  dsimp only
  split
  · exact h.insertComment _
  · split
    · exact h
    · exact hhead
  · split_ifs
    · exact h.mergeRoot ht
    · exact h.openHead (Foreign.isFair_attrs ht) hm
    · exact hhead
  · split
    · exact hhead
    · exact h
  · exact hhead

theorem inHead (h : Within c b) (hc : IsHeadPhase c) (hm : c.modes b.mode) (ht : token.IsFair) :
    IsReading (b.inHead token).1 := by
  have hafter : c.modes .afterHead := hc.mode (by decide)
  have hpop := (h.pop.withMode hafter).isReading hc.isPhase
  unfold Builder.inHead
  dsimp only
  split
  · exact (h.insertComment _).isReading hc.isPhase
  · split
    · exact (h.insertChar _).isReading hc.isPhase
    · exact hpop
  · next tag =>
    split_ifs with _ hhead
    · exact (h.mergeRoot ht).isReading hc.isPhase
    · have hbody : tag.name ≠ "body" := by
        rcases Bool.or_eq_true_iff.mp hhead with hhead | hname
        · exact ne_body_of_head hhead
        · rw [beq_iff_eq.mp hname]
          decide
      exact (h.onAnyHeadTag hc.isPlaced ht hbody hm).elim (·.isReading hc.isPhase) (·.isReading .shut)
    · exact h.isReading hc.isPhase
    · exact hpop
  · split
    · exact hpop
    · exact hpop
    · exact hpop
    · exact hpop
    · exact (h.onTemplateEnd hc.isPhase).isReading hc.isPhase
    · exact h.isReading hc.isPhase
  · exact hpop

/-! ## From the head to the body -/

/-- The bounds with any mode. -/
theorem inAnyMode (h : Within c b) : Within { c with modes := fun _ => True } b :=
  h.mono (fun _ hb => hb) (fun ht => ht) (fun _ hl => hl) (fun hf => hf) fun _ _ => trivial

theorem reach (h : Within { c with modes := fun _ => True } b) {m : Mode} (hm : c.modes m) :
    Within c { b with mode := m } :=
  { h with mode := .inl hm }

/-- The body is opened: it is the first element with its name, unless a frameset has been ruled out. -/
theorem openBody (h : Within c b) (hc : IsHeadPhase c) {attrs : List Attr} (ha : ∀ a ∈ attrs, a.IsFair) :
    ∃ d, IsBodyPhase d ∧ Within d (b.openBody attrs) := by
  have hfair : IsFairElement (.html "body") attrs :=
    ⟨(isFair_bare "body" (by decide) (by decide)).name, ha⟩
  rcases hc with rfl | rfl
  · exact ⟨shut, .inl rfl, (h.openNamed ⟨hfair, fun _ => trivial, fun _ => trivial⟩).anyMode _⟩
  · have hlate : Within { late b.arena.size with modes := fun _ => True } b :=
      h.mono (fun _ => False.elim) False.elim (fun _ hl => hl) (fun hf => hf) fun _ _ => trivial
    have hopen : Within _ (b.openNamed (.html "body") attrs).1 :=
      hlate.openNamed ⟨hfair, fun _ => rfl, fun hn => absurd hn (by decide)⟩
    exact ⟨late b.arena.size, .inr ⟨_, rfl⟩, reach (c := late _) hopen (.head _)⟩

theorem onLateHeadTag (h : Within c b) (hc : c.IsPlaced) (ht : tag.IsFair) (hbody : tag.name ≠ "body")
    (hm : c.modes b.mode) :
    Within c (b.onLateHeadTag tag).1 ∨ Within shut (b.onLateHeadTag tag).1 := by
  unfold Builder.onLateHeadTag
  split
  · exact h.onAnyHeadTag hc ht hbody hm
  · next head hhead =>
    have hname : c.Admits head (.html "head") :=
      ⟨fun hl => absurd hl (by decide), fun hn => absurd hn (by decide)⟩
    have hopen : Within c { b with stack := ⟨head, .html "head"⟩ :: b.stack } := by
      refine { h with opened := fun o ho => ?_ }
      rcases List.mem_cons.mp ho with rfl | ho
      · exact ⟨h.head head hhead, hname⟩
      · exact h.opened o ho
    exact (hopen.onAnyHeadTag hc ht hbody hm).imp (·.removeOpen head) (·.removeOpen head)

theorem inAfterHead (h : Within c b) (hc : IsHeadPhase c) (hm : c.modes b.mode) (ht : token.IsFair) :
    IsReading (b.inAfterHead token).1 := by
  have hbody : ∀ {attrs : List Attr}, (∀ a ∈ attrs, a.IsFair) → IsReading (b.openBody attrs) := fun ha =>
    (h.openBody hc ha).elim fun d hd => hd.2.isReading hd.1.isPhase
  have hbare : IsReading (b.openBody []) := hbody (by simp)
  unfold Builder.inAfterHead
  dsimp only
  split
  · exact (h.insertComment _).isReading hc.isPhase
  · split
    · exact (h.insertChar _).isReading hc.isPhase
    · exact hbare
  · next tag =>
    split_ifs with _ hlabel hframeset hhead
    · exact (h.mergeRoot ht).isReading hc.isPhase
    · have ha : ∀ a ∈ Foreign.attrs .html tag, a.IsFair := Foreign.isFair_attrs ht
      obtain ⟨d, hd, hw⟩ := h.openBody hc ha
      exact hw.noFrameset.isReading hd.isPhase
    · have hname := beq_iff_eq.mp hframeset
      have hu : IsUsualTag tag := ⟨ht, by rw [hname]; decide, by rw [hname]; decide⟩
      have hopen := h.inAnyMode.openTag hu
      rcases hc with rfl | rfl
      · exact (reach (c := shut) hopen trivial).isReading .shut
      · -- there has been no body, so any number will do for the one that is gone
        refine isReading (c := framed 0) (reach (m := .inFrameset) ?_ (.head _)) (.framed 0)
        exact hopen.mono (fun _ => False.elim) False.elim (fun _ => False.elim) (fun hf => hf)
          fun _ _ => trivial
    · exact (h.onLateHeadTag hc.isPlaced ht (ne_body_of_head hhead) hm).elim (·.isReading hc.isPhase)
        (·.isReading .shut)
    · exact h.isReading hc.isPhase
    · exact hbare
  · split
    · exact hbare
    · exact hbare
    · exact hbare
    · exact (h.onTemplateEnd hc.isPhase).isReading hc.isPhase
    · exact h.isReading hc.isPhase
  · exact hbare

/-! ## In the body -/

/-- Where a rule of the body leads: to the same bounds, to those without a frameset, or to a frameset. -/
def Turns (c : Bounds) (b : Builder) : Prop :=
  Within c b ∨ Within shut b ∨ c.frameset ∧ ∃ body, Within (framed body) b

theorem turns (h : Within c b) : Turns c b := .inl h

theorem Turns.isReading (h : Turns c b) (hc : IsPhase c) : IsReading b := by
  rcases h with h | h | ⟨-, body, h⟩
  · exact h.isReading hc
  · exact h.isReading .shut
  · exact h.isReading (.framed body)

/-- A rule that rules out a frameset and sets a mode. -/
theorem Turns.of_closing (h : Within closing b) (m : Mode) :
    Turns c { b with framesetOk := false, mode := m } :=
  .inr (.inl { h with frameset := nofun, mode := .inl trivial })

theorem closeItem (h : Within c b) (label : String) : Within c (b.closeItem label) :=
  (h.closeImplied _).popUntilNamed label

theorem onItem (h : Within c b) (ht : IsUsualTag tag) : Within c (b.onItem tag).1 := by
  unfold Builder.onItem
  dsimp only
  split
  · exact ((noFrameset h).closeItem _).endParagraph.openTag ht
  · exact (noFrameset h).endParagraph.openTag ht

theorem mergeBody (h : Within c b) (ht : tag.IsFair) : Within c (b.mergeBody tag).1 := by
  unfold Builder.mergeBody
  split
  · split
    · exact h
    · exact noFrameset (h.addAttrs (Foreign.isFair_attrs ht) _)
  · exact h

theorem mem_of_body? {id : Nat} (h : b.body? = some id) :
    ∃ o ∈ b.stack, o.name.label = "body" ∧ o.id = id := by
  unfold Builder.body? at h
  split at h
  · next _ o _ hstack =>
    split at h
    · next hname =>
      refine ⟨o, List.mem_reverse.mp (hstack ▸ .tail _ (.head _)), ?_, Option.some.inj h⟩
      exact beq_iff_eq.mp (Bool.and_eq_true _ _ ▸ hname).2
    · cases h
  · cases h

theorem onFrameset (h : Within c b) (hc : IsBodyPhase c) (ht : IsUsualTag tag) :
    Turns c (b.onFrameset tag).1 := by
  unfold Builder.onFrameset
  split
  · exact h.turns
  · next hok =>
    have hframeset : c.frameset := h.frameset (by simpa using hok)
    split
    · exact h.turns
    · next id hid =>
      obtain ⟨o, ho, hlabel, rfl⟩ := mem_of_body? hid
      rcases hc with rfl | ⟨body, rfl⟩
      · exact hframeset.elim
      · obtain rfl : o.id = body := (h.opened o ho).2.1 hlabel
        refine .inr (.inr ⟨trivial, o.id, ?_⟩)
        -- the body is taken out, and all but the root is closed
        have hout : Within { late o.id with loose := Arena.sparing (fun _ => False) o.id }
            { b with arena := b.arena.detach o.id } :=
          h.grow (h.sound.detach o.id) (Nat.le_of_eq (Arena.size_detach _ _).symm)
        have hany : Within { framed o.id with modes := fun _ => True }
            { b with
              arena := b.arena.detach o.id
              stack := b.stack.drop (b.stack.length - 1) } :=
          (hout.keep (List.drop_subset _ _)).mono (fun _ hb => hb) (fun ht => ht)
            (fun _ hl => hl.elim False.elim fun heq => heq) (fun hf => hf) fun _ _ => trivial
        exact reach (c := framed o.id) (hany.openTag ht) (.head _)

theorem addForeign (h : Within c b) (ht : tag.IsFair) {space : Space} (hspace : space ≠ .html)
    (hbody : tag.name ≠ "body") : Within c (b.addForeign space tag) := by
  have hsvg : "body" ∉ Foreign.svgLabels := by decide
  have hlabel : Foreign.label space tag.name ≠ "body" := by
    unfold Foreign.label
    split
    · rcases Foreign.capitalized_eq Foreign.svgLabels tag.name with hmem | heq
      · exact fun hb => hsvg (hb ▸ hmem)
      · exact fun hb => hbody (heq ▸ hb)
    · exact hbody
  have hopen : Within c (b.openNamed ⟨space, Foreign.label space tag.name⟩ (Foreign.attrs space tag)).1 :=
    h.openNamed ⟨⟨Foreign.isFair_label ht.name, Foreign.isFair_attrs ht⟩,
      fun hl => absurd hl hlabel, fun hn => absurd (congrArg Name.space hn) hspace⟩
  unfold Builder.addForeign
  dsimp only
  split
  · exact hopen.pop
  · exact hopen

theorem addInline (h : Within c b) (ht : IsUsualTag tag) : Within c (b.addInline tag) :=
  h.reopen.addTag ht

/-- The start tags with a rule of their own for the tag, and what they need not be. -/
theorem isUsualTag_of (ht : tag.IsFair) (hhead : ¬ headLabels.contains tag.name = true)
    (hbody : ¬ (tag.name == "body") = true) : IsUsualTag tag := by
  refine ⟨ht, by simpa using hbody, fun hname => hhead ?_⟩
  rw [hname]
  decide

theorem mode_reopenAll (b : Builder) (entries : List Entry) : (b.reopenAll entries).1.mode = b.mode := by
  induction entries generalizing b with
  | nil => rfl
  | cons entry rest ih =>
    cases entry with
    | mark => exact ih b
    | element id tag => exact ih _

theorem mode_reopen (b : Builder) : b.reopen.mode = b.mode := by
  unfold Builder.reopen
  dsimp only
  split
  · rfl
  · exact mode_reopenAll b _

theorem mode_endParagraph (b : Builder) : b.endParagraph.mode = b.mode := by
  unfold Builder.endParagraph
  split <;> rfl

theorem onBodyStart (h : Within c b) (hc : IsBodyPhase c) (hm : c.modes b.mode) (ht : tag.IsFair) :
    Turns c (b.onBodyStart tag).1 := by
  have hclosing := h.loosen hc.isPlaced
  have hbutton := (h.closeImplied ElementSet.impliedEnd).popUntilNamed "button"
  have hnobr := (h.reopen.endFormatting "nobr").reopen
  unfold Builder.onBodyStart
  dsimp only
  refine fst_ite (Turns c) (fun _ => (h.mergeRoot ht).turns) fun _ => ?_
  refine fst_ite (Turns c) (fun hhead => ?_) fun hhead => ?_
  · exact (h.onAnyHeadTag hc.isPlaced ht (ne_body_of_head hhead) hm).elim .inl (.inr ∘ .inl)
  refine fst_ite (Turns c) (fun _ => (h.mergeBody ht).turns) fun hbody => ?_
  -- the rules from here on are not for templates or bodies
  have hu := isUsualTag_of ht hhead hbody
  refine fst_ite (Turns c) (fun _ => h.onFrameset hc hu) fun _ => ?_
  refine fst_ite (Turns c) (fun _ => (h.endParagraph.openTag hu).turns) fun _ => ?_
  refine fst_ite (Turns c) (fun _ => ((ite h.endParagraph.pop h.endParagraph).openTag hu).turns) fun _ => ?_
  refine fst_ite (Turns c) (fun _ => (noFrameset (h.endParagraph.openTag hu)).turns) fun _ => ?_
  refine fst_ite (Turns c) (fun _ => ?form) fun _ => ?_
  case form =>
    have hopen := h.endParagraph.openTag hu
    have hform : ∀ id, Within c { b.endParagraph.openTag tag with form := some id } := fun _ => hopen
    exact fst_ite (Turns c) (fun _ => h.turns) fun _ => (ite hopen (hform _)).turns
  refine fst_ite (Turns c) (fun _ => (h.onItem hu).turns) fun _ => ?_
  refine fst_ite (Turns c) (fun _ => (h.endParagraph.openTag hu).turns) fun _ => ?_
  refine fst_ite (Turns c) (fun _ => (noFrameset ((ite hbutton h).reopen.openTag hu)).turns) fun _ => ?_
  refine fst_ite (Turns c) (fun _ => (h.endOpenLink.reopen.openFormatting hu).turns) fun _ => ?_
  refine fst_ite (Turns c) (fun _ => (h.reopen.openFormatting hu).turns) fun _ => ?_
  refine fst_ite (Turns c) (fun _ => ((ite hnobr h.reopen).openFormatting hu).turns) fun _ => ?_
  refine fst_ite (Turns c) (fun _ => (noFrameset (h.reopen.openTag hu).pushMark).turns) fun _ => ?_
  refine fst_ite (Turns c) (fun _ => ?table) fun _ => ?_
  case table => exact Turns.of_closing ((ite hclosing hclosing.endParagraph).openTag hu) _
  refine fst_ite (Turns c) (fun _ => (ite (h.addInline hu) (noFrameset (h.addInline hu))).turns) fun _ => ?_
  refine fst_ite (Turns c) (fun _ => (noFrameset (h.addInline hu)).turns) fun _ => ?_
  refine fst_ite (Turns c) (fun _ => (h.addTag hu).turns) fun _ => ?_
  refine fst_ite (Turns c) (fun _ => (noFrameset (h.endParagraph.addTag hu)).turns) fun _ => ?_
  refine fst_ite (Turns c) (fun _ => ?image) fun _ => ?_
  case image =>
    have hbare := isUsualTag_bare "img" (by decide)
    have himg : IsUsualTag { tag with name := "img" } :=
      ⟨⟨hbare.fair.name, ht.names, ht.values⟩, hbare.body, hbare.template⟩
    exact (noFrameset (h.addInline himg)).turns
  refine fst_ite (Turns c) (fun _ => (openRaw (noFrameset h) hu hm .escapable).turns) fun _ => ?_
  refine fst_ite (Turns c) (fun _ => ?xmp) fun _ => ?_
  case xmp =>
    have hmode : c.modes b.endParagraph.reopen.mode := by rwa [mode_reopen, mode_endParagraph]
    exact (openRaw (noFrameset h.endParagraph.reopen) hu hmode .plain).turns
  refine fst_ite (Turns c) (fun _ => (openRaw (noFrameset h) hu hm .plain).turns) fun _ => ?_
  refine fst_ite (Turns c) (fun _ => (h.openRaw hu hm .plain).turns) fun _ => ?_
  refine fst_ite (Turns c) (fun _ => Turns.of_closing (hclosing.reopen.openTag hu) _) fun _ => ?_
  refine fst_ite (Turns c) (fun _ => ((ite h.pop h).reopen.openTag hu).turns) fun _ => ?_
  refine fst_ite (Turns c) (fun _ => ((ite (h.closeImplied _) h).openTag hu).turns) fun _ => ?_
  refine fst_ite (Turns c) (fun _ => ((ite (h.closeImplied _) h).openTag hu).turns) fun _ => ?_
  refine fst_ite (Turns c) (fun _ => (h.reopen.addForeign ht (by decide) hu.body).turns) fun _ => ?_
  refine fst_ite (Turns c) (fun _ => (h.reopen.addForeign ht (by decide) hu.body).turns) fun _ => ?_
  refine fst_ite (Turns c) (fun _ => h.turns) fun _ => ?_
  exact (h.reopen.openTag hu).turns

theorem closeNamed (h : Within c b) (label : String) : Within c (b.closeNamed label) :=
  (h.closeImplied _).popUntilNamed label

theorem endForm (h : Within c b) : Within c b.endForm.1 := by
  unfold Builder.endForm
  split
  · split
    · exact h.closeNamed "form"
    · exact h
  · split
    · exact h
    · dsimp only
      split
      · exact (h.closeImplied _).removeOpen _
      · exact h

theorem onBodyEnd (h : Within c b) (hc : IsBodyPhase c) (label : String) :
    Within c (b.onBodyEnd label).1 := by
  have hafter : c.modes .afterBody := hc.mode (by decide)
  have hparagraph := h.openPhantom "p" (by decide)
  have hbr : IsUsualTag ⟨"br", [], false⟩ := isUsualTag_bare "br" (by decide)
  unfold Builder.onBodyEnd
  refine fst_ite (Within c) (fun _ => h.onTemplateEnd hc.isPhase) fun _ => ?_
  refine fst_ite (Within c) (fun _ => ite (h.withMode hafter) h) fun _ => ?_
  refine fst_ite (Within c) (fun _ => fst_ite (Within c) (fun _ => h.withMode hafter) fun _ => h) fun _ => ?_
  refine fst_ite (Within c) (fun _ => ite (h.closeNamed label) h) fun _ => ?_
  refine fst_ite (Within c) (fun _ => h.endForm) fun _ => ?_
  refine fst_ite (Within c) (fun _ => (ite h hparagraph).closeParagraph) fun _ => ?_
  refine fst_ite (Within c) (fun _ => ite (h.closeItem label) h) fun _ => ?_
  refine fst_ite (Within c) (fun _ => ite (h.closeItem label) h) fun _ => ?_
  refine fst_ite (Within c) (fun _ => ite ((h.closeImplied _).popUntil _) h) fun _ => ?_
  refine fst_ite (Within c) (fun _ => h.endFormatting label) fun _ => ?_
  refine fst_ite (Within c) (fun _ => ite (h.closeNamed label).clearToMark h) fun _ => ?_
  refine fst_ite (Within c) (fun _ => noFrameset (h.addInline hbr)) fun _ => ?_
  exact h.endPlain label

theorem inBody (h : Within c b) (hc : IsBodyPhase c) (hm : c.modes b.mode) (ht : token.IsFair) :
    Turns c (b.inBody token).1 := by
  unfold Builder.inBody
  split
  · dsimp only [Builder.done]
    split
    · exact (h.reopen.insertChar _).turns
    · exact ((noFrameset h.reopen).insertChar _).turns
  · exact (h.insertComment _).turns
  · exact h.onBodyStart hc hm ht
  · exact (h.onBodyEnd hc _).turns
  · exact h.turns

theorem atBodyStop (h : Within c b) (hc : IsPhase c) : Within c b.atBodyStop.1 := by
  unfold Builder.atBodyStop
  split
  · exact h
  · exact h.endTemplates hc

/-! ## In tables, selections and templates -/

theorem shut_inBody (h : Within shut b) (ht : token.IsFair) : Within shut (b.inBody token).1 :=
  (h.inBody (.inl rfl) trivial ht).elim (fun h => h) fun h => h.elim (fun h => h) fun h => h.1.elim

theorem fosterInBody (h : Within shut b) (ht : token.IsFair) : Within shut (b.fosterInBody token).1 :=
  shut_inBody (b := { b with fostering := true }) h ht

theorem onTableText (h : Within shut b) (ht : token.IsFair) : Within shut (b.onTableText token).1 := by
  unfold Builder.onTableText
  split
  · exact { h with mode := .inl trivial }
  · exact h.fosterInBody ht

/-- A tag that is known not to be that of a body or a template. -/
theorem isUsualTag_of_name (ht : tag.IsFair) {label : String} (hname : tag.name = label)
    (hl : isUsualLabel label = true) : IsUsualTag tag := by
  have hbare := isUsualTag_bare _ hl
  exact ⟨ht, hname ▸ hbare.body, hname ▸ hbare.template⟩

theorem shut_onHeadTag (h : Within shut b) (ht : tag.IsFair) (hbody : tag.name ≠ "body") :
    Within shut (b.onHeadTag tag).1 :=
  (h.onAnyHeadTag (IsHeadPhase.isPlaced (.inl rfl)) ht hbody trivial).elim (fun h => h) fun h => h

theorem inTable (h : Within shut b) (ht : token.IsFair) : Within shut (b.inTable token).1 := by
  have hfoster := h.fosterInBody ht
  have hleave := (h.popUntilNamed "table").anyMode (b.popUntilNamed "table").resetMode
  cases token with
  | char c => exact h.onTableText ht
  | null => exact h.onTableText ht
  | comment text => exact h.insertComment text
  | startTag tag =>
    have hu : ∀ {label : String}, tag.name = label → isUsualLabel label = true → IsUsualTag tag :=
      fun hname hl => isUsualTag_of_name ht hname hl
    have hinside := h.popUntilCurrent ElementSet.tableScope
    dsimp only [Builder.inTable]
    split
    · next hname => exact (hinside.pushMark.openTag (hu hname (by decide))).anyMode _
    · next hname => exact (hinside.openTag (hu hname (by decide))).anyMode _
    · exact (hinside.openPhantom "colgroup" (by decide)).anyMode _
    · next hname => exact (hinside.openTag (hu hname (by decide))).anyMode _
    · next hname => exact (hinside.openTag (hu hname (by decide))).anyMode _
    · next hname => exact (hinside.openTag (hu hname (by decide))).anyMode _
    · exact (hinside.openPhantom "tbody" (by decide)).anyMode _
    · exact (hinside.openPhantom "tbody" (by decide)).anyMode _
    · exact (hinside.openPhantom "tbody" (by decide)).anyMode _
    · exact fst_ite (Within shut) (fun _ => hleave) fun _ => h
    · next hname => exact h.shut_onHeadTag ht (by rw [hname]; decide)
    · next hname => exact h.shut_onHeadTag ht (by rw [hname]; decide)
    · next hname => exact h.shut_onHeadTag ht (by rw [hname]; decide)
    · next hname =>
      exact fst_ite (Within shut) (fun _ => h.addTag (hu hname (by decide))) fun _ => hfoster
    · next hname =>
      have hform : shut.Element b.arena.size (.html "form") (Foreign.attrs .html tag) :=
        hname ▸ (hu hname (by decide)).element shut _
      exact fst_ite (Within shut) (fun _ => h) fun _ => (h.openNamed hform).pop
    · exact hfoster
  | endTag label =>
    refine fst_ite (Within shut) (fun _ => ?_) fun _ => ?_
    · exact fst_ite (Within shut) (fun _ => hleave) fun _ => h
    refine fst_ite (Within shut) (fun _ => h.onTemplateEnd .shut) fun _ => ?_
    exact fst_ite (Within shut) (fun _ => h) fun _ => hfoster
  | doctype doctype => exact h
  | fault => exact h

theorem flushTableText (h : Within shut b) : Within shut b.flushTableText := by
  have hchars : ∀ (text : List Char) (b : Builder), Within shut b →
      Within shut (text.foldl Builder.insertChar b) := by
    intro text
    induction text with
    | nil => exact fun _ h => h
    | cons c rest ih => exact fun b h => ih _ (h.insertChar c)
  have hfoster : ∀ (text : List Char) (b : Builder), Within shut b →
      Within shut (text.foldl (fun b c => (b.fosterInBody (.char c)).1) b) := by
    intro text
    induction text with
    | nil => exact fun _ h => h
    | cons c rest ih => exact fun b h => ih _ (h.fosterInBody (show (Token.char c).IsFair from trivial))
  unfold Builder.flushTableText
  dsimp only
  split
  · exact hchars _ _ h
  · exact hfoster _ _ h

theorem inTableText (h : Within shut b) : Within shut (b.inTableText token).1 := by
  cases token with
  | char c => exact h
  | null => exact h
  | _ => exact h.flushTableText.anyMode _

theorem closeCaption (h : Within shut b) : Within shut b.closeCaption :=
  (h.closeNamed "caption").clearToMark

theorem inCaption (h : Within shut b) (ht : token.IsFair) : Within shut (b.inCaption token).1 := by
  have hclose := h.closeCaption
  unfold Builder.inCaption
  refine fst_ite (Within shut) (fun _ => ?_) fun _ => ?_
  · refine fst_ite (Within shut) (fun _ => ?_) fun _ => h
    exact fst_ite (Within shut) (fun _ => hclose.anyMode _) fun _ => hclose.anyMode _
  · exact fst_ite (Within shut) (fun _ => h) fun _ => h.shut_inBody ht

theorem inColumnGroup (h : Within shut b) (ht : token.IsFair) :
    Within shut (b.inColumnGroup token).1 := by
  have hother : Within shut
      (if b.currentIs "colgroup" then b.pop.again .inTable else b.done).1 :=
    fst_ite (Within shut) (fun _ => h.pop.anyMode _) fun _ => h
  unfold Builder.inColumnGroup
  dsimp only
  split
  · exact fst_ite (Within shut) (fun _ => h.insertChar _) fun _ => hother
  · exact h.insertComment _
  · split
    · exact h.mergeRoot ht
    · next hname => exact h.addTag (isUsualTag_of_name ht hname (by decide))
    · next hname => exact h.shut_onHeadTag ht (by rw [hname]; decide)
    · exact hother
  · split
    · exact fst_ite (Within shut) (fun _ => h.pop.anyMode _) fun _ => h
    · exact h
    · exact h.onTemplateEnd .shut
    · exact hother
  · exact hother

theorem closeRows (h : Within shut b) : Within shut b.closeRows :=
  (h.popUntilCurrent _).pop

/-- The tag of a token that is one of some start tags. -/
theorem isUsualTag_of_isStart {labels : List String} (hs : isStart labels (.startTag tag) = true)
    (ht : tag.IsFair) (hl : labels.all isUsualLabel = true) : IsUsualTag tag := by
  have hmem : tag.name ∈ labels := by simpa [isStart] using hs
  exact isUsualTag_of_name ht rfl (List.all_eq_true.mp hl _ hmem)

theorem inTableBody (h : Within shut b) (ht : token.IsFair) : Within shut (b.inTableBody token).1 := by
  have hcontext := h.popUntilCurrent ElementSet.bodyContext
  unfold Builder.inTableBody
  refine fst_ite (Within shut) (fun hs => ?_) fun _ => ?_
  · split
    · exact (hcontext.openTag (isUsualTag_of_isStart hs ht (by decide))).anyMode _
    · exact h
  refine fst_ite (Within shut) (fun _ => ?_) fun _ => ?_
  · exact (hcontext.openPhantom "tr" (by decide)).anyMode _
  refine fst_ite (Within shut) (fun _ => ?_) fun _ => ?_
  · exact fst_ite (Within shut) (fun _ => h.closeRows.anyMode _) fun _ => h
  split
  · refine fst_ite (Within shut) (fun _ => ?_) fun _ => ?_
    · exact fst_ite (Within shut) (fun _ => h.closeRows.anyMode _) fun _ => h
    · exact fst_ite (Within shut) (fun _ => h) fun _ => h.inTable ht
  · exact h.inTable ht

theorem closeRow (h : Within shut b) : Within shut b.closeRow :=
  (h.popUntilCurrent _).pop

theorem leaveRow (h : Within shut b) : Within shut b.leaveRow.1 :=
  fst_ite (Within shut) (fun _ => h.closeRow.anyMode _) fun _ => h

theorem inRow (h : Within shut b) (ht : token.IsFair) : Within shut (b.inRow token).1 := by
  unfold Builder.inRow
  split
  · next tag =>
    refine fst_ite (Within shut) (fun hs => ?_) fun _ => ?_
    · have hcell : isStart ["th", "td"] (.startTag tag) = true := by simpa [isStart] using hs
      have hu := isUsualTag_of_isStart hcell ht (by decide)
      exact pushMark (((h.popUntilCurrent _).openTag hu).anyMode _)
    · exact fst_ite (Within shut) (fun _ => h.leaveRow) fun _ => h.inTable ht
  · split
    · exact fst_ite (Within shut) (fun _ => h.closeRow.anyMode _) fun _ => h
    · exact h.leaveRow
    · exact fst_ite (Within shut) (fun _ => h.leaveRow) fun _ => h
    · exact fst_ite (Within shut) (fun _ => h.leaveRow) fun _ => h
    · exact fst_ite (Within shut) (fun _ => h.leaveRow) fun _ => h
    · exact h
    · exact h
    · exact h
    · exact h
    · exact h
    · exact h
    · exact h
    · exact h.inTable ht
  · exact h.inTable ht

theorem leaveCell (h : Within shut b) : Within shut b.leaveCell.1 :=
  ((h.closeImplied _).popUntil _).clearToMark.anyMode _

theorem inCell (h : Within shut b) (ht : token.IsFair) : Within shut (b.inCell token).1 := by
  have hleave : ∀ label, Within shut (if b.hasInTable label then b.leaveCell else b.done).1 :=
    fun _ => fst_ite (Within shut) (fun _ => h.leaveCell) fun _ => h
  have hclose : ∀ label, Within shut
      (if b.hasInTable label then
        { (b.closeNamed label).clearToMark with mode := .inRow }.done else b.done).1 := fun label =>
    fst_ite (Within shut) (fun _ => (h.closeNamed label).clearToMark.anyMode _) fun _ => h
  unfold Builder.inCell
  split
  · refine fst_ite (Within shut) (fun _ => ?_) fun _ => h.shut_inBody ht
    exact fst_ite (Within shut) (fun _ => h.leaveCell) fun _ => h
  · split
    · exact hclose _
    · exact hclose _
    · exact h
    · exact h
    · exact h
    · exact h
    · exact h
    · exact hleave _
    · exact hleave _
    · exact hleave _
    · exact hleave _
    · exact hleave _
    · exact h.shut_inBody ht
  · exact h.shut_inBody ht

theorem closeSelect (h : Within shut b) : Within shut b.closeSelect :=
  (h.popUntilNamed "select").anyMode _

theorem closeOptions (h : Within shut b) : Within shut b.closeOptions :=
  have hoption : Within shut (if b.currentIs "option" then b.pop else b) := ite h.pop h
  ite hoption.pop hoption

theorem inSelect (h : Within shut b) (ht : token.IsFair) : Within shut (b.inSelect token).1 := by
  have hleave : Within shut
      (if b.hasIn ElementSet.selectScope "select" then b.closeSelect.again b.closeSelect.mode
        else b.done).1 :=
    fst_ite (Within shut) (fun _ => h.closeSelect.anyMode _) fun _ => h
  unfold Builder.inSelect
  split
  · exact h.insertChar _
  · exact h.insertComment _
  · dsimp only
    split
    · exact h.mergeRoot ht
    · next hname => exact (ite h.pop h).openTag (isUsualTag_of_name ht hname (by decide))
    · next hname => exact h.closeOptions.openTag (isUsualTag_of_name ht hname (by decide))
    · next hname => exact h.closeOptions.addTag (isUsualTag_of_name ht hname (by decide))
    · exact ite h.closeSelect h
    · exact hleave
    · exact hleave
    · exact hleave
    · next hname => exact h.shut_onHeadTag ht (by rw [hname]; decide)
    · next hname => exact h.shut_onHeadTag ht (by rw [hname]; decide)
    · exact h
  · dsimp only
    split
    · exact (ite (ite h.pop h).pop (ite h.pop h))
    · exact ite h.pop h
    · exact ite h.closeSelect h
    · exact h.onTemplateEnd .shut
    · exact h
  · exact h

theorem inSelectInTable (h : Within shut b) (ht : token.IsFair) :
    Within shut (b.inSelectInTable token).1 := by
  have hleave := h.closeSelect.anyMode b.closeSelect.mode
  unfold Builder.inSelectInTable
  dsimp only
  split
  · exact fst_ite (Within shut) (fun _ => hleave) fun _ => h.inSelect ht
  · refine fst_ite (Within shut) (fun _ => ?_) fun _ => h.inSelect ht
    exact fst_ite (Within shut) (fun _ => hleave) fun _ => h
  · exact h.inSelect ht

theorem asTemplate (h : Within shut b) (mode : Mode) : Within shut (b.asTemplate mode).1 :=
  h.anyMode mode

theorem inTemplate (h : Within shut b) (ht : token.IsFair) : Within shut (b.inTemplate token).1 := by
  unfold Builder.inTemplate
  split
  · exact h.shut_inBody ht
  · exact h.shut_inBody ht
  · refine fst_ite (Within shut) (fun hhead => h.shut_onHeadTag ht (ne_body_of_head hhead)) fun _ => ?_
    split <;> exact h.asTemplate _
  · exact fst_ite (Within shut) (fun _ => h.onTemplateEnd .shut) fun _ => h
  · exact h

end Within

end Builder

end PageEdit.Html.Build
