import PageEdit.Proofs.Html.Rules
import PageEdit.Proofs.Html.Scanning

/-!
# Reading stays within the bounds

The rules lead from phase to phase, so reading does, token by token: whatever mode is on tells which phases are
possible, and rules for foreign elements are in bounds in all of them. The scanner gives fair tokens only, as
what the rules tell it is fair too. So every text is read within the bounds of the phases, to its end.

* `Within.inMode`: one token, by the rules of the mode that is on.
* `Builder.isReading_read`: one token, by whatever rules.
* `Reader.isReading_text`: every text.
-/

namespace PageEdit.Html.Build

/-! ## Modes of the phases -/

theorem IsPhase.isHeadPhase {c : Bounds} (hc : IsPhase c) {m : Mode} (hm : c.modes m)
    (hhead : m ∈ headModes) : IsHeadPhase c := by
  have hbody : ∀ m ∈ headModes, m ∉ bodyModes ∧ m ∉ framesetModes := by decide
  cases hc with
  | shut => exact .inl rfl
  | early => exact .inr rfl
  | late => exact absurd hm (hbody m hhead).1
  | framed => exact absurd hm (hbody m hhead).2

theorem IsPhase.isBodyPhase {c : Bounds} (hc : IsPhase c) {m : Mode} (hm : c.modes m)
    (hbody : m ∈ bodyModes) : IsBodyPhase c := by
  have hother : ∀ m ∈ bodyModes, m ∉ headModes ∧ m ∉ framesetModes := by decide
  cases hc with
  | shut => exact .inl rfl
  | early => exact absurd hm (hother m hbody).1
  | late body => exact .inr ⟨body, rfl⟩
  | framed => exact absurd hm (hother m hbody).2

theorem IsPhase.eq_shut_of_mode {c : Bounds} (hc : IsPhase c) {m : Mode} (hm : c.modes m)
    (hother : m ∉ headModes ++ (bodyModes ++ framesetModes)) : c = Build.shut := by
  simp only [List.mem_append, not_or] at hother
  cases hc with
  | shut => rfl
  | early => exact absurd hm hother.1
  | late => exact absurd hm hother.2.1
  | framed => exact absurd hm hother.2.2

namespace Builder

namespace Within

variable {c : Bounds} {b : Builder} {tag : Tag} {token : Token}

/-! ## After the body, and framesets -/

theorem withHome (h : Within c b) (hmode : b.mode = .text) (hc : IsPhase c) :
    Within c { b with mode := b.home } := by
  rcases h.mode with hm | ⟨-, hm⟩
  · obtain rfl := hc.eq_shut_of_mode hm (by rw [hmode]; decide)
    exact h.anyMode _
  · exact h.withMode hm

theorem inText (h : Within c b) (hmode : b.mode = .text) (hc : IsPhase c) :
    Within c (b.inText token).1 := by
  unfold Builder.inText
  split
  · exact h.insertChar _
  · exact h.pop.withHome hmode hc
  · exact h

theorem inBody_char (h : Within c b) (char : Char) : Within c (b.inBody (.char char)).1 :=
  (ite h.reopen (noFrameset h.reopen)).insertChar char

theorem inAfterBody (h : Within c b) (hc : IsBodyPhase c) (ht : token.IsFair) :
    Within c (b.inAfterBody token).1 := by
  have hbody : c.modes .inBody := hc.mode (by decide)
  unfold Builder.inAfterBody
  split
  · exact fst_ite (Within c) (fun _ => h.inBody_char _) fun _ => h.withMode hbody
  · exact h.appendComment _ _
  · exact fst_ite (Within c) (fun _ => h.mergeRoot ht) fun _ => h.withMode hbody
  · exact fst_ite (Within c) (fun _ => h.withMode (hc.mode (by decide))) fun _ => h.withMode hbody
  · exact h.withMode hbody

theorem inAfterAfterBody (h : Within c b) (hc : IsBodyPhase c) (ht : token.IsFair) :
    Within c (b.inAfterAfterBody token).1 := by
  have hbody : c.modes .inBody := hc.mode (by decide)
  unfold Builder.inAfterAfterBody
  split
  · exact fst_ite (Within c) (fun _ => h.inBody_char _) fun _ => h.withMode hbody
  · exact h.appendComment _ _
  · exact fst_ite (Within c) (fun _ => h.mergeRoot ht) fun _ => h.withMode hbody
  · exact h.withMode hbody

theorem inFrameset (h : Within c b) (hm : c.modes b.mode) (hafter : c.modes .afterFrameset)
    (ht : token.IsFair) : Within c (b.inFrameset token).1 := by
  unfold Builder.inFrameset
  split
  · exact ite (h.insertChar _) h
  · exact h.insertComment _
  · split
    · exact h.mergeRoot ht
    · next hname => exact h.openTag (isUsualTag_of_name ht hname (by decide))
    · next hname => exact h.addTag (isUsualTag_of_name ht hname (by decide))
    · next hname => exact h.onHeadTag (isUsualTag_of_name ht hname (by decide)) hm
    · exact h
  · refine fst_ite (Within c) (fun _ => h) fun _ => ?_
    exact ite h.pop (h.pop.withMode hafter)
  · exact h

theorem inAfterFrameset (h : Within c b) (hm : c.modes b.mode) (hafter : c.modes .afterAfterFrameset)
    (ht : token.IsFair) : Within c (b.inAfterFrameset token).1 := by
  unfold Builder.inAfterFrameset
  split
  · exact ite (h.insertChar _) h
  · exact h.insertComment _
  · split
    · exact h.mergeRoot ht
    · next hname => exact h.onHeadTag (isUsualTag_of_name ht hname (by decide)) hm
    · exact h
  · exact fst_ite (Within c) (fun _ => h.withMode hafter) fun _ => h
  · exact h

theorem inAfterAfterFrameset (h : Within c b) (hm : c.modes b.mode) (ht : token.IsFair) :
    Within c (b.inAfterAfterFrameset token).1 := by
  unfold Builder.inAfterAfterFrameset
  split
  · exact fst_ite (Within c) (fun _ => h.inBody_char _) fun _ => h
  · exact h.appendComment _ _
  · split
    · exact h.mergeRoot ht
    · next hname => exact h.onHeadTag (isUsualTag_of_name ht hname (by decide)) hm
    · exact h
  · exact h

/-! ## All modes -/

/-- The rules of the mode lead from phase to phase. -/
theorem inMode (h : Within c b) (hc : IsPhase c) (ht : token.IsFair) :
    IsReading (b.inMode b.mode token).1 := by
  by_cases htext : b.mode = .text
  · rw [htext]
    exact (h.inText htext hc).isReading hc
  have hm : c.modes b.mode := h.mode.resolve_right fun h => htext h.1
  have hhead : b.mode ∈ headModes → IsHeadPhase c := hc.isHeadPhase hm
  have hbody : b.mode ∈ bodyModes → IsBodyPhase c := hc.isBodyPhase hm
  have hshut : b.mode ∉ headModes ++ (bodyModes ++ framesetModes) → Within shut b := fun hother =>
    hc.eq_shut_of_mode hm hother ▸ h
  have hframeset : ∀ m ∈ framesetModes, b.mode ∈ framesetModes → c.modes m := by
    intro m hmem hmode
    have hother : ∀ m ∈ framesetModes, m ∉ headModes ∧ m ∉ bodyModes := by decide
    cases hc with
    | shut => trivial
    | early => exact absurd hm (hother _ hmode).1
    | late => exact absurd hm (hother _ hmode).2
    | framed => exact hmem
  -- a mode tells which phases are possible, and so the rules of which phase are needed
  cases hmode : b.mode <;> rw [hmode] at hhead hbody hshut hframeset
  case initial => exact (h.inInitial (hhead (by decide))).isReading hc
  case beforeHtml => exact (h.inBeforeHtml (hhead (by decide)) ht).isReading hc
  case beforeHead => exact (h.inBeforeHead (hhead (by decide)) ht).isReading hc
  case inHead => exact h.inHead (hhead (by decide)) hm ht
  case afterHead => exact h.inAfterHead (hhead (by decide)) hm ht
  case inBody => exact (h.inBody (hbody (by decide)) hm ht).isReading hc
  case text => exact absurd hmode htext
  case inTable => exact ((hshut (by decide)).inTable ht).isReading .shut
  case inTableText => exact (hshut (by decide)).inTableText.isReading .shut
  case inCaption => exact ((hshut (by decide)).inCaption ht).isReading .shut
  case inColumnGroup => exact ((hshut (by decide)).inColumnGroup ht).isReading .shut
  case inTableBody => exact ((hshut (by decide)).inTableBody ht).isReading .shut
  case inRow => exact ((hshut (by decide)).inRow ht).isReading .shut
  case inCell => exact ((hshut (by decide)).inCell ht).isReading .shut
  case inSelect => exact ((hshut (by decide)).inSelect ht).isReading .shut
  case inSelectInTable => exact ((hshut (by decide)).inSelectInTable ht).isReading .shut
  case inTemplate => exact ((hshut (by decide)).inTemplate ht).isReading .shut
  case afterBody => exact (h.inAfterBody (hbody (by decide)) ht).isReading hc
  case inFrameset =>
    exact (h.inFrameset hm (hframeset _ (by decide) (by decide)) ht).isReading hc
  case afterFrameset =>
    exact (h.inAfterFrameset hm (hframeset _ (by decide) (by decide)) ht).isReading hc
  case afterAfterBody => exact (h.inAfterAfterBody (hbody (by decide)) ht).isReading hc
  case afterAfterFrameset => exact (h.inAfterAfterFrameset hm ht).isReading hc

/-! ## Foreign elements -/

theorem foreignEnd_subset {label : String} {first : Bool} {stack left : List Opened}
    (h : foreignEnd label first stack = .close left) : left ⊆ stack := by
  induction stack generalizing first with
  | nil => cases h
  | cons o rest ih =>
    cases rest with
    | nil => cases h
    | cons p rest =>
      rw [foreignEnd] at h
      split at h
      · cases h
      · split at h
        · exact ForeignEnd.close.inj h ▸ List.subset_cons_self _ _
        · exact List.subset_cons_of_subset _ (ih h)
      · exact nofun

theorem leaveForeign (h : Within c b) : Within c b.leaveForeign := h.popUntilCurrent _

theorem inForeign (h : Within c b) (hc : IsPhase c) (hspace : b.current.name.space ≠ .html)
    (ht : token.IsFair) : IsReading (b.inForeign token).1 := by
  have hleave := h.leaveForeign.inMode hc ht
  unfold Builder.inForeign
  split
  · exact (h.insertChar _).isReading hc
  · exact ((ite h (noFrameset h)).insertChar _).isReading hc
  · exact (h.insertComment _).isReading hc
  · next tag =>
    refine fst_ite IsReading (fun _ => hleave) fun hstays => ?_
    have hbody : tag.name ≠ "body" := by
      intro hname
      refine hstays ?_
      rw [Foreign.breaksOut, hname]
      rfl
    exact (h.addForeign ht hspace hbody).isReading hc
  · refine fst_ite IsReading (fun _ => hleave) fun _ => ?_
    split
    · exact h.isReading hc
    · next left hclose => exact (h.keep (foreignEnd_subset hclose)).isReading hc
    · exact h.inMode hc ht
  · exact h.isReading hc

end Within

/-! ## Tokens -/

variable {b : Builder} {token : Token}

theorem isReading_readWithin (bound : Nat) (h : IsReading b) (ht : token.IsFair) :
    IsReading (readWithin bound b token).1 := by
  induction bound generalizing b with
  | zero => exact h
  | succ bound ih =>
    obtain ⟨c, hc, hw⟩ := h
    have hnext : IsReading (if b.isForeign token then b.inForeign token else b.inMode b.mode token).1 := by
      refine Within.fst_ite IsReading (fun hforeign => hw.inForeign hc ?_ ht) fun _ => hw.inMode hc ht
      intro hspace
      have hcurrent : (!b.currentIsForeign) = true := by simp [currentIsForeign, hspace]
      have hnot : b.isForeign token = false := if_pos hcurrent
      rw [hnot] at hforeign
      cases hforeign
    rw [readWithin]
    split
    · next hout => rwa [hout] at hnext
    · next hout => exact ih (by rwa [hout] at hnext)
    · next hout => rwa [hout] at hnext

theorem isReading_read (h : IsReading b) (ht : token.IsFair) : IsReading (b.read token).1 := by
  have hline : IsReading { b with skipLine := false } := h
  unfold read
  dsimp only
  split
  · exact hline
  · next doctype =>
    obtain ⟨c, hc, hw⟩ := hline
    refine (hw.onDoctype (fun hmode => ?_) doctype).isReading hc
    exact hc.isHeadPhase (hw.mode.resolve_right fun h => by rw [hmode] at h; cases h.1) (by rw [hmode]; decide)
  · split
    · exact hline
    · exact isReading_readWithin _ hline ht
  · exact isReading_readWithin _ hline ht

/-! ## The end of the text -/

theorem isReading_stopOnce (h : IsReading b) : IsReading b.stopOnce.1 := by
  obtain ⟨c, hc, hw⟩ := h
  have hhead : b.mode ∈ headModes → IsHeadPhase c := fun hmem =>
    hc.isHeadPhase (hw.mode.resolve_right fun h => by rw [h.1] at hmem; revert hmem; decide) hmem
  have hstop := (hw.atBodyStop hc).isReading hc
  unfold stopOnce
  cases hmode : b.mode <;> rw [hmode] at hhead <;> dsimp only
  case initial =>
    have hm : c.modes .beforeHtml := (hhead (by decide)).mode (by decide)
    exact (hw.withMode hm).isReading hc
  case beforeHtml =>
    refine (Within.withMode (hw.openRoot ?_) ((hhead (by decide)).mode (by decide))).isReading hc
    exact Within.html_isFair (List.forall_mem_nil _)
  case beforeHead =>
    have hm : c.modes .inHead := (hhead (by decide)).mode (by decide)
    exact ((hw.openHead (List.forall_mem_nil _) hm).withMode hm).isReading hc
  case inHead => exact (hw.pop.withMode ((hhead (by decide)).mode (by decide))).isReading hc
  case afterHead =>
    obtain ⟨d, hd, hopen⟩ := hw.openBody (hhead (by decide)) (List.forall_mem_nil _)
    exact (hopen.withMode (hd.mode (by decide))).isReading hd.isPhase
  case text => exact (Within.withHome (b := b.pop) hw.pop hmode hc).isReading hc
  case inTableText =>
    have hm := hw.mode.resolve_right fun h => by rw [hmode] at h; cases h.1
    obtain rfl := hc.eq_shut_of_mode hm (by rw [hmode]; decide)
    exact (hw.flushTableText.anyMode _).isReading .shut
  case inTemplate => exact (hw.endTemplates hc).isReading hc
  all_goals first | exact hstop | exact hw.isReading hc

theorem isReading_stopWithin (bound : Nat) (h : IsReading b) : IsReading (stopWithin bound b) := by
  induction bound generalizing b with
  | zero => exact h
  | succ bound ih =>
    have hstop := isReading_stopOnce h
    rw [stopWithin]
    split
    · next hout => exact ih (by rwa [hout] at hstop)
    · next hout => rwa [hout] at hstop

theorem isReading_start : IsReading start := by
  refine ⟨early, .early, .start, ?_, ?_, nofun, fun _ => trivial, .inl (.head _)⟩
  · exact fun o ho => absurd ho List.not_mem_nil
  · exact fun e he => absurd he List.not_mem_nil

end Builder

/-! ## The whole text -/

namespace Reader

/-- Whether the scanner holds nothing but what is fair and the builder is within the bounds of a phase. -/
structure IsReading (r : Reader) : Prop where
  state : r.scanner.state.IsFair
  builder : r.builder.IsReading

variable {r : Reader}

theorem isReading_readToken (h : r.IsReading) {token : Token} (ht : token.IsFair) :
    (r.readToken token).IsReading := by
  refine ⟨?_, Builder.isReading_read h.builder ht⟩
  show ((r.builder.read token).2.getD r.scanner.state).IsFair
  cases hstate : (r.builder.read token).2 with
  | none => exact h.state
  | some state => exact Builder.isFair_read _ _ hstate

theorem isReading_readTokens (h : r.IsReading) {tokens : List Token} (ht : ∀ t ∈ tokens, t.IsFair) :
    (tokens.foldl readToken r).IsReading := by
  induction tokens generalizing r with
  | nil => exact h
  | cons t rest ih =>
    exact ih (isReading_readToken h (ht t (.head _))) fun u hu => ht u (.tail _ hu)

theorem isReading_feed (h : r.IsReading) (c : Char) : (r.feed c).IsReading := by
  have hbuilder : Builder.IsReading { r.builder with skipMark := false } := h.builder
  unfold feed
  dsimp only
  split
  · exact ⟨h.state, hbuilder⟩
  · obtain ⟨hstate, htokens⟩ := Scanner.isFair_feed h.state
      (Builder.currentIsForeign { r.builder with skipMark := false }) c
    exact isReading_readTokens (r := ⟨_, _⟩) ⟨hstate, hbuilder⟩ htokens

theorem isReading_foldl_feed (text : List Char) (h : r.IsReading) : (text.foldl feed r).IsReading := by
  induction text generalizing r with
  | nil => exact h
  | cons c rest ih => exact ih (isReading_feed h c)

theorem isReading_finish (h : r.IsReading) : r.finish.IsReading := by
  have htokens := isReading_readTokens h (Scanner.isFair_stop h.state)
  exact Builder.isReading_stopWithin _ htokens.builder

/-- Every text is read within the bounds of the phases. -/
theorem isReading_text (text : List Char) : (text.foldl feed start).finish.IsReading :=
  isReading_finish (isReading_foldl_feed text ⟨trivial, Builder.isReading_start⟩)

end Reader

end PageEdit.Html.Build
