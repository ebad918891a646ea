import PageEdit.Html.Build.Reader
import PageEdit.Proofs.Html.Tokens

/-!
# What the rules tell the scanner

A rule may tell the scanner that raw text follows, or that all the rest is text. It never puts it back into a
tag, so what the scanner holds stays fair.

* `Builder.isFair_read`: for any token in any state.
-/

namespace PageEdit.Html.Build

/-- Whether the scanner goes on in a fair state, if it is told anything. -/
def Next.IsFair : Next → Prop
  | .scan state => state.IsFair
  | _ => True

namespace Builder

theorem isFair_ite {p : Prop} [Decidable p] {x y : Outcome} (hx : x.2.IsFair) (hy : y.2.IsFair) :
    (if p then x else y).2.IsFair := by
  split
  · exact hx
  · exact hy

/-! ## Before and in the body -/

theorem isFair_mergeRoot (b : Builder) (tag : Tag) : (b.mergeRoot tag).2.IsFair := isFair_ite trivial trivial

theorem isFair_onTemplateEnd (b : Builder) : b.onTemplateEnd.2.IsFair := isFair_ite trivial trivial

theorem isFair_onHeadTag (b : Builder) (tag : Tag) : (b.onHeadTag tag).2.IsFair := by
  unfold onHeadTag
  split <;> trivial

theorem isFair_onLateHeadTag (b : Builder) (tag : Tag) : (b.onLateHeadTag tag).2.IsFair := by
  unfold onLateHeadTag
  split <;> exact isFair_onHeadTag _ _

theorem isFair_inInitial (b : Builder) (token : Token) : (b.inInitial token).2.IsFair := by
  unfold inInitial
  repeat' first | trivial | split

theorem isFair_inBeforeHtml (b : Builder) (token : Token) : (b.inBeforeHtml token).2.IsFair := by
  unfold inBeforeHtml
  dsimp only
  repeat' first | trivial | split

theorem isFair_inBeforeHead (b : Builder) (token : Token) : (b.inBeforeHead token).2.IsFair := by
  unfold inBeforeHead
  dsimp only
  repeat' first | trivial | exact isFair_mergeRoot _ _ | split

theorem isFair_inHead (b : Builder) (token : Token) : (b.inHead token).2.IsFair := by
  unfold inHead
  dsimp only
  repeat' first
    | trivial
    | exact isFair_mergeRoot _ _
    | exact isFair_onHeadTag _ _
    | exact isFair_onTemplateEnd _
    | split

theorem isFair_inAfterHead (b : Builder) (token : Token) : (b.inAfterHead token).2.IsFair := by
  unfold inAfterHead
  dsimp only
  repeat' first
    | trivial
    | exact isFair_mergeRoot _ _
    | exact isFair_onLateHeadTag _ _
    | exact isFair_onTemplateEnd _
    | split

theorem isFair_mergeBody (b : Builder) (tag : Tag) : (b.mergeBody tag).2.IsFair := by
  unfold mergeBody
  repeat' first | trivial | split

theorem isFair_onFrameset (b : Builder) (tag : Tag) : (b.onFrameset tag).2.IsFair := by
  unfold onFrameset
  repeat' first | trivial | split

theorem isFair_onBodyStart (b : Builder) (tag : Tag) : (b.onBodyStart tag).2.IsFair := by
  unfold onBodyStart
  dsimp only
  repeat' first
    | trivial
    | exact isFair_mergeRoot _ _
    | exact isFair_onHeadTag _ _
    | exact isFair_mergeBody _ _
    | exact isFair_onFrameset _ _
    | refine isFair_ite ?_ ?_

theorem isFair_endForm (b : Builder) : b.endForm.2.IsFair := by
  unfold endForm
  dsimp only
  repeat' first | trivial | split

theorem isFair_onBodyEnd (b : Builder) (label : String) : (b.onBodyEnd label).2.IsFair := by
  unfold onBodyEnd
  repeat' first
    | trivial
    | exact isFair_onTemplateEnd _
    | exact isFair_endForm _
    | refine isFair_ite ?_ ?_

theorem isFair_inBody (b : Builder) (token : Token) : (b.inBody token).2.IsFair := by
  unfold inBody
  split
  · trivial
  · trivial
  · exact isFair_onBodyStart _ _
  · exact isFair_onBodyEnd _ _
  · trivial

/-! ## In tables, selections and templates -/

theorem isFair_fosterInBody (b : Builder) (token : Token) : (b.fosterInBody token).2.IsFair :=
  isFair_inBody { b with fostering := true } token

theorem isFair_onTableText (b : Builder) (token : Token) : (b.onTableText token).2.IsFair :=
  isFair_ite trivial (isFair_fosterInBody _ _)

theorem isFair_inTable (b : Builder) (token : Token) : (b.inTable token).2.IsFair := by
  cases token
  all_goals dsimp only [inTable]
  repeat' first
    | trivial
    | exact isFair_onTableText _ _
    | exact isFair_onHeadTag _ _
    | exact isFair_fosterInBody _ _
    | exact isFair_onTemplateEnd _
    | split

theorem isFair_inTableText (b : Builder) (token : Token) : (b.inTableText token).2.IsFair := by
  cases token <;> trivial

theorem isFair_inCaption (b : Builder) (token : Token) : (b.inCaption token).2.IsFair := by
  unfold inCaption
  repeat' first | trivial | exact isFair_inBody _ _ | split

theorem isFair_inColumnGroup (b : Builder) (token : Token) : (b.inColumnGroup token).2.IsFair := by
  unfold inColumnGroup
  dsimp only
  repeat' first
    | trivial
    | exact isFair_mergeRoot _ _
    | exact isFair_onHeadTag _ _
    | exact isFair_onTemplateEnd _
    | split

theorem isFair_inTableBody (b : Builder) (token : Token) : (b.inTableBody token).2.IsFair := by
  unfold inTableBody
  dsimp only
  repeat' first | trivial | exact isFair_inTable _ _ | split

theorem isFair_inRow (b : Builder) (token : Token) : (b.inRow token).2.IsFair := by
  unfold inRow leaveRow
  repeat' first | trivial | exact isFair_inTable _ _ | split

theorem isFair_inCell (b : Builder) (token : Token) : (b.inCell token).2.IsFair := by
  unfold inCell leaveCell
  repeat' first | trivial | exact isFair_inBody _ _ | split

theorem isFair_inSelect (b : Builder) (token : Token) : (b.inSelect token).2.IsFair := by
  unfold inSelect
  dsimp only
  repeat' first
    | trivial
    | exact isFair_mergeRoot _ _
    | exact isFair_onHeadTag _ _
    | exact isFair_onTemplateEnd _
    | split

theorem isFair_inSelectInTable (b : Builder) (token : Token) : (b.inSelectInTable token).2.IsFair := by
  unfold inSelectInTable
  dsimp only
  repeat' first | trivial | exact isFair_inSelect _ _ | split

theorem isFair_inTemplate (b : Builder) (token : Token) : (b.inTemplate token).2.IsFair := by
  unfold inTemplate
  repeat' first
    | trivial
    | exact isFair_inBody _ _
    | exact isFair_onHeadTag _ _
    | exact isFair_onTemplateEnd _
    | split

/-! ## After the body, and framesets -/

theorem isFair_inText (b : Builder) (token : Token) : (b.inText token).2.IsFair := by
  unfold inText
  split <;> trivial

theorem isFair_inAfterBody (b : Builder) (token : Token) : (b.inAfterBody token).2.IsFair := by
  unfold inAfterBody
  repeat' first | trivial | exact isFair_inBody _ _ | exact isFair_mergeRoot _ _ | split

theorem isFair_inFrameset (b : Builder) (token : Token) : (b.inFrameset token).2.IsFair := by
  unfold inFrameset
  repeat' first | trivial | exact isFair_mergeRoot _ _ | exact isFair_onHeadTag _ _ | split

theorem isFair_inAfterFrameset (b : Builder) (token : Token) : (b.inAfterFrameset token).2.IsFair := by
  unfold inAfterFrameset
  repeat' first | trivial | exact isFair_mergeRoot _ _ | exact isFair_onHeadTag _ _ | split

theorem isFair_inAfterAfterBody (b : Builder) (token : Token) : (b.inAfterAfterBody token).2.IsFair := by
  unfold inAfterAfterBody
  repeat' first | trivial | exact isFair_inBody _ _ | exact isFair_mergeRoot _ _ | split

theorem isFair_inAfterAfterFrameset (b : Builder) (token : Token) :
    (b.inAfterAfterFrameset token).2.IsFair := by
  unfold inAfterAfterFrameset
  repeat' first
    | trivial
    | exact isFair_inBody _ _
    | exact isFair_mergeRoot _ _
    | exact isFair_onHeadTag _ _
    | split

/-! ## All modes -/

theorem isFair_inMode (b : Builder) (mode : Mode) (token : Token) : (b.inMode mode token).2.IsFair := by
  cases mode with
  | initial => exact isFair_inInitial b token
  | beforeHtml => exact isFair_inBeforeHtml b token
  | beforeHead => exact isFair_inBeforeHead b token
  | inHead => exact isFair_inHead b token
  | afterHead => exact isFair_inAfterHead b token
  | inBody => exact isFair_inBody b token
  | text => exact isFair_inText b token
  | inTable => exact isFair_inTable b token
  | inTableText => exact isFair_inTableText b token
  | inCaption => exact isFair_inCaption b token
  | inColumnGroup => exact isFair_inColumnGroup b token
  | inTableBody => exact isFair_inTableBody b token
  | inRow => exact isFair_inRow b token
  | inCell => exact isFair_inCell b token
  | inSelect => exact isFair_inSelect b token
  | inSelectInTable => exact isFair_inSelectInTable b token
  | inTemplate => exact isFair_inTemplate b token
  | afterBody => exact isFair_inAfterBody b token
  | inFrameset => exact isFair_inFrameset b token
  | afterFrameset => exact isFair_inAfterFrameset b token
  | afterAfterBody => exact isFair_inAfterAfterBody b token
  | afterAfterFrameset => exact isFair_inAfterAfterFrameset b token

theorem isFair_inForeign (b : Builder) (token : Token) : (b.inForeign token).2.IsFair := by
  unfold inForeign
  dsimp only
  repeat' first | trivial | exact isFair_inMode _ _ _ | split

theorem isFair_readWithin (bound : Nat) (b : Builder) (token : Token) {state : State}
    (h : (readWithin bound b token).2 = some state) : state.IsFair := by
  induction bound generalizing b with
  | zero => cases h
  | succ bound ih =>
    rw [readWithin] at h
    have hnext : (if b.isForeign token then b.inForeign token else b.inMode b.mode token).2.IsFair :=
      isFair_ite (isFair_inForeign b token) (isFair_inMode b _ token)
    split at h
    · cases h
    · exact ih _ h
    · next hout =>
      obtain rfl := Option.some.inj h
      rwa [hout] at hnext

theorem isFair_read (b : Builder) (token : Token) {state : State} (h : (b.read token).2 = some state) :
    state.IsFair := by
  unfold read at h
  dsimp only at h
  split at h
  · cases h
  · cases h
  · split at h
    · cases h
    · exact isFair_readWithin _ _ _ h
  · exact isFair_readWithin _ _ _ h

end Builder

end PageEdit.Html.Build
