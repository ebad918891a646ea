import PageEdit.Patch.Response
import PageEdit.Proofs.Patch.Runs

/-!
# All or nothing

An answer can be applied in two modes. They read the answer and apply its patches in the same way and
differ only in the page that is kept. An item of an answer can be lost in three ways: it is no patch, it is a
patch that does nothing, or it fails on the page that the items before it have left. The careful mode keeps
the result only if none of this has happened to any item.

* `failures_eq_nil_iff`: a run is without failures exactly if each of its places is among those applied.
* `rejected_validateBatch_eq_nil_iff`: a batch is without rejections exactly if each item is a sound patch.
* `careful_answers_are_all_or_nothing`: what the two modes share, and which page each of them keeps.
-/

namespace PageEdit

/-! ## Nothing failed, nothing rejected -/

theorem failures_eq_nil_iff {html : String} {patches : List Patch} :
    (applyAll html patches).failures = [] ↔
      ∀ i < patches.length, i ∈ (applyAll html patches).applied := by
  have hperm := applied_append_failed_perm html patches
  constructor
  · intro hnone i hi
    have hmem := hperm.mem_iff.mpr (List.mem_range.mpr hi)
    simpa [Report.failed, hnone] using hmem
  · intro hall
    refine List.eq_nil_iff_forall_not_mem.mpr fun f hf => ?_
    have hfailed : f.index ∈ (applyAll html patches).failed := List.mem_map_of_mem hf
    have hlt : f.index < patches.length :=
      List.mem_range.mp (hperm.mem_iff.mp (List.mem_append_right _ hfailed))
    -- a place that failed would stand among those applied as well
    have hnodup := hperm.nodup_iff.mpr List.nodup_range
    exact (List.nodup_append.mp hnodup).2.2 _ (hall _ hlt) _ hfailed rfl

theorem rejected_validateFrom_eq_nil_iff {index : Nat} {items : List Json.Value} :
    (validateFrom index items).2 = [] ↔ ∀ item ∈ items, ∃ p, readItem item = .ok p := by
  induction items generalizing index with
  | nil => simp [validateFrom]
  | cons item rest ih =>
    cases hitem : readItem item with
    | ok p => simp [validateFrom, hitem, ih]
    | error cause => simp [validateFrom, hitem]

theorem rejected_validateBatch_eq_nil_iff (items : List Json.Value) :
    (validateBatch items).2 = [] ↔ ∀ item ∈ items, ∃ p, readItem item = .ok p :=
  rejected_validateFrom_eq_nil_iff

/-! ## The items of an answer -/

/-- The items of the envelope that an answer holds, if there is one that can be read. -/
def envelopeItems? (text : String) : Option (List Json.Value) :=
  match unfence text.toList with
  | '\x7b' :: rest => ((Envelope.read rest).map (·.1)).toOption
  | _ => none

/-- An answer with patches holds an envelope whose items they are, or it has no patches and says why. -/
theorem Response.ofText_eq_patches {text : String} {batch : Batch}
    (h : Response.ofText text = .patches batch) :
    (∃ items, envelopeItems? text = some items ∧ batch.fault = none ∧
        validateBatch items = (batch.patches, batch.rejected)) ∨
      (envelopeItems? text = none ∧ batch.fault.isSome = true ∧ batch.patches = [] ∧
        batch.rejected = [] ∧ batch.summary = none) := by
  simp only [Response.ofText] at h
  unfold envelopeItems?
  split at h
  · rename_i rest hbody
    rw [hbody]
    cases hread : Envelope.read rest with
    | ok content =>
      obtain ⟨items, summary⟩ := content
      rw [hread] at h
      cases h
      exact .inl ⟨items, by simp [hread, Except.map, Except.toOption], rfl, rfl⟩
    | error fault =>
      rw [hread] at h
      cases h
      exact .inr ⟨by simp [hread, Except.map, Except.toOption], rfl, rfl, rfl, rfl⟩
  · cases h
  · rename_i hbrace _
    cases h
    refine .inr ⟨?_, rfl, rfl, rfl, rfl⟩
    split
    · rename_i rest hbody
      exact absurd hbody (hbrace rest)
    · rfl

/-- Whether an answer holds an envelope of which every item is a sound patch that applied. -/
def EveryItemApplied (text : String) (report : Report) : Prop :=
  ∃ items, envelopeItems? text = some items ∧ (∀ item ∈ items, ∃ p, readItem item = .ok p) ∧
    ∀ i < items.length, i ∈ report.applied

theorem everyItemApplied_iff {html text : String} {batch : Batch}
    (h : Response.ofText text = .patches batch) :
    EveryItemApplied text (applyAll html batch.patches) ↔
      batch.fault = none ∧ batch.rejected = [] ∧ (applyAll html batch.patches).failures = [] := by
  obtain ⟨items, hitems, hfault, hbatch⟩ | ⟨hitems, hfault, -, -⟩ := Response.ofText_eq_patches h
  · have hlength := validateBatch_length items
    have hrejected := rejected_validateBatch_eq_nil_iff items
    rw [hbatch] at hlength hrejected
    simp only [EveryItemApplied, hitems, Option.some.injEq, exists_eq_left', hfault, true_and,
      failures_eq_nil_iff, ← hrejected]
    -- without rejections the items and the patches have the same places
    refine and_congr_right fun hnone => ?_
    rw [← hlength, hnone, List.length_nil, Nat.add_zero]
  · have hsome : batch.fault ≠ none := Option.isSome_iff_ne_none.mp hfault
    simp [EveryItemApplied, hitems, hsome]

/-! ## The two modes -/

/-- Whether some item of an answer was rejected or failed. -/
def somethingLost (batch : Batch) (report : Report) : Bool :=
  !report.isComplete || !batch.rejected.isEmpty

theorem somethingLost_iff {batch : Batch} {report : Report} :
    somethingLost batch report = true ↔ batch.rejected ≠ [] ∨ report.failures ≠ [] := by
  simp [somethingLost, Report.isComplete, or_comm]

theorem respond_eq_patched {text : String} {batch : Batch} (h : Response.ofText text = .patches batch)
    (html : String) (mode : Bool) :
    respond html text mode =
      let report := applyAll html batch.patches
      let reverted := mode && somethingLost batch report
      .patched batch report (if reverted then html else report.html) reverted := by
  rw [respond, h]
  rfl

theorem applied_eq_nil_of_fault {text : String} {batch : Batch}
    (h : Response.ofText text = .patches batch) (hfault : batch.fault.isSome = true) (html : String) :
    (applyAll html batch.patches).applied = [] := by
  obtain ⟨items, -, hnone, -⟩ | ⟨-, -, hpatches, -⟩ := Response.ofText_eq_patches h
  · simp [hnone] at hfault
  · rw [hpatches]
    rfl

/-- What the careful mode keeps, by whether every item applied. -/
theorem careful_page {text : String} {batch : Batch} (h : Response.ofText text = .patches batch)
    (html : String) :
    let report := applyAll html batch.patches
    let page := if somethingLost batch report then html else report.html
    (EveryItemApplied text report → page = report.html) ∧
      (¬ EveryItemApplied text report → page = html) := by
  intro report page
  have hevery : EveryItemApplied text report ↔
      batch.fault = none ∧ batch.rejected = [] ∧ report.failures = [] := everyItemApplied_iff h
  cases hlost : somethingLost batch report with
  | true =>
    have hpage : page = html := by simp [page, hlost]
    refine ⟨fun hall => ?_, fun _ => hpage⟩
    obtain ⟨-, hrejected, hfailures⟩ := hevery.mp hall
    obtain hr | hf := somethingLost_iff.mp hlost
    · exact absurd hrejected hr
    · exact absurd hfailures hf
  | false =>
    have hpage : page = report.html := by simp [page, hlost]
    refine ⟨fun _ => hpage, fun hnot => ?_⟩
    -- nothing was lost, so there was no envelope to lose something of
    have hkept : ¬ (batch.rejected ≠ [] ∨ report.failures ≠ []) :=
      fun hor => absurd (somethingLost_iff.mpr hor) (by simp [hlost])
    have hfault : batch.fault.isSome = true := by
      refine Option.isSome_iff_ne_none.mpr fun hnone => hnot (hevery.mpr ⟨hnone, ?_, ?_⟩)
      · exact Classical.not_not.mp fun hr => hkept (.inl hr)
      · exact Classical.not_not.mp fun hf => hkept (.inr hf)
    exact hpage.trans (html_of_applied_eq_nil (applied_eq_nil_of_fault h hfault html))

/-- Both modes put the same page in place of the old one, or both have the same batch and the same report.
Then the careful one goes back exactly if an item was rejected or failed. It keeps the page that the patches
have left if every item was accepted and applied, and the page as it was otherwise. Both keep the page as it
was if nothing applied, as when the answer cannot be read. -/
theorem careful_answers_are_all_or_nothing (html text : String) :
    (∃ page, Response.ofText text = .page page ∧ respond html text true = .replaced page ∧
        respond html text false = .replaced page) ∨
      ∃ batch report careful lenient reverted,
        Response.ofText text = .patches batch ∧ report = applyAll html batch.patches ∧
        respond html text true = .patched batch report careful reverted ∧
        respond html text false = .patched batch report lenient false ∧
        (reverted = true ↔ batch.rejected ≠ [] ∨ report.failures ≠ []) ∧
        (EveryItemApplied text report → careful = report.html) ∧
        (¬ EveryItemApplied text report → careful = html) ∧
        lenient = report.html ∧
        (report.applied = [] → careful = html ∧ lenient = html) ∧
        (batch.fault.isSome = true → report.applied = []) := by
  cases htext : Response.ofText text with
  | page page => exact .inl ⟨page, rfl, by simp [respond, htext], by simp [respond, htext]⟩
  | patches batch =>
    have hcareful := careful_page htext html
    refine .inr ⟨batch, _, _, _, _, rfl, rfl, respond_eq_patched htext html true,
      respond_eq_patched htext html false, somethingLost_iff, hcareful.1, hcareful.2, rfl, ?_,
      fun hfault => applied_eq_nil_of_fault htext hfault html⟩
    intro hnone
    have hsame := html_of_applied_eq_nil hnone
    refine ⟨?_, hsame⟩
    split
    · rfl
    · exact hsame

end PageEdit
