import PageEdit.Context.Search
import PageEdit.Proofs.Context.Admission

/-!
# When the whole page is handed out

The whole page is not bounded by the budget, so it matters that it is handed out only if there is nothing
else: no hit names a section, or no candidate fits into the whole of the budget. An admission cannot end
before something was admitted, as a candidate that does not fit then is larger than the budget. So one
candidate that fits is enough, wherever it is ranked.

* `included_fill_eq_nil_iff`: nothing is admitted exactly if no candidate fits into the whole budget.
* `assembling_is_decided`: which of the three outcomes there is, for any hits and for those of a request.
-/

namespace PageEdit

namespace Context

variable {lookup : Lookup} {hits : List Hit} {budget : Nat}

theorem included_fill_eq_nil_iff {candidates : List Candidate} :
    (fill lookup hits budget empty candidates).included = [] ↔
      ∀ x ∈ candidates, ∀ markup, lookup.markup? x.id = some markup →
        budget < markup.utf8ByteSize := by
  induction candidates with
  | nil => simp [fill, empty]
  | cons x rest ih =>
    rw [List.forall_mem_cons]
    cases ht : turn lookup hits budget empty x with
    | none =>
      -- with nothing in use, what does not fit takes more than the budget, so it is passed over
      obtain ⟨markup, -, hfit, hsmall⟩ := turn_eq_none_iff.mp ht
      have hzero : empty.size = 0 := rfl
      omega
    | some d =>
      rw [fill_cons_of_some ht]
      obtain ⟨rfl, hlarge⟩ | ⟨markup, hm, hfit, rfl⟩ := turn_eq_some ht
      · have hx : ∀ markup, lookup.markup? x.id = some markup → budget < markup.utf8ByteSize := by
          intro markup hm
          simpa [empty] using (hlarge markup hm).1
        rw [ih]
        exact ⟨fun h => ⟨hx, h⟩, fun h => h.2⟩
      · obtain ⟨admitted, -, hinc⟩ := included_fill lookup hits budget (empty.add hits x.id markup) rest
        rw [hinc]
        constructor
        · intro h
          simp [add] at h
        · rintro ⟨h, -⟩
          have hlt := h markup hm
          have hzero : empty.size = 0 := rfl
          omega

end Context

/-- Whether some hit names a section. -/
def NamesSection (hits : List Hit) : Prop := ∃ h ∈ hits, ∃ id, h.Names id

/-- Whether every candidate has no markup or more than the budget. -/
def NoneFits (lookup : Lookup) (limits : ContextLimits) (hits : List Hit) : Prop :=
  ∀ id, IsCandidate lookup limits hits id → ∀ markup, lookup.markup? id = some markup →
    limits.budget < markup.utf8ByteSize

/-- How it is decided what is handed out for some hits. -/
structure Decided (lookup : Lookup) (hits : List Hit) (limits : ContextLimits) (a : Assembled) :
    Prop where
  noHits_iff : a = .wholePage lookup.page .noHits ↔ ¬ NamesSection hits
  nothingAdmitted_iff : a = .wholePage lookup.page .nothingAdmitted ↔
    NamesSection hits ∧ NoneFits lookup limits hits
  fragments_iff : a = .fragments (.build lookup hits limits) ↔
    NamesSection hits ∧ ¬ NoneFits lookup limits hits
  of_fragments : ∀ c, a = .fragments c → c.included ≠ [] ∧ c.size ≤ limits.budget
  of_wholePage : ∀ html reason, a = .wholePage html reason → html = lookup.page

theorem any_section?_iff {hits : List Hit} :
    hits.any (·.section?.isSome) = true ↔ NamesSection hits := by
  simp only [List.any_eq_true, Option.isSome_iff_exists, Hit.section?_eq_some_iff, NamesSection]

theorem included_build_eq_nil_iff {lookup : Lookup} {hits : List Hit} {limits : ContextLimits} :
    (Context.build lookup hits limits).included = [] ↔ NoneFits lookup limits hits := by
  rw [Context.build, Context.included_fill_eq_nil_iff]
  simp only [NoneFits, ← Candidate.mem_ids_ranked, List.mem_map, forall_exists_index, and_imp,
    forall_apply_eq_imp_iff₂]

theorem decided_assemble (lookup : Lookup) (hits : List Hit) (limits : ContextLimits) :
    Decided lookup hits limits (assemble lookup hits limits) := by
  unfold assemble
  by_cases hn : NamesSection hits
  · rw [if_pos (any_section?_iff.mpr hn)]
    by_cases hf : NoneFits lookup limits hits
    · have hnil := List.isEmpty_iff.mpr (included_build_eq_nil_iff.mpr hf)
      constructor <;> simp [hn, hf, hnil]
    · have hcons : (Context.build lookup hits limits).included ≠ [] :=
        fun h => hf (included_build_eq_nil_iff.mp h)
      have hsize := Context.size_build_le lookup hits limits
      constructor <;> simp [hn, hf, hcons, hsize]
  · rw [if_neg (fun h => hn (any_section?_iff.mp h))]
    constructor <;> simp [hn]

/-- The whole page is handed out for want of hits exactly if no hit names a section, and for want of
admitted sections exactly if some hit does but no candidate fits into the budget. Otherwise there are
fragments of one section or more, within the budget. -/
theorem assembling_is_decided :
    (∀ lookup hits limits, Decided lookup hits limits (assemble lookup hits limits)) ∧
      ∀ lookup request settings, Decided lookup (search lookup request settings) settings.context
        (prepare lookup request settings) :=
  ⟨decided_assemble, fun lookup request settings =>
    decided_assemble lookup (search lookup request settings) settings.context⟩

/-- A section that is too large is hit, and one beside it that fits is enough for fragments. -/
theorem assembling_is_decided_by_sibling :
    let lookup : Lookup :=
      { Lookup.ofPairs [("a", "aaaa"), ("b", "bb")] with siblings := fun _ => ["a", "b"] }
    let limits : ContextLimits := ⟨3, false, true⟩
    ¬ NoneFits lookup limits (hitsAt ["a"]) ∧
      assemble lookup (hitsAt ["a"]) limits = .fragments (.build lookup (hitsAt ["a"]) limits) := by
  intro lookup limits
  have hmem : { Hit.blank with sectionId := some "a" } ∈ hitsAt ["a"] := List.mem_cons_self
  have hnames : { Hit.blank with sectionId := some "a" }.Names "a" := ⟨rfl, by decide⟩
  have hfits : ¬ NoneFits lookup limits (hitsAt ["a"]) := by
    intro h
    have hb : IsCandidate lookup limits (hitsAt ["a"]) "b" :=
      .beside rfl hmem hnames (by simp [lookup])
    exact absurd (h "b" hb "bb" rfl) (by decide)
  have hdecided := assembling_is_decided.1 lookup (hitsAt ["a"]) limits
  exact ⟨hfits, hdecided.fragments_iff.mpr ⟨⟨_, hmem, "a", hnames⟩, hfits⟩⟩

end PageEdit
