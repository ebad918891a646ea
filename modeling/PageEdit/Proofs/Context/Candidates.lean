import PageEdit.Context.Candidates

/-!
# Which sections are candidates

A section may go into a context if it was hit, or if it is to be drawn in around or beside a section that
was. The ranking has each such section once, and no other.

* `mem_ids_ranked`: the ranked candidates are exactly these sections.
* `ids_ranked_nodup`: none of them is ranked twice.
-/

namespace PageEdit

/-- Whether a hit names a section. -/
def Hit.Names (h : Hit) (id : String) : Prop := h.sectionId = some id ∧ id ≠ ""

/-- Whether a section was hit, or is to be drawn in around or beside one that was. -/
inductive IsCandidate (lookup : Lookup) (limits : ContextLimits) (hits : List Hit) (id : String) :
    Prop where
  | hit {h : Hit} (mem : h ∈ hits) (names : h.Names id)
  | around {h : Hit} {s : String} (asked : limits.withParents = true) (mem : h ∈ hits)
      (names : h.Names s) (parent : lookup.parent? s = some id)
  | beside {h : Hit} {s : String} (asked : limits.withSiblings = true) (mem : h ∈ hits)
      (names : h.Names s) (sibling : id ∈ lookup.siblings s)

theorem Hit.section?_eq_some_iff {h : Hit} {id : String} : h.section? = some id ↔ h.Names id := by
  unfold Hit.section? Hit.Names
  rw [Option.filter_eq_some_iff]
  simp

namespace Candidate

/-! ## Sections that were hit -/

theorem mem_ids_meet {cs : List Candidate} {h : Hit} {id : String} :
    id ∈ (meet cs h).map (·.id) ↔ h.Names id ∨ id ∈ cs.map (·.id) := by
  unfold meet
  rw [← Hit.section?_eq_some_iff]
  cases h.section? with
  | none => simp
  | some s =>
    rw [mem_ids_addHit]
    constructor
    · rintro (rfl | hm)
      · exact .inl rfl
      · exact .inr hm
    · rintro (he | hm)
      · exact .inl (Option.some.inj he).symm
      · exact .inr hm

theorem mem_ids_foldl_meet {hits : List Hit} {cs : List Candidate} {id : String} :
    id ∈ (hits.foldl meet cs).map (·.id) ↔ (∃ h ∈ hits, h.Names id) ∨ id ∈ cs.map (·.id) := by
  induction hits generalizing cs with
  | nil => simp
  | cons h rest ih =>
    rw [List.foldl_cons, ih, mem_ids_meet]
    simp only [List.mem_cons, exists_eq_or_imp]
    constructor
    · rintro (hr | hh | hc)
      · exact .inl (.inr hr)
      · exact .inl (.inl hh)
      · exact .inr hc
    · rintro ((hh | hr) | hc)
      · exact .inr (.inl hh)
      · exact .inl hr
      · exact .inr (.inr hc)

theorem mem_ids_ofHits {hits : List Hit} {id : String} :
    id ∈ (ofHits hits).map (·.id) ↔ ∃ h ∈ hits, h.Names id := by
  rw [ofHits, mem_ids_foldl_meet]
  simp

/-! ## Sections that are drawn in -/

theorem mem_related {lookup : Lookup} {limits : ContextLimits} {ids : List String} {id : String} :
    id ∈ related lookup limits ids ↔
      (limits.withParents = true ∧ ∃ s ∈ ids, lookup.parent? s = some id) ∨
        (limits.withSiblings = true ∧ ∃ s ∈ ids, id ∈ lookup.siblings s) := by
  unfold related
  rw [List.mem_append]
  cases limits.withParents <;> cases limits.withSiblings <;> simp

theorem mem_ids_foldl_addRelated {ids : List String} {cs : List Candidate} {id : String} :
    id ∈ (ids.foldl addRelated cs).map (·.id) ↔ id ∈ cs.map (·.id) ∨ id ∈ ids := by
  induction ids generalizing cs with
  | nil => simp
  | cons s rest ih =>
    have hadd : id ∈ (addRelated cs s).map (·.id) ↔ id ∈ cs.map (·.id) ∨ id = s := by
      unfold addRelated
      split
      · rename_i hs
        constructor
        · exact .inl
        · rintro (hc | rfl)
          · exact hc
          · exact hs
      · simp
    rw [List.foldl_cons, ih, hadd, List.mem_cons, or_assoc]

/-! ## The ranking -/

theorem ids_ranked_perm (lookup : Lookup) (limits : ContextLimits) (hits : List Hit) :
    ((ranked lookup limits hits).map (·.id)).Perm ((found lookup limits hits).map (·.id)) :=
  (Order.stableSort_perm mayPrecede _).map _

theorem ids_ranked_nodup (lookup : Lookup) (limits : ContextLimits) (hits : List Hit) :
    ((ranked lookup limits hits).map (·.id)).Nodup :=
  (ids_ranked_perm lookup limits hits).nodup_iff.mpr (ids_found_nodup lookup limits hits)

theorem mem_ids_ranked {lookup : Lookup} {limits : ContextLimits} {hits : List Hit} {id : String} :
    id ∈ (ranked lookup limits hits).map (·.id) ↔ IsCandidate lookup limits hits id := by
  rw [(ids_ranked_perm lookup limits hits).mem_iff, found, mem_ids_foldl_addRelated, mem_ids_ofHits,
    mem_related]
  constructor
  · rintro (⟨h, hh, hn⟩ | ⟨hp, s, hs, hu⟩ | ⟨hb, s, hs, hu⟩)
    · exact .hit hh hn
    · obtain ⟨h, hh, hn⟩ := mem_ids_ofHits.mp hs
      exact .around hp hh hn hu
    · obtain ⟨h, hh, hn⟩ := mem_ids_ofHits.mp hs
      exact .beside hb hh hn hu
  · rintro (⟨hh, hn⟩ | ⟨hp, hh, hn, hu⟩ | ⟨hb, hh, hn, hu⟩)
    · exact .inl ⟨_, hh, hn⟩
    · exact .inr (.inl ⟨hp, _, mem_ids_ofHits.mpr ⟨_, hh, hn⟩, hu⟩)
    · exact .inr (.inr ⟨hb, _, mem_ids_ofHits.mpr ⟨_, hh, hn⟩, hu⟩)

end Candidate

/-! ## Small lookups and hits -/

/-- A lookup that knows the markup of some sections and nothing else. -/
def Lookup.ofPairs (pairs : List (String × String)) : Lookup :=
  .flat (fun id => (pairs.find? (·.1 == id)).map (·.2)) ""

/-- Hits of some sections, all with the same score. -/
def hitsAt (ids : List String) : List Hit := ids.map fun id => { Hit.blank with sectionId := some id }

end PageEdit
