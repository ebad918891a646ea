import PageEdit.Context.Assemble
import PageEdit.Number.Total
import PageEdit.Proofs.Context.Candidates

/-!
# Admission to a context

Filling a context is a run of turns, one for each candidate. A turn either changes nothing, or admits the
section of its candidate, or ends the admission. All that is said of a context here comes from what one
turn can do (`turn_eq_some`, `turn_eq_none_iff`).

* `build_accounts_for_all`: what a context says of itself agrees with what was admitted, and each hit of an
  admitted section is recorded once.
* `build_loses_nothing`: a section is left out only if it is too large, or if the admission has ended
  before it; and the admission ends only when more than half of the budget is used.
-/

namespace PageEdit.Context

/-! ## Turns -/

/-- The context when some candidates have had their turns, unless the admission has ended. -/
def reached (lookup : Lookup) (hits : List Hit) (budget : Nat) (before : List Candidate) :
    Option Context :=
  before.foldlM (turn lookup hits budget) empty

section

variable {lookup : Lookup} {hits : List Hit} {budget : Nat}

theorem fill_append_of_foldlM {c d : Context} {before : List Candidate} (rest : List Candidate)
    (h : before.foldlM (turn lookup hits budget) c = some d) :
    fill lookup hits budget c (before ++ rest) = fill lookup hits budget d rest := by
  induction before generalizing c with
  | nil =>
    cases h
    rfl
  | cons x before ih =>
    rw [List.foldlM_cons] at h
    obtain ⟨e, he, hd⟩ := Option.bind_eq_some_iff.mp h
    rw [List.cons_append, fill_cons_of_some he]
    exact ih hd

/-- The candidates that are admitted come in the order of their turns. -/
theorem included_fill (lookup : Lookup) (hits : List Hit) (budget : Nat) (c : Context)
    (candidates : List Candidate) :
    ∃ admitted, admitted.Sublist (candidates.map (·.id)) ∧
      (fill lookup hits budget c candidates).included = c.included ++ admitted := by
  induction candidates generalizing c with
  | nil => exact ⟨[], .slnil, by simp [fill]⟩
  | cons x rest ih =>
    rw [List.map_cons]
    cases ht : turn lookup hits budget c x with
    | none => exact ⟨[], List.nil_sublist _, by simp [fill_cons_of_none ht]⟩
    | some d =>
      obtain ⟨admitted, hsub, hinc⟩ := ih d
      rw [fill_cons_of_some ht, hinc]
      obtain ⟨rfl, -⟩ | ⟨markup, -, -, rfl⟩ := turn_eq_some ht
      · exact ⟨admitted, hsub.cons _, rfl⟩
      · exact ⟨x.id :: admitted, hsub.cons_cons _, by simp [add]⟩

/-! ## What a context says of itself -/

theorem putFragment_of_notMem {id markup : String} {fragments : List (String × String)}
    (h : id ∉ fragments.map (·.1)) :
    putFragment id markup fragments = fragments ++ [(id, markup)] := by
  induction fragments with
  | nil => rfl
  | cons f rest ih =>
    rw [List.map_cons, List.mem_cons, not_or] at h
    rw [putFragment, if_neg (Ne.symm h.1), ih h.2, List.cons_append]

/-- A context agrees with the sections that were admitted to it, and with the hits. -/
structure Sound (lookup : Lookup) (hits : List Hit) (c : Context) : Prop where
  size_eq : c.size = Number.total (c.fragments.map fun f => f.2.utf8ByteSize)
  nodup : c.included.Nodup
  keys_eq : c.fragments.map (·.1) = c.included
  markup_eq : ∀ f ∈ c.fragments, lookup.markup? f.1 = some f.2
  matched_eq : c.matched = c.included.flatMap (hitsOf · hits)

theorem Sound.of_empty : Sound lookup hits empty := by
  refine ⟨rfl, List.nodup_nil, rfl, ?_, rfl⟩
  intro f hf
  cases hf

theorem Sound.add {c : Context} (h : Sound lookup hits c) {id markup : String}
    (hid : id ∉ c.included) (hm : lookup.markup? id = some markup) :
    Sound lookup hits (c.add hits id markup) := by
  have hput : putFragment id markup c.fragments = c.fragments ++ [(id, markup)] :=
    putFragment_of_notMem (h.keys_eq ▸ hid)
  constructor
  · simp [Context.add, hput, h.size_eq, Number.total_append, Number.total]
  · refine List.nodup_append.mpr ⟨h.nodup, by simp, ?_⟩
    intro a ha b hb hab
    rw [hab, List.mem_singleton.mp hb] at ha
    exact hid ha
  · simp [Context.add, hput, h.keys_eq]
  · intro f hf
    simp only [Context.add, hput, List.mem_append, List.mem_singleton] at hf
    rcases hf with hf | rfl
    · exact h.markup_eq f hf
    · exact hm
  · simp [Context.add, h.matched_eq]

/-- The induction is on the candidates: those still to come are none of those admitted. -/
theorem Sound.fill {c : Context} (h : Sound lookup hits c) {candidates : List Candidate}
    (hn : (c.included ++ candidates.map (·.id)).Nodup) :
    Sound lookup hits (fill lookup hits budget c candidates) := by
  induction candidates generalizing c with
  | nil => exact h
  | cons x rest ih =>
    rw [List.map_cons] at hn
    cases ht : turn lookup hits budget c x with
    | none =>
      rw [fill_cons_of_none ht]
      exact h
    | some d =>
      rw [fill_cons_of_some ht]
      obtain ⟨rfl, -⟩ | ⟨markup, hm, -, rfl⟩ := turn_eq_some ht
      · refine ih h (hn.sublist ?_)
        exact (List.sublist_cons_self x.id _).append_left _
      · have hx : x.id ∉ c.included := fun hmem =>
          (List.nodup_append.mp hn).2.2 _ hmem _ List.mem_cons_self rfl
        refine ih (h.add hx hm) ?_
        simpa [Context.add] using hn

theorem sound_build (limits : ContextLimits) : Sound lookup hits (build lookup hits limits) :=
  Sound.of_empty.fill (Candidate.ids_ranked_nodup lookup limits hits)

/-! ## Hits that are recorded -/

/-- What is recorded of a hit if its section is among those admitted. -/
def record? (admitted : List String) (h : Hit) : Option MatchedHit :=
  (h.sectionId.filter (· ∈ admitted)).map fun id => ⟨h.nodeId, id, h.score, h.kind⟩

theorem hitsOf_append_perm {id : String} {admitted : List String} (hid : id ∉ admitted)
    (hits : List Hit) :
    (hitsOf id hits ++ hits.filterMap (record? admitted)).Perm
      (hits.filterMap (record? (id :: admitted))) := by
  induction hits with
  | nil => exact .nil
  | cons h rest ih =>
    -- a hit of `id` is recorded anew, any other one as it was
    by_cases hs : h.sectionId = some id
    · have hnew : record? (id :: admitted) h = some ⟨h.nodeId, id, h.score, h.kind⟩ := by
        simp [record?, hs]
      have hold : record? admitted h = none := by simp [record?, hs, hid]
      rw [List.filterMap_cons_some hnew, List.filterMap_cons_none hold]
      simpa [hitsOf, hs] using ih
    · have hsame : record? (id :: admitted) h = record? admitted h := by
        cases hh : h.sectionId with
        | none => simp [record?, hh]
        | some s =>
          have hne : s ≠ id := fun he => hs (he ▸ hh)
          simp [record?, hh, Option.filter, hne]
      have hskip : hitsOf id (h :: rest) = hitsOf id rest := by simp [hitsOf, hs]
      rw [hskip, List.filterMap_cons, List.filterMap_cons, hsame]
      cases record? admitted h with
      | none => exact ih
      | some m => exact List.perm_middle.trans (ih.cons m)

theorem flatMap_hitsOf_perm {admitted : List String} (hn : admitted.Nodup) (hits : List Hit) :
    (admitted.flatMap (hitsOf · hits)).Perm (hits.filterMap (record? admitted)) := by
  induction admitted with
  | nil =>
    have hnone : hits.filterMap (record? []) = [] := by
      rw [List.filterMap_eq_nil_iff]
      intro h _
      cases hh : h.sectionId <;> simp [record?, hh]
    rw [hnone]
    exact .nil
  | cons id rest ih =>
    obtain ⟨hid, hr⟩ := List.nodup_cons.mp hn
    rw [List.flatMap_cons]
    exact ((ih hr).append_left _).trans (hitsOf_append_perm hid hits)

/-! ## Sections that are left out -/

theorem reached_append_cons (before : List Candidate) (x : Candidate) (after : List Candidate) :
    reached lookup hits budget (before ++ x :: after) =
      (reached lookup hits budget before).bind fun c =>
        (turn lookup hits budget c x).bind fun d => after.foldlM (turn lookup hits budget) d := by
  unfold reached
  rw [List.foldlM_append]
  rfl

/-- An admission that has ended has done so at the turn of some candidate. -/
theorem exists_turn_eq_none {c : Context} {before : List Candidate}
    (h : before.foldlM (turn lookup hits budget) c = none) :
    ∃ pre y post d, before = pre ++ y :: post ∧
      pre.foldlM (turn lookup hits budget) c = some d ∧ turn lookup hits budget d y = none := by
  induction before generalizing c with
  | nil => cases h
  | cons x rest ih =>
    cases ht : turn lookup hits budget c x with
    | none => exact ⟨[], x, rest, c, rfl, rfl, ht⟩
    | some d =>
      rw [List.foldlM_cons, ht] at h
      obtain ⟨pre, y, post, e, rfl, hpre, hy⟩ := ih h
      refine ⟨x :: pre, y, post, e, rfl, ?_, hy⟩
      rw [List.foldlM_cons, ht]
      exact hpre

/-- Whether some markup does not fit when the turn comes after some candidates. -/
def Misfits (lookup : Lookup) (hits : List Hit) (budget : Nat) (before : List Candidate)
    (markup : String) : Prop :=
  ∃ c, reached lookup hits budget before = some c ∧ budget < c.size + markup.utf8ByteSize

/-- Whether a candidate of at most half of the budget does not fit when its turn comes after some others. -/
def EndsAt (lookup : Lookup) (hits : List Hit) (budget : Nat) (before : List Candidate)
    (x : Candidate) : Prop :=
  ∃ markup, lookup.markup? x.id = some markup ∧ 2 * markup.utf8ByteSize ≤ budget ∧
    Misfits lookup hits budget before markup

theorem endsAt_iff {before : List Candidate} {x : Candidate} :
    EndsAt lookup hits budget before x ↔
      ∃ c, reached lookup hits budget before = some c ∧ turn lookup hits budget c x = none := by
  simp only [turn_eq_none_iff]
  constructor
  · rintro ⟨markup, hm, hsmall, c, hc, hfit⟩
    exact ⟨c, hc, markup, hm, hfit, hsmall⟩
  · rintro ⟨c, hc, markup, hm, hfit, hsmall⟩
    exact ⟨markup, hm, hsmall, c, hc, hfit⟩

theorem EndsAt.reached_eq_none {before : List Candidate} {x : Candidate}
    (h : EndsAt lookup hits budget before x) (after : List Candidate) :
    reached lookup hits budget (before ++ x :: after) = none := by
  obtain ⟨c, hc, hx⟩ := endsAt_iff.mp h
  rw [reached_append_cons, hc, Option.bind_some, hx]
  rfl

/-- A candidate whose turn comes is not preceded by one at which the admission ends. -/
theorem not_endsAt_of_reached {before earlier : List Candidate} {c : Context} {z : Candidate}
    (h : reached lookup hits budget before = some c) (hp : earlier ++ [z] <+: before) :
    ¬ EndsAt lookup hits budget earlier z := by
  intro hz
  obtain ⟨rest, rfl⟩ := hp
  rw [List.append_assoc, List.singleton_append, hz.reached_eq_none rest] at h
  cases h

theorem fill_eq_of_endsAt {before : List Candidate} {x : Candidate}
    (h : EndsAt lookup hits budget before x) (after : List Candidate) :
    reached lookup hits budget before =
      some (fill lookup hits budget empty (before ++ x :: after)) := by
  obtain ⟨c, hc, hx⟩ := endsAt_iff.mp h
  rw [fill_append_of_foldlM _ hc, fill_cons_of_none hx, hc]

/-- What does not fit and is at most half of the budget finds more than half of it in use. -/
theorem EndsAt.lt_two_mul_size {before : List Candidate} {x : Candidate}
    (h : EndsAt lookup hits budget before x) (after : List Candidate) :
    budget < 2 * (fill lookup hits budget empty (before ++ x :: after)).size := by
  have hfill := fill_eq_of_endsAt h after
  obtain ⟨markup, -, hsmall, c, hc, hfit⟩ := h
  rw [hfill] at hc
  cases hc
  omega

theorem mem_included_of_taken {before after : List Candidate} {x : Candidate} {c : Context}
    {markup : String} (hc : reached lookup hits budget before = some c)
    (hx : turn lookup hits budget c x = some (c.add hits x.id markup)) :
    x.id ∈ (fill lookup hits budget empty (before ++ x :: after)).included := by
  rw [fill_append_of_foldlM _ hc, fill_cons_of_some hx]
  obtain ⟨admitted, -, hinc⟩ := included_fill lookup hits budget (c.add hits x.id markup) after
  rw [hinc]
  simp [Context.add]

end

/-! ## Main statements -/

/-- The size of a context is the bytes of its fragments and within the budget; its sections are distinct,
and each has the markup that the lookup gives; and what is matched are the hits of these sections, section
by section, none of them twice. -/
theorem build_accounts_for_all (lookup : Lookup) (hits : List Hit) (limits : ContextLimits) :
    let c := build lookup hits limits
    c.size ≤ limits.budget ∧
      c.size = Number.total (c.fragments.map fun f => f.2.utf8ByteSize) ∧
      c.included.Nodup ∧
      c.fragments.map (·.1) = c.included ∧
      (∀ f ∈ c.fragments, lookup.markup? f.1 = some f.2) ∧
      c.matched = (c.included.flatMap fun id =>
        (hits.filter (·.sectionId == some id)).map fun h => ⟨h.nodeId, id, h.score, h.kind⟩) ∧
      c.matched.Perm (hits.filterMap (record? c.included)) := by
  intro c
  have hc : Sound lookup hits c := sound_build limits
  refine ⟨size_build_le lookup hits limits, hc.size_eq, hc.nodup, hc.keys_eq, hc.markup_eq,
    hc.matched_eq, ?_⟩
  rw [hc.matched_eq]
  exact flatMap_hitsOf_perm hc.nodup hits

theorem build_accounts_for_all_twice_hit :
    let lookup := Lookup.ofPairs [("a", "aaaa"), ("b", "bb")]
    let c := build lookup (hitsAt ["a", "", "b", "a"]) ⟨7, true, true⟩
    ("b", "bb") ∈ c.fragments ∧ lookup.markup? "b" = some "bb" ∧ c.included.Nodup := by
  intro lookup c
  have hmem : ("b", "bb") ∈ c.fragments := by decide +kernel
  obtain ⟨-, -, hnodup, -, hmarkup, -⟩ :=
    build_accounts_for_all lookup (hitsAt ["a", "", "b", "a"]) ⟨7, true, true⟩
  exact ⟨hmem, hmarkup _ hmem, hnodup⟩

/-- A section with markup is left out only if it does not fit in its turn and takes more than half of the
budget, or if its turn is not before that of the first that does not fit and takes at most half; and such
a one finds more than half of the budget in use. -/
theorem build_loses_nothing (lookup : Lookup) (hits : List Hit) (limits : ContextLimits) :
    let ranked := Candidate.ranked lookup limits hits
    let c := build lookup hits limits
    c.included.Sublist (ranked.map (·.id)) ∧
      (∀ before x after markup, ranked = before ++ x :: after →
        lookup.markup? x.id = some markup → x.id ∉ c.included →
          (Misfits lookup hits limits.budget before markup ∧
              limits.budget < 2 * markup.utf8ByteSize) ∨
            ∃ pre y, pre ++ [y] <+: before ++ [x] ∧ EndsAt lookup hits limits.budget pre y ∧
              ∀ earlier z, earlier ++ [z] <+: pre → ¬ EndsAt lookup hits limits.budget earlier z) ∧
      ∀ before y after, ranked = before ++ y :: after → EndsAt lookup hits limits.budget before y →
        limits.budget < 2 * c.size := by
  intro ranked c
  have hfill : c = fill lookup hits limits.budget empty ranked := rfl
  refine ⟨?_, ?_, ?_⟩
  · obtain ⟨admitted, hsub, hinc⟩ := included_fill lookup hits limits.budget empty ranked
    rw [hfill, hinc]
    exact hsub
  · intro before x after markup hsplit hm hout
    rw [hfill, hsplit] at hout
    cases hb : reached lookup hits limits.budget before with
    | none =>
      -- the admission has ended before the turn of `x`
      obtain ⟨pre, y, post, d, rfl, hpre, hy⟩ := exists_turn_eq_none hb
      refine .inr ⟨pre, y, ⟨post ++ [x], by simp⟩, endsAt_iff.mpr ⟨d, hpre, hy⟩, ?_⟩
      exact fun _ _ hp => not_endsAt_of_reached hpre hp
    | some d =>
      cases hx : turn lookup hits limits.budget d x with
      | none =>
        -- it ends at `x` itself
        refine .inr ⟨before, x, List.prefix_rfl, endsAt_iff.mpr ⟨d, hb, hx⟩, ?_⟩
        exact fun _ _ hp => not_endsAt_of_reached hb hp
      | some e =>
        obtain ⟨rfl, hlarge⟩ | ⟨m, -, -, rfl⟩ := turn_eq_some hx
        · obtain ⟨hfit, htwice⟩ := hlarge markup hm
          exact .inl ⟨⟨e, hb, hfit⟩, htwice⟩
        · exact absurd (mem_included_of_taken hb hx) hout
  · intro before y after hsplit hy
    rw [hfill, hsplit]
    exact hy.lt_two_mul_size after

/-- The second section takes half of the budget and does not fit, so that the third is lost. -/
theorem build_loses_nothing_half :
    let lookup := Lookup.ofPairs [("a", "aaaa"), ("b", "bbb"), ("c", "c")]
    let hits := hitsAt ["a", "b", "c"]
    let c := build lookup hits ⟨6, false, false⟩
    EndsAt lookup hits 6 [⟨"a", 0⟩] ⟨"b", 0⟩ ∧ 6 < 2 * c.size ∧ "c" ∉ c.included ∧
      ∃ pre y, pre ++ [y] <+: [⟨"a", 0⟩, ⟨"b", 0⟩] ++ [⟨"c", 0⟩] ∧ EndsAt lookup hits 6 pre y := by
  intro lookup hits c
  have hranked : Candidate.ranked lookup ⟨6, false, false⟩ hits =
      [⟨"a", 0⟩] ++ ⟨"b", 0⟩ :: [⟨"c", 0⟩] := by rfl
  have hends : EndsAt lookup hits 6 [⟨"a", 0⟩] ⟨"b", 0⟩ :=
    ⟨"bbb", by decide, by decide, _, rfl, by decide +kernel⟩
  have hout : "c" ∉ c.included := by decide +kernel
  obtain ⟨-, hleft, hhalf⟩ := build_loses_nothing lookup hits ⟨6, false, false⟩
  refine ⟨hends, hhalf _ _ _ hranked hends, hout, ?_⟩
  rcases hleft [⟨"a", 0⟩, ⟨"b", 0⟩] ⟨"c", 0⟩ [] "c" hranked (by decide) hout with ⟨-, hlarge⟩ | h
  · exact absurd hlarge (by decide)
  · obtain ⟨pre, y, hpre, hy, -⟩ := h
    exact ⟨pre, y, hpre, hy⟩

end PageEdit.Context
