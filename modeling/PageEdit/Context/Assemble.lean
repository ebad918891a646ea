import PageEdit.Context.Candidates

/-!
# Contexts

The markup of some sections, bound in size, for a generator to work on. Candidates are taken in turn. One
that fits is admitted. One that does not is passed over if it alone takes more than half of the budget;
otherwise nothing more is admitted. Where there is nothing to go by, the whole page is handed out.

* `turn_eq_none_iff`, `turn_eq_some`: what the turn of a candidate can do.
* `size_build_le`: the size of a context is within the budget.
-/

namespace PageEdit

/-- A hit whose section was admitted. -/
structure MatchedHit where
  nodeId : Option String
  sectionId : String
  score : Float
  kind : HitKind

/-- The markup of some sections. -/
structure Context where
  /-- The markup of the sections, by their identifiers. -/
  fragments : List (String × String)
  /-- The bytes of the markup. -/
  size : Nat
  /-- The sections in the order in which they were admitted. -/
  included : List String
  /-- The hits of the sections. -/
  matched : List MatchedHit

/-- What becomes of a candidate. -/
inductive Verdict where
  | take
  | skip
  | stop
  deriving Repr, DecidableEq

/-- What becomes of a candidate of some size, given the budget and how much of it is used. -/
def Verdict.of (budget used size : Nat) : Verdict :=
  if used + size ≤ budget then .take else if budget < 2 * size then .skip else .stop

namespace Verdict

variable {budget used size : Nat}

theorem of_eq_take_iff : Verdict.of budget used size = .take ↔ used + size ≤ budget := by
  unfold Verdict.of
  split
  · simpa
  · split <;> simp <;> omega

theorem of_eq_skip_iff :
    Verdict.of budget used size = .skip ↔ budget < used + size ∧ budget < 2 * size := by
  unfold Verdict.of
  split
  · simp
    omega
  · split <;> simp <;> omega

theorem of_eq_stop_iff :
    Verdict.of budget used size = .stop ↔ budget < used + size ∧ 2 * size ≤ budget := by
  unfold Verdict.of
  split
  · simp
    omega
  · split <;> simp <;> omega

end Verdict

namespace Context

/-- A context with nothing in it. -/
def empty : Context := ⟨[], 0, [], []⟩

/-- The fragments with one more, in place of one with the same identifier. -/
def putFragment (id markup : String) : List (String × String) → List (String × String)
  | [] => [(id, markup)]
  | (k, v) :: rest => if k = id then (id, markup) :: rest else (k, v) :: putFragment id markup rest

/-- The hits of a section. -/
def hitsOf (id : String) (hits : List Hit) : List MatchedHit :=
  (hits.filter (·.sectionId == some id)).map fun h => ⟨h.nodeId, id, h.score, h.kind⟩

/-- The context with one more section. -/
def add (hits : List Hit) (id markup : String) (c : Context) : Context :=
  { fragments := putFragment id markup c.fragments
    size := c.size + markup.utf8ByteSize
    included := c.included ++ [id]
    matched := c.matched ++ hitsOf id hits }

/-- The context after the turn of a candidate, unless the admission ends there. -/
def turn (lookup : Lookup) (hits : List Hit) (budget : Nat) (c : Context) (x : Candidate) :
    Option Context :=
  match lookup.markup? x.id with
  | none => some c
  | some markup =>
    match Verdict.of budget c.size markup.utf8ByteSize with
    | .take => some (c.add hits x.id markup)
    | .skip => some c
    | .stop => none

/-- The context after some candidates. -/
def fill (lookup : Lookup) (hits : List Hit) (budget : Nat) (c : Context) : List Candidate → Context
  | [] => c
  | x :: rest =>
    match turn lookup hits budget c x with
    | some d => fill lookup hits budget d rest
    | none => c

/-- The context for some hits. -/
def build (lookup : Lookup) (hits : List Hit) (limits : ContextLimits) : Context :=
  fill lookup hits limits.budget empty (Candidate.ranked lookup limits hits)

section

variable {lookup : Lookup} {hits : List Hit} {budget : Nat}

theorem turn_eq_none_iff {c : Context} {x : Candidate} :
    turn lookup hits budget c x = none ↔
      ∃ markup, lookup.markup? x.id = some markup ∧ budget < c.size + markup.utf8ByteSize ∧
        2 * markup.utf8ByteSize ≤ budget := by
  unfold turn
  cases lookup.markup? x.id with
  | none => simp
  | some markup =>
    simp only [Option.some.injEq, exists_eq_left', ← Verdict.of_eq_stop_iff]
    cases Verdict.of budget c.size markup.utf8ByteSize <;> simp

/-- A turn that does not end the admission changes nothing, since there is no markup or too much of it,
or it admits a section that fits. -/
theorem turn_eq_some {c d : Context} {x : Candidate} (h : turn lookup hits budget c x = some d) :
    (d = c ∧ ∀ markup, lookup.markup? x.id = some markup →
        budget < c.size + markup.utf8ByteSize ∧ budget < 2 * markup.utf8ByteSize) ∨
      ∃ markup, lookup.markup? x.id = some markup ∧ c.size + markup.utf8ByteSize ≤ budget ∧
        d = c.add hits x.id markup := by
  unfold turn at h
  cases hm : lookup.markup? x.id with
  | none =>
    simp only [hm] at h
    cases h
    exact .inl ⟨rfl, fun _ hn => nomatch hn⟩
  | some markup =>
    simp only [hm] at h
    cases hv : Verdict.of budget c.size markup.utf8ByteSize with
    | take =>
      rw [hv] at h
      cases h
      exact .inr ⟨markup, rfl, Verdict.of_eq_take_iff.mp hv, rfl⟩
    | skip =>
      rw [hv] at h
      cases h
      refine .inl ⟨rfl, fun m hs => ?_⟩
      cases hs
      exact Verdict.of_eq_skip_iff.mp hv
    | stop =>
      rw [hv] at h
      cases h

theorem fill_cons_of_some {c d : Context} {x : Candidate}
    (h : turn lookup hits budget c x = some d) (rest : List Candidate) :
    fill lookup hits budget c (x :: rest) = fill lookup hits budget d rest := by
  rw [fill, h]

theorem fill_cons_of_none {c : Context} {x : Candidate} (h : turn lookup hits budget c x = none)
    (rest : List Candidate) : fill lookup hits budget c (x :: rest) = c := by
  rw [fill, h]

theorem size_fill_le {c : Context} (candidates : List Candidate) (h : c.size ≤ budget) :
    (fill lookup hits budget c candidates).size ≤ budget := by
  induction candidates generalizing c with
  | nil => exact h
  | cons x rest ih =>
    cases ht : turn lookup hits budget c x with
    | none =>
      rw [fill_cons_of_none ht]
      exact h
    | some d =>
      rw [fill_cons_of_some ht]
      obtain ⟨rfl, -⟩ | ⟨markup, -, hfit, rfl⟩ := turn_eq_some ht
      · exact ih h
      · exact ih hfit

end

theorem size_build_le (lookup : Lookup) (hits : List Hit) (limits : ContextLimits) :
    (build lookup hits limits).size ≤ limits.budget :=
  size_fill_le _ (Nat.zero_le _)

end Context

/-! ## Assembling -/

/-- Why the whole page is handed out. -/
inductive WholePageReason where
  /-- No hit names a section. -/
  | noHits
  /-- No section was admitted. -/
  | nothingAdmitted
  deriving Repr, DecidableEq

/-- The name of a reason. -/
def WholePageReason.name : WholePageReason → String
  | .noHits => "no_search_results"
  | .nothingAdmitted => "nothing_admitted"

/-- What is handed to a generator. -/
inductive Assembled where
  | fragments (context : Context)
  | wholePage (html : String) (reason : WholePageReason)

/-- The context for some hits, or the whole page. -/
def assemble (lookup : Lookup) (hits : List Hit) (limits : ContextLimits) : Assembled :=
  if hits.any (·.section?.isSome) then
    let context := Context.build lookup hits limits
    if context.included.isEmpty then .wholePage lookup.page .nothingAdmitted else .fragments context
  else .wholePage lookup.page .noHits

end PageEdit
