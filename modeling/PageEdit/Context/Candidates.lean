import PageEdit.Context.Hit
import PageEdit.Context.Lookup
import PageEdit.Number.TotalOrder
import PageEdit.Settings.Basic

/-!
# Candidates

The sections that may go into a context: those that were hit, each with the best score of its hits, and
those drawn in around or beside them, with a score of their own. They come by falling scores; equal ones stay
in the order in which they were found.

* `ids_found_nodup`: a section is found once.
-/

namespace PageEdit

/-- A section that may go into a context. -/
structure Candidate where
  id : String
  score : Float

namespace Candidate

/-- The score of a section that was not hit. -/
def relatedScore : Float := 0.5

/-- The candidates with a hit of a section among them. -/
def addHit (id : String) (score : Float) : List Candidate → List Candidate
  | [] => [⟨id, score⟩]
  | c :: rest =>
    if c.id = id then ⟨id, Number.greater c.score score⟩ :: rest else c :: addHit id score rest

/-- The candidates after one more hit. One that names no section adds nothing. -/
def meet (cs : List Candidate) (h : Hit) : List Candidate :=
  match h.section? with
  | some id => addHit id h.score cs
  | none => cs

/-- The sections of some hits. -/
def ofHits (hits : List Hit) : List Candidate := hits.foldl meet []

/-- The sections around and beside some sections, as far as they are to be drawn in. -/
def related (lookup : Lookup) (limits : ContextLimits) (ids : List String) : List String :=
  (if limits.withParents then ids.filterMap lookup.parent? else []) ++
    (if limits.withSiblings then ids.flatMap lookup.siblings else [])

/-- The candidates and a section that was drawn in, unless it is among them. -/
def addRelated (cs : List Candidate) (id : String) : List Candidate :=
  if id ∈ cs.map (·.id) then cs else cs ++ [⟨id, relatedScore⟩]

/-- The candidates in the order in which they are found. -/
def found (lookup : Lookup) (limits : ContextLimits) (hits : List Hit) : List Candidate :=
  (related lookup limits ((ofHits hits).map (·.id))).foldl addRelated (ofHits hits)

/-- Whether a candidate may stand before another. -/
def mayPrecede (c d : Candidate) : Bool := Number.atMost d.score c.score

/-- The candidates by falling scores. -/
def ranked (lookup : Lookup) (limits : ContextLimits) (hits : List Hit) : List Candidate :=
  Order.stableSort mayPrecede (found lookup limits hits)

/-! ## Each section once -/

theorem mem_ids_addHit {id x : String} {score : Float} {cs : List Candidate} :
    x ∈ (addHit id score cs).map (·.id) ↔ x = id ∨ x ∈ cs.map (·.id) := by
  induction cs with
  | nil => simp [addHit]
  | cons c rest ih =>
    simp only [addHit]
    split
    · rename_i h
      simp [h]
    · simp only [List.map_cons, List.mem_cons, ih]
      constructor
      · rintro (h | h | h) <;> simp [h]
      · rintro (h | h | h) <;> simp [h]

theorem ids_addHit_nodup {cs : List Candidate} (h : (cs.map (·.id)).Nodup) (id : String)
    (score : Float) : ((addHit id score cs).map (·.id)).Nodup := by
  induction cs with
  | nil => simp [addHit]
  | cons c rest ih =>
    obtain ⟨hc, hr⟩ := List.nodup_cons.1 h
    simp only [addHit]
    split
    · rename_i he
      simp only [List.map_cons]
      exact he ▸ h
    · rename_i he
      refine List.nodup_cons.2 ⟨fun hm => ?_, ih hr⟩
      rcases mem_ids_addHit.1 hm with e | hm
      · exact he e
      · exact hc hm

theorem ids_meet_nodup {cs : List Candidate} (h : (cs.map (·.id)).Nodup) (hit : Hit) :
    ((meet cs hit).map (·.id)).Nodup := by
  unfold meet
  split
  · exact ids_addHit_nodup h _ _
  · exact h

theorem ids_ofHits_nodup (hits : List Hit) : ((ofHits hits).map (·.id)).Nodup := by
  suffices key : ∀ cs : List Candidate, (cs.map (·.id)).Nodup →
      ((hits.foldl meet cs).map (·.id)).Nodup from key [] List.nodup_nil
  induction hits with
  | nil => exact fun _ h => h
  | cons hit rest ih => exact fun cs h => ih _ (ids_meet_nodup h hit)

theorem ids_addRelated_nodup {cs : List Candidate} (h : (cs.map (·.id)).Nodup) (id : String) :
    ((addRelated cs id).map (·.id)).Nodup := by
  unfold addRelated
  split
  · exact h
  · rename_i hx
    rw [List.map_append]
    refine List.nodup_append.2 ⟨h, by simp, fun a ha b hb e => hx ?_⟩
    have hb : b = id := by simpa using hb
    exact hb ▸ e ▸ ha

theorem ids_found_nodup (lookup : Lookup) (limits : ContextLimits) (hits : List Hit) :
    ((found lookup limits hits).map (·.id)).Nodup := by
  unfold found
  generalize related lookup limits _ = ids
  suffices key : ∀ cs : List Candidate, (cs.map (·.id)).Nodup →
      ((ids.foldl addRelated cs).map (·.id)).Nodup from key _ (ids_ofHits_nodup hits)
  induction ids with
  | nil => exact fun _ h => h
  | cons id rest ih => exact fun cs h => ih _ (ids_addRelated_nodup h id)

end Candidate

end PageEdit
