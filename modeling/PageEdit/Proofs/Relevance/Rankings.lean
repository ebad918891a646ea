import PageEdit.Context.Search

/-!
# What a ranking is made of

However a request is scored, the ranking is that of all sections that have points, each with the place at which it
stands on the page. Places tell apart sections that say the same, so it can be said that none is lost, none comes
twice, and those with the same score come in the order of the page. A limit cuts the ranking off behind its first
entries.

* `relevant_eq`: whatever path is taken, the sections are scored in one way, and all in the same.
* `ranks_rankedPlaces`: sorting the sections with their places.
* `rankings_are_of_the_excerpts`: rankings and searches with any limits.
-/

namespace PageEdit

namespace Relevance

/-! ## The scoring of a request -/

/-- The scoring that a request asks for. -/
def scoringFor (request : String) (excerpts : List Excerpt) : Scoring :=
  let lower := Text.lower request
  if isForWholePage request then wholePageScore (namedElements (keywordsIn lower))
  else if (scored (keywordScore lower) excerpts).isEmpty then mentionScore lower
  else keywordScore lower

theorem relevant_eq (request : String) (excerpts : List Excerpt) :
    relevant request excerpts = scored (scoringFor request excerpts) excerpts := by
  simp only [relevant, scoringFor]
  split
  · rfl
  · split <;> rfl

/-- The points that a request gives are all worth the same. -/
theorem exists_worth (request : String) (excerpts : List Excerpt) :
    ∃ w, ∀ x, (scoringFor request excerpts x).worth = w := by
  simp only [scoringFor]
  split
  · exact ⟨.whole, fun _ => rfl⟩
  · split
    · exact ⟨.slight, fun _ => rfl⟩
    · exact ⟨.half, fun _ => rfl⟩

theorem Worth.tenths_pos (w : Worth) : 0 < w.tenths := by
  cases w <;> decide

theorem Score.tenths_pos_iff {s : Score} : 0 < s.tenths ↔ 0 < s.points := by
  rw [Score.tenths, Nat.mul_pos_iff_of_pos_right s.worth.tenths_pos]

theorem Score.tenths_le_iff {s t : Score} (h : s.worth = t.worth) : s.tenths ≤ t.tenths ↔ s.points ≤ t.points := by
  rw [Score.tenths, Score.tenths, h, Nat.mul_le_mul_right_iff t.worth.tenths_pos]

/-! ## Sections with their places -/

/-- An excerpt with the score that it is given. -/
def rescored (scoring : Scoring) (x : Excerpt) : Excerpt := { x with score := scoring x }

/-- The excerpts with points, scored, each after its place. -/
def scoredPlaces (scoring : Scoring) (excerpts : List Excerpt) : List (Nat × Excerpt) :=
  (excerpts.zipIdx.map fun x => (x.2, rescored scoring x.1)).filter (0 < ·.2.score.points)

/-- The excerpts with points by falling points, each after its place. -/
def rankedPlaces (scoring : Scoring) (excerpts : List Excerpt) : List (Nat × Excerpt) :=
  Order.stableSort (fun a b => mayPrecede a.2 b.2) (scoredPlaces scoring excerpts)

/-- Whether a list holds the excerpts with a score, scored, each after its place, by falling score and, if their
scores are equal, in the order of their places. -/
structure Ranks (scoring : Scoring) (excerpts : List Excerpt) (ranking : List (Nat × Excerpt)) : Prop where
  mem_iff : ∀ i y, (i, y) ∈ ranking ↔
    ∃ x, excerpts[i]? = some x ∧ y = { x with score := scoring x } ∧ 0 < y.score.tenths
  nodup : (ranking.map Prod.fst).Nodup
  ordered : ranking.Pairwise fun a b =>
    b.2.score.tenths ≤ a.2.score.tenths ∧ (b.2.score.tenths = a.2.score.tenths → a.1 < b.1)

section

variable {scoring : Scoring} {excerpts : List Excerpt}

theorem map_snd_scoredPlaces : (scoredPlaces scoring excerpts).map Prod.snd = scored scoring excerpts := by
  have hscored : scored scoring excerpts = (excerpts.map (rescored scoring)).filter (0 < ·.score.points) := rfl
  have hfirst : excerpts.map (rescored scoring) = excerpts.zipIdx.map fun x => rescored scoring x.1 := by
    calc excerpts.map (rescored scoring) = (excerpts.zipIdx.map Prod.fst).map (rescored scoring) := by
          rw [List.zipIdx_map_fst]
      _ = excerpts.zipIdx.map fun x => rescored scoring x.1 := List.map_map
  rw [hscored, hfirst, scoredPlaces, List.filter_map, List.filter_map, List.map_map]
  rfl

/-- Without the places the excerpts are sorted as a ranking sorts them. -/
theorem map_snd_rankedPlaces :
    (rankedPlaces scoring excerpts).map Prod.snd = sortByScore (scored scoring excerpts) := by
  rw [rankedPlaces, ← Order.stableSort_map mayPrecede Prod.snd, map_snd_scoredPlaces]
  rfl

theorem mem_rankedPlaces {i : Nat} {y : Excerpt} : (i, y) ∈ rankedPlaces scoring excerpts ↔
    ∃ x, excerpts[i]? = some x ∧ y = rescored scoring x ∧ 0 < y.score.points := by
  rw [rankedPlaces, (Order.stableSort_perm _ _).mem_iff, scoredPlaces, List.mem_filter, List.mem_map]
  simp only [List.mem_zipIdx_iff_getElem?, Prod.exists, Prod.mk.injEq, decide_eq_true_eq]
  constructor
  · rintro ⟨⟨x, j, hx, rfl, rfl⟩, hpos⟩
    exact ⟨x, hx, rfl, hpos⟩
  · rintro ⟨x, hx, rfl, hpos⟩
    exact ⟨⟨x, i, hx, rfl, rfl⟩, hpos⟩

theorem pairwise_scoredPlaces : (scoredPlaces scoring excerpts).Pairwise fun a b => a.1 < b.1 := by
  refine List.Pairwise.filter _ ?_
  rw [List.pairwise_map]
  exact Order.pairwise_zipIdx excerpts

theorem ranks_rankedPlaces {w : Worth} (hw : ∀ x, (scoring x).worth = w) :
    Ranks scoring excerpts (rankedPlaces scoring excerpts) := by
  refine ⟨fun i y => ?_, ?_, ?_⟩
  · rw [mem_rankedPlaces]
    simp only [Score.tenths_pos_iff]
    rfl
  · rw [rankedPlaces, ((Order.stableSort_perm _ _).map Prod.fst).nodup_iff, List.Nodup, List.pairwise_map]
    exact pairwise_scoredPlaces.imp Nat.ne_of_lt
  · have hworth : ∀ a ∈ rankedPlaces scoring excerpts, a.2.score.worth = w := by
      intro a ha
      obtain ⟨x, -, hx, -⟩ := mem_rankedPlaces.mp ha
      rw [hx]
      exact hw x
    have hplaces : (scoredPlaces scoring excerpts).Pairwise fun a b => a.1 < b.1 := pairwise_scoredPlaces
    have hsorted : (rankedPlaces scoring excerpts).Pairwise fun a b =>
        mayPrecede a.2 b.2 = true ∧ (mayPrecede b.2 a.2 = true → a.1 < b.1) := by
      refine Order.pairwise_stableSort_and (fun a b => ?_) (fun a b c => ?_) hplaces <;>
        simp only [mayPrecede, decide_eq_true_eq] <;> omega
    refine hsorted.imp_of_mem fun ha hb h => ?_
    rename_i a b
    have hab : a.2.score.worth = b.2.score.worth := (hworth a ha).trans (hworth b hb).symm
    simp only [mayPrecede, decide_eq_true_eq] at h
    refine ⟨(Score.tenths_le_iff hab.symm).mpr h.1, fun heq => h.2 ?_⟩
    exact (Score.tenths_le_iff hab).mp (Nat.le_of_eq heq.symm)

end

/-- The sections of a page that a request is about, best first, each after its place. -/
def placesOf (html request : String) : List (Nat × Excerpt) :=
  rankedPlaces (scoringFor request (excerpts html)) (excerpts html)

theorem rank_eq (html request : String) (limit : Nat) :
    rank html request limit = ((placesOf html request).take limit).map Prod.snd := by
  rw [rank, relevant_eq, ← map_snd_rankedPlaces, ← List.map_take, placesOf]

theorem placesOf_length_le (html request : String) : (placesOf html request).length ≤ (excerpts html).length := by
  rw [placesOf, rankedPlaces, (Order.stableSort_perm _ _).length_eq, scoredPlaces]
  refine Nat.le_trans (List.length_filter_le _ _) (Nat.le_of_eq ?_)
  rw [List.length_map, List.length_zipIdx]

theorem rank_eq_of_le {html : String} {limit : Nat} (h : (excerpts html).length ≤ limit) (request : String) :
    rank html request limit = (placesOf html request).map Prod.snd := by
  rw [rank_eq, List.take_of_length_le (Nat.le_trans (placesOf_length_le html request) h)]

/-- A request is scored by its keywords if it is not for the whole page and some section has points for them. -/
theorem scoringFor_eq_keywordScore {request : String} {xs : List Excerpt} (hpart : isForWholePage request = false)
    (hpoints : ∃ x ∈ xs, 0 < (keywordScore (Text.lower request) x).points) :
    scoringFor request xs = keywordScore (Text.lower request) := by
  have hfound : (scored (keywordScore (Text.lower request)) xs).isEmpty = false := by
    obtain ⟨x, hx, hpos⟩ := hpoints
    refine List.isEmpty_eq_false_iff_exists_mem.mpr ⟨rescored (keywordScore (Text.lower request)) x, ?_⟩
    exact List.mem_filter.mpr ⟨List.mem_map_of_mem hx, decide_eq_true hpos⟩
  rw [scoringFor, hpart, hfound]
  rfl

/-- A request is scored by the words as they stand if it is not for the whole page and no section has points. -/
theorem scoringFor_eq_mentionScore {request : String} {xs : List Excerpt} (hpart : isForWholePage request = false)
    (hpoints : ∀ x ∈ xs, (keywordScore (Text.lower request) x).points = 0) :
    scoringFor request xs = mentionScore (Text.lower request) := by
  have hfound : (scored (keywordScore (Text.lower request)) xs).isEmpty = true := by
    rw [List.isEmpty_iff, scored, List.filter_eq_nil_iff]
    intro y hy
    obtain ⟨x, hx, rfl⟩ := List.mem_map.mp hy
    rw [decide_eq_true_eq]
    exact Nat.not_lt_of_le (Nat.le_of_eq (hpoints x hx))
  rw [scoringFor, hpart, hfound]
  rfl

end Relevance

open Relevance

/-- A page and a request have one ranking of the sections that have a score, each at one place of the page. No
section with a score is lost and none comes twice; they differ from the sections of the page in their scores only,
which are positive and never increase; and with the same score they stay in the order of the page. What is found with
a limit is the beginning of this ranking, so a shorter result is the beginning of a longer one; and the hits of a
search are those of as many sections as both of its limits allow. -/
theorem rankings_are_of_the_excerpts (html request : String) :
    ∃ ranking, Ranks (scoringFor request (excerpts html)) (excerpts html) ranking ∧
      (∀ limit, rank html request limit = (ranking.take limit).map Prod.snd ∧
        (rank html request limit).length ≤ limit) ∧
      (∀ k m, k ≤ m → rank html request k = (rank html request m).take k) ∧
      ∀ (lookup : Lookup) (settings : Settings), lookup.page = html →
        search lookup request settings =
          ((ranking.take (min settings.sectionLimit settings.hitLimit)).map Prod.snd).map Hit.ofExcerpt := by
  obtain ⟨w, hw⟩ := exists_worth request (excerpts html)
  refine ⟨placesOf html request, ranks_rankedPlaces hw, fun limit => ⟨rank_eq html request limit, ?_⟩,
    fun k m hkm => (rank_take html request hkm).symm, fun lookup settings hpage => ?_⟩
  · rw [rank_eq, List.length_map]
    exact List.length_take_le ..
  · rw [search, hpage, rank_eq, ← List.map_take, List.take_take, Nat.min_comm]

end PageEdit
