import Mathlib.Data.List.Induction
import PageEdit.Context.Assemble
import PageEdit.Proofs.Context.Candidates
import PageEdit.Proofs.Number.Comparing

/-!
# How candidates are ranked

Sections are found in a fixed order: first those that were hit, as they first appear among the hits, then those
around them, then those beside them. As long as scores are ordinary numbers, a section that was hit has the best
score of its hits, and the others have one of their own. The ranking goes by these scores and, where they are
equal, by the order in which sections were found. So hits count only by the order in which their sections first
appear and by the best score of each section; whatever leaves these alone leaves the context alone, but for the
record of its hits.

* `ids_found`: the order in which sections are found.
* `isBest_ofHits`: the score of a section that was hit.
* `ofHits_congr`: hits that agree in first appearances and best scores.
* `candidates_are_ranked_by_best_hits`: the ranking, and what it does not depend on.
-/

namespace PageEdit

open Number (IsOrdinary)

/-- The sections of some hits, in the order in which they first appear. -/
def sectionsHit (hits : List Hit) : List String := Order.distinct (hits.filterMap (·.section?))

/-- The sections that were hit, those around them and those beside them, as far as these are to be drawn in,
each at its first place. -/
def sectionsFound (lookup : Lookup) (limits : ContextLimits) (hits : List Hit) : List String :=
  Order.distinct (sectionsHit hits ++
    ((if limits.withParents then (sectionsHit hits).filterMap lookup.parent? else []) ++
      if limits.withSiblings then (sectionsHit hits).flatMap lookup.siblings else []))

/-- Whether the score of a candidate is that of a hit of its section, and no such hit has a greater one. -/
def Candidate.IsBest (hits : List Hit) (c : Candidate) : Prop :=
  (∃ h ∈ hits, h.Names c.id ∧ h.score = c.score) ∧ ∀ h ∈ hits, h.Names c.id → h.score ≤ c.score

/-- Whether candidates are those of some hits, with their scores, by falling scores and, where these are equal,
in the order in which they are found. -/
structure IsRanking (lookup : Lookup) (limits : ContextLimits) (hits : List Hit) (ranking : List Candidate) :
    Prop where
  ids : (ranking.map (·.id)).Perm (sectionsFound lookup limits hits)
  score : ∀ c ∈ ranking, c.IsBest hits ∨ c.score = 0.5 ∧ ∀ h ∈ hits, ¬ h.Names c.id
  ordered : ranking.Pairwise fun c d => d.score ≤ c.score ∧
    (c.score ≤ d.score → (sectionsFound lookup limits hits).idxOf c.id < (sectionsFound lookup limits hits).idxOf d.id)

/-- Whether contexts have the same sections with the same markup. -/
structure Context.SameSections (c d : Context) : Prop where
  fragments_eq : c.fragments = d.fragments
  included_eq : c.included = d.included
  size_eq : c.size = d.size

namespace Candidate

/-! ## The order in which sections are found -/

theorem ids_addHit (id : String) (score : Float) (cs : List Candidate) :
    (addHit id score cs).map (·.id) = Order.see (cs.map (·.id)) id := by
  induction cs with
  | nil => rfl
  | cons c rest ih =>
    rw [addHit]
    split
    · next h => simp [Order.see, h]
    · next h =>
      rw [List.map_cons, ih, Order.see, Order.see, List.map_cons]
      by_cases hid : id ∈ rest.map (·.id)
      · rw [if_pos hid, if_pos (List.mem_cons_of_mem _ hid)]
      · have hnew : id ∉ c.id :: rest.map (·.id) := List.not_mem_cons_of_ne_of_not_mem (Ne.symm h) hid
        rw [if_neg hid, if_neg hnew, List.cons_append]

theorem ids_foldl_meet (hits : List Hit) (cs : List Candidate) :
    (hits.foldl meet cs).map (·.id) = (hits.filterMap (·.section?)).foldl Order.see (cs.map (·.id)) := by
  induction hits generalizing cs with
  | nil => rfl
  | cons h rest ih =>
    rw [List.foldl_cons, ih, meet]
    cases hs : h.section? with
    | none => rw [List.filterMap_cons_none hs]
    | some id =>
      rw [List.filterMap_cons_some hs, List.foldl_cons]
      dsimp only
      rw [ids_addHit]

theorem ids_ofHits (hits : List Hit) : (ofHits hits).map (·.id) = sectionsHit hits := ids_foldl_meet hits []

theorem ids_foldl_addRelated (ids : List String) (cs : List Candidate) :
    (ids.foldl addRelated cs).map (·.id) = ids.foldl Order.see (cs.map (·.id)) := by
  induction ids generalizing cs with
  | nil => rfl
  | cons id rest ih =>
    have hadd : (addRelated cs id).map (·.id) = Order.see (cs.map (·.id)) id := by
      unfold addRelated Order.see
      split
      · rfl
      · rw [List.map_append, List.map_singleton]
    rw [List.foldl_cons, ih, hadd, List.foldl_cons]

theorem ids_found (lookup : Lookup) (limits : ContextLimits) (hits : List Hit) :
    (found lookup limits hits).map (·.id) = sectionsFound lookup limits hits := by
  have hnodup : (sectionsHit hits).Nodup := Order.distinct_nodup _
  rw [found, ids_foldl_addRelated, ids_ofHits, sectionsFound, Order.distinct_append_of_nodup hnodup, related]

/-! ## Scores -/

/-- Hits of sections that were hit before them do not change the order. -/
theorem sectionsHit_append {hits more : List Hit}
    (h : ∀ m ∈ more, ∀ id, m.Names id → ∃ g ∈ hits, g.Names id) :
    sectionsHit (hits ++ more) = sectionsHit hits := by
  have hseen : ∀ x ∈ more.filterMap (·.section?), x ∈ sectionsHit hits := by
    intro x hx
    obtain ⟨m, hm, hnames⟩ := List.mem_filterMap.mp hx
    obtain ⟨g, hg, hgnames⟩ := h m hm x (Hit.section?_eq_some_iff.mp hnames)
    exact Order.mem_distinct.mpr (List.mem_filterMap.mpr ⟨g, hg, Hit.section?_eq_some_iff.mpr hgnames⟩)
  rw [sectionsHit, List.filterMap_append, Order.distinct, List.foldl_append]
  exact Order.foldl_see_of_subset hseen

theorem mem_addHit {cs : List Candidate} (hn : (cs.map (·.id)).Nodup) {id : String} {score : Float}
    {d : Candidate} (hd : d ∈ addHit id score cs) :
    (d ∈ cs ∧ d.id ≠ id) ∨ (d = ⟨id, score⟩ ∧ id ∉ cs.map (·.id)) ∨
      ∃ c ∈ cs, c.id = id ∧ d = ⟨id, Number.greater c.score score⟩ := by
  induction cs with
  | nil =>
    rw [addHit, List.mem_singleton] at hd
    exact .inr (.inl ⟨hd, List.not_mem_nil⟩)
  | cons c rest ih =>
    obtain ⟨hc, hrest⟩ := List.nodup_cons.mp hn
    rw [addHit] at hd
    split at hd
    · next hid =>
      rcases List.mem_cons.mp hd with rfl | hd
      · exact .inr (.inr ⟨c, List.mem_cons_self, hid, rfl⟩)
      · refine .inl ⟨List.mem_cons_of_mem _ hd, fun hdid => hc ?_⟩
        exact List.mem_map.mpr ⟨d, hd, hdid.trans hid.symm⟩
    · next hid =>
      rcases List.mem_cons.mp hd with rfl | hd
      · exact .inl ⟨List.mem_cons_self, hid⟩
      · rcases ih hrest hd with ⟨hmem, hne⟩ | ⟨rfl, hnew⟩ | ⟨e, he, heid, rfl⟩
        · exact .inl ⟨List.mem_cons_of_mem _ hmem, hne⟩
        · refine .inr (.inl ⟨rfl, fun hmem => ?_⟩)
          rcases List.mem_cons.mp hmem with rfl | hmem
          · exact hid rfl
          · exact hnew hmem
        · exact .inr (.inr ⟨e, List.mem_cons_of_mem _ he, heid, rfl⟩)

section Best

variable {hits : List Hit} {c : Candidate} {last : Hit}

theorem IsBest.isOrdinary (h : c.IsBest hits) (hscores : ∀ h ∈ hits, IsOrdinary h.score) :
    IsOrdinary c.score := by
  obtain ⟨⟨h, hh, -, heq⟩, -⟩ := h
  exact heq ▸ hscores h hh

/-- One more hit does not count for the sections that it does not name. -/
theorem IsBest.append_of_not (h : c.IsBest hits) (hnot : ¬ last.Names c.id) : c.IsBest (hits ++ [last]) := by
  obtain ⟨⟨h, hh, hnames, heq⟩, hbest⟩ := h
  refine ⟨⟨h, List.mem_append_left _ hh, hnames, heq⟩, fun g hg hgnames => ?_⟩
  rcases List.mem_append.mp hg with hg | hg
  · exact hbest g hg hgnames
  · rw [List.mem_singleton.mp hg] at hgnames
    exact absurd hgnames hnot

theorem IsBest.append_of_names (h : c.IsBest hits) (hscores : ∀ h ∈ hits, IsOrdinary h.score)
    (hlast : IsOrdinary last.score) (hnames : last.Names c.id) :
    IsBest (hits ++ [last]) ⟨c.id, Number.greater c.score last.score⟩ := by
  have hord : IsOrdinary c.score := h.isOrdinary hscores
  obtain ⟨hleft, hright⟩ := Number.le_greater hord hlast
  obtain ⟨⟨h, hh, hhnames, heq⟩, hbest⟩ := h
  have hgreater : IsOrdinary (Number.greater c.score last.score) := by
    rcases Number.greater_eq_or c.score last.score with he | he
    · rw [he]
      exact hord
    · rw [he]
      exact hlast
  constructor
  · rcases Number.greater_eq_or c.score last.score with he | he
    · exact ⟨h, List.mem_append_left _ hh, hhnames, heq.trans he.symm⟩
    · exact ⟨last, by simp, hnames, he.symm⟩
  · intro g hg hgnames
    rcases List.mem_append.mp hg with hg | hg
    · exact (hscores g hg).le_trans hord hgreater (hbest g hg hgnames) hleft
    · rw [List.mem_singleton.mp hg]
      exact hright

/-- What one hit makes of the candidates of those before it. -/
theorem isBest_meet {cs : List Candidate} (hn : (cs.map (·.id)).Nodup)
    (hids : ∀ h ∈ hits, ∀ id, h.Names id → id ∈ cs.map (·.id)) (hscores : ∀ h ∈ hits, IsOrdinary h.score)
    (hlast : IsOrdinary last.score) (hbest : ∀ c ∈ cs, c.IsBest hits) :
    ∀ c ∈ meet cs last, c.IsBest (hits ++ [last]) := by
  intro c hc
  unfold meet at hc
  split at hc
  · next id hs =>
    have hnames : last.Names id := Hit.section?_eq_some_iff.mp hs
    rcases mem_addHit hn hc with ⟨hmem, hne⟩ | ⟨rfl, hnew⟩ | ⟨d, hd, rfl, rfl⟩
    · refine (hbest c hmem).append_of_not fun h => hne ?_
      exact Option.some.inj (h.1.symm.trans hnames.1)
    · refine ⟨⟨last, by simp, hnames, rfl⟩, fun g hg hgnames => ?_⟩
      rcases List.mem_append.mp hg with hg | hg
      · exact absurd (hids g hg id hgnames) hnew
      · rw [List.mem_singleton.mp hg]
        exact hlast.le_refl
    · exact (hbest d hd).append_of_names hscores hlast hnames
  · next hs =>
    refine (hbest c hc).append_of_not fun h => ?_
    rw [Hit.section?_eq_some_iff.mpr h] at hs
    cases hs

/-- A section that was hit has the best score of its hits. -/
theorem isBest_ofHits (hscores : ∀ h ∈ hits, IsOrdinary h.score) : ∀ c ∈ ofHits hits, c.IsBest hits := by
  induction hits using List.reverseRecOn with
  | nil => exact fun c hc => absurd hc List.not_mem_nil
  | append_singleton hits last ih =>
    have hbefore : ∀ h ∈ hits, IsOrdinary h.score := fun h hh => hscores h (List.mem_append_left _ hh)
    have hids : ∀ h ∈ hits, ∀ id, h.Names id → id ∈ (ofHits hits).map (·.id) :=
      fun h hh id hnames => mem_ids_ofHits.mpr ⟨h, hh, hnames⟩
    rw [ofHits, List.foldl_append]
    exact isBest_meet (ids_ofHits_nodup hits) hids hbefore (hscores last (by simp)) (ih hbefore)

theorem IsBest.le {others : List Hit} {d : Candidate} (h : c.IsBest hits) (hd : d.IsBest others)
    (hid : c.id = d.id) (hscores : ∀ h ∈ hits, IsOrdinary h.score) (hothers : ∀ g ∈ others, IsOrdinary g.score)
    (hle : ∀ h ∈ hits, ∀ id, h.Names id → ∃ g ∈ others, g.Names id ∧ h.score ≤ g.score) : c.score ≤ d.score := by
  have hordd : IsOrdinary d.score := hd.isOrdinary hothers
  obtain ⟨⟨h, hh, hnames, heq⟩, -⟩ := h
  obtain ⟨g, hg, hgnames, hhg⟩ := hle h hh c.id hnames
  rw [← heq]
  exact (hscores h hh).le_trans (hothers g hg) hordd hhg (hd.2 g hg (hid ▸ hgnames))

end Best

/-- Hits whose sections first appear in the same order, and of which each is matched by one with a score at least
as high, have the same candidates. -/
theorem ofHits_congr {hits others : List Hit} (hscores : ∀ h ∈ hits, IsOrdinary h.score)
    (hothers : ∀ h ∈ others, IsOrdinary h.score) (hids : sectionsHit hits = sectionsHit others)
    (hle : ∀ h ∈ hits, ∀ id, h.Names id → ∃ g ∈ others, g.Names id ∧ h.score ≤ g.score)
    (hge : ∀ g ∈ others, ∀ id, g.Names id → ∃ h ∈ hits, h.Names id ∧ g.score ≤ h.score) :
    ofHits hits = ofHits others := by
  have hmap : (ofHits hits).map (·.id) = (ofHits others).map (·.id) := by rw [ids_ofHits, ids_ofHits, hids]
  have hlength : (ofHits hits).length = (ofHits others).length := by simpa using congrArg List.length hmap
  refine List.ext_getElem hlength fun i hi hi' => ?_
  have hid : (ofHits hits)[i].id = (ofHits others)[i].id := by
    have hget : ((ofHits hits).map (·.id))[i]? = ((ofHits others).map (·.id))[i]? := by rw [hmap]
    rw [List.getElem?_map, List.getElem?_map, List.getElem?_eq_getElem hi, List.getElem?_eq_getElem hi'] at hget
    exact Option.some.inj hget
  have hc := isBest_ofHits hscores _ (List.getElem_mem hi)
  have hd := isBest_ofHits hothers _ (List.getElem_mem hi')
  generalize (ofHits hits)[i] = c at *
  generalize (ofHits others)[i] = d at *
  have hscore : c.score = d.score := by
    apply (hc.isOrdinary hscores).le_antisymm (hd.isOrdinary hothers)
    · exact hc.le hd hid hscores hothers hle
    · exact hd.le hc hid.symm hothers hscores hge
  cases c
  cases d
  cases hid
  cases hscore
  rfl

theorem mem_foldl_addRelated {ids : List String} {cs : List Candidate} {c : Candidate}
    (h : c ∈ ids.foldl addRelated cs) :
    c ∈ cs ∨ c.score = relatedScore ∧ c.id ∉ cs.map (·.id) := by
  induction ids generalizing cs with
  | nil => exact .inl h
  | cons id rest ih =>
    rw [List.foldl_cons, addRelated] at h
    split at h
    · exact ih h
    · next hnew =>
      rcases ih h with hmem | ⟨hscore, hid⟩
      · rcases List.mem_append.mp hmem with hmem | hmem
        · exact .inl hmem
        · rw [List.mem_singleton.mp hmem]
          exact .inr ⟨rfl, hnew⟩
      · rw [List.map_append, List.mem_append, not_or] at hid
        exact .inr ⟨hscore, hid.1⟩

/-- The score of a section that is drawn in is its own. -/
theorem score_found {lookup : Lookup} {limits : ContextLimits} {hits : List Hit}
    (hscores : ∀ h ∈ hits, IsOrdinary h.score) {c : Candidate} (hc : c ∈ found lookup limits hits) :
    c.IsBest hits ∨ c.score = 0.5 ∧ ∀ h ∈ hits, ¬ h.Names c.id := by
  rcases mem_foldl_addRelated hc with hc | ⟨hscore, hid⟩
  · exact .inl (isBest_ofHits hscores c hc)
  · exact .inr ⟨hscore, fun h hh hnames => hid (mem_ids_ofHits.mpr ⟨h, hh, hnames⟩)⟩

theorem isOrdinary_found {lookup : Lookup} {limits : ContextLimits} {hits : List Hit}
    (hscores : ∀ h ∈ hits, IsOrdinary h.score) {c : Candidate} (hc : c ∈ found lookup limits hits) :
    IsOrdinary c.score := by
  rcases score_found hscores hc with hbest | ⟨hscore, -⟩
  · exact hbest.isOrdinary hscores
  · rw [hscore]
    decide

theorem pairwise_idxOf {cs : List Candidate} (h : (cs.map (·.id)).Nodup) :
    cs.Pairwise fun c d => (cs.map (·.id)).idxOf c.id < (cs.map (·.id)).idxOf d.id := by
  have hidx : ∀ i (hi : i < cs.length), (cs.map (·.id)).idxOf cs[i].id = i := by
    intro i hi
    have hi' : i < (cs.map (·.id)).length := by rwa [List.length_map]
    have hget := h.idxOf_getElem i hi'
    rwa [List.getElem_map] at hget
  rw [List.pairwise_iff_getElem]
  intro i j hi hj hij
  rw [hidx i hi, hidx j hj]
  exact hij

theorem isRanking_ranked (lookup : Lookup) (limits : ContextLimits) {hits : List Hit}
    (hscores : ∀ h ∈ hits, IsOrdinary h.score) :
    IsRanking lookup limits hits (ranked lookup limits hits) := by
  have hmem : ∀ {c}, c ∈ ranked lookup limits hits → c ∈ found lookup limits hits :=
    fun hc => (Order.stableSort_perm mayPrecede _).mem_iff.mp hc
  refine ⟨?_, fun c hc => score_found hscores (hmem hc), ?_⟩
  · rw [← ids_found]
    exact ids_ranked_perm lookup limits hits
  · have hplaces : (found lookup limits hits).Pairwise fun c d =>
        (sectionsFound lookup limits hits).idxOf c.id < (sectionsFound lookup limits hits).idxOf d.id := by
      rw [← ids_found]
      exact pairwise_idxOf (ids_found_nodup lookup limits hits)
    have htotal : ∀ c d, mayPrecede c d = true ∨ mayPrecede d c = true :=
      fun c d => Number.atMost_total d.score c.score
    have htrans : ∀ b c d, mayPrecede b c = true → mayPrecede c d = true → mayPrecede b d = true :=
      fun _ _ _ h₁ h₂ => Number.atMost_trans _ _ _ h₂ h₁
    have hsorted := Order.pairwise_stableSort_and htotal htrans hplaces
    refine hsorted.imp_of_mem fun {c d} hc hd h => ?_
    have hc := isOrdinary_found hscores (hmem hc)
    have hd := isOrdinary_found hscores (hmem hd)
    simpa only [mayPrecede, Number.atMost, decide_eq_true_eq, ← Number.le_iff_rank_le hd hc,
      ← Number.le_iff_rank_le hc hd] using h

end Candidate

namespace Context

/-! ## What admission depends on -/

/-- The hits only count for what is recorded of them. -/
theorem SameSections.fill {lookup : Lookup} {hits others : List Hit} {budget : Nat} {c d : Context}
    (h : SameSections c d) (candidates : List Candidate) :
    SameSections (fill lookup hits budget c candidates) (fill lookup others budget d candidates) := by
  induction candidates generalizing c d with
  | nil => exact h
  | cons x rest ih =>
    rw [Context.fill, Context.fill, turn, turn, h.size_eq]
    cases lookup.markup? x.id with
    | none => exact ih h
    | some markup =>
      dsimp only
      cases Verdict.of budget d.size markup.utf8ByteSize with
      | take =>
        refine ih ⟨?_, ?_, ?_⟩
        · rw [add, add, h.fragments_eq]
        · rw [add, add, h.included_eq]
        · rw [add, add, h.size_eq]
      | skip => exact ih h
      | stop => exact h

theorem sameSections_build (lookup : Lookup) (limits : ContextLimits) {hits others : List Hit}
    (h : Candidate.ofHits hits = Candidate.ofHits others) :
    SameSections (build lookup hits limits) (build lookup others limits) := by
  have hranked : Candidate.ranked lookup limits hits = Candidate.ranked lookup limits others := by
    rw [Candidate.ranked, Candidate.ranked, Candidate.found, Candidate.found, h]
  rw [build, build, hranked]
  exact SameSections.fill ⟨rfl, rfl, rfl⟩ _

end Context

/-! ## Main statement -/

/-- Sections are found, and ranked, in their fixed order, each once. As long as scores are ordinary numbers, the
ranking goes by the best score of each section that was hit and by a score of their own for the others, and then
by the order in which sections are found. So neither hits in another order, as long as their sections first appear
as before, nor further hits of the same sections with scores no better, make another context. -/
theorem candidates_are_ranked_by_best_hits (lookup : Lookup) (limits : ContextLimits) (hits : List Hit) :
    (Candidate.found lookup limits hits).map (·.id) = sectionsFound lookup limits hits ∧
      ((Candidate.ranked lookup limits hits).map (·.id)).Perm (sectionsFound lookup limits hits) ∧
      ((∀ h ∈ hits, IsOrdinary h.score) →
        IsRanking lookup limits hits (Candidate.ranked lookup limits hits) ∧
        (∀ others : List Hit, others.Perm hits → sectionsHit others = sectionsHit hits →
          (Context.build lookup others limits).SameSections (Context.build lookup hits limits)) ∧
        ∀ more : List Hit, (∀ m ∈ more, IsOrdinary m.score) →
          (∀ m ∈ more, ∀ id, m.Names id → ∃ h ∈ hits, h.Names id ∧ m.score ≤ h.score) →
          (Context.build lookup (hits ++ more) limits).SameSections (Context.build lookup hits limits)) := by
  have hids := Candidate.ids_found lookup limits hits
  refine ⟨hids, hids ▸ Candidate.ids_ranked_perm lookup limits hits, fun hscores => ⟨?_, ?_, ?_⟩⟩
  · exact Candidate.isRanking_ranked lookup limits hscores
  · intro others hperm hsections
    have hothers : ∀ g ∈ others, IsOrdinary g.score := fun g hg => hscores g (hperm.mem_iff.mp hg)
    refine Context.sameSections_build lookup limits (Candidate.ofHits_congr hothers hscores hsections ?_ ?_)
    · exact fun g hg id hnames => ⟨g, hperm.mem_iff.mp hg, hnames, (hothers g hg).le_refl⟩
    · exact fun h hh id hnames => ⟨h, hperm.mem_iff.mpr hh, hnames, (hscores h hh).le_refl⟩
  · intro more hmore hle
    have hboth : ∀ g ∈ hits ++ more, IsOrdinary g.score := fun g hg =>
      (List.mem_append.mp hg).elim (hscores g) (hmore g)
    have hsections : sectionsHit (hits ++ more) = sectionsHit hits :=
      Candidate.sectionsHit_append fun m hm id hnames =>
        let ⟨h, hh, hhnames, _⟩ := hle m hm id hnames
        ⟨h, hh, hhnames⟩
    refine Context.sameSections_build lookup limits (Candidate.ofHits_congr hboth hscores hsections ?_ ?_)
    · intro g hg id hnames
      rcases List.mem_append.mp hg with hg | hg
      · exact ⟨g, hg, hnames, (hscores g hg).le_refl⟩
      · exact hle g hg id hnames
    · exact fun h hh id hnames => ⟨h, List.mem_append_left _ hh, hnames, (hscores h hh).le_refl⟩

/-- A hit of a section with a score. -/
def Hit.scored (id : String) (score : Float) : Hit := { Hit.blank with sectionId := some id, score := score }

theorem Hit.names_scored {id x : String} {score : Float} : (scored id score).Names x ↔ id = x ∧ x ≠ "" :=
  and_congr_left fun _ => Option.some_inj

/-- A section that is hit twice has its better score, also where it is around another one, and one that is only
drawn in is behind it. -/
theorem candidates_are_ranked_by_best_hits_twice :
    let lookup : Lookup :=
      { Lookup.ofPairs [("a", "aaaa"), ("b", "bb"), ("c", "c")] with
        parent? := fun id => if id = "c" then some "a" else some "b" }
    let hits := [Hit.scored "a" 0.25, Hit.scored "c" 0.75, Hit.scored "a" 1]
    let others := [Hit.scored "a" 1, Hit.scored "c" 0.75, Hit.scored "a" 0.25]
    (∀ h ∈ hits, IsOrdinary h.score) ∧ sectionsFound lookup .standard hits = ["a", "c", "b"] ∧
      (Candidate.ranked lookup .standard hits).map (·.id) = ["a", "c", "b"] ∧
      IsRanking lookup .standard hits (Candidate.ranked lookup .standard hits) ∧
      (Context.build lookup others .standard).SameSections (Context.build lookup hits .standard) ∧
      (Context.build lookup (hits ++ [Hit.scored "c" 0.5]) .standard).SameSections
        (Context.build lookup hits .standard) := by
  intro lookup hits others
  have hscores : ∀ h ∈ hits, IsOrdinary h.score := by decide +kernel
  have hfound : sectionsFound lookup .standard hits = ["a", "c", "b"] := by decide +kernel
  have hranked : (Candidate.ranked lookup .standard hits).map (·.id) = ["a", "c", "b"] := by decide +kernel
  obtain ⟨-, -, h⟩ := candidates_are_ranked_by_best_hits lookup .standard hits
  obtain ⟨hranking, hperm, hmore⟩ := h hscores
  have hothers := hperm others (List.reverse_perm hits) (by decide +kernel)
  refine ⟨hscores, hfound, hranked, hranking, hothers, hmore [Hit.scored "c" 0.5] (by decide +kernel) ?_⟩
  intro m hm id hnames
  obtain rfl : m = Hit.scored "c" 0.5 := List.mem_singleton.mp hm
  have hnames : (Hit.scored "c" 0.75).Names id := Hit.names_scored.mpr (Hit.names_scored.mp hnames)
  refine ⟨Hit.scored "c" 0.75, List.mem_cons_of_mem _ List.mem_cons_self, hnames, ?_⟩
  show (0.5 : Float) ≤ 0.75
  decide +kernel

end PageEdit
