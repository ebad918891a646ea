import Mathlib.Data.List.Basic
import PageEdit.Proofs.Relevance.Rankings
import PageEdit.Proofs.Text.Appending

/-!
# Requests with more words

When more words are put behind a request, its keywords are found all the same, and so are the words that it shares
with a section. A section does not lose points that way. As long as neither request is for the whole page and some
section has points for its keywords and words, those found for the shorter request are found for the longer one, with
a score at least as high.

* `keywordsIn_append_sublist`: no keyword is lost.
* `points_keywordScore_append`: no section loses points.
* `more_words_never_hurt`: rankings of both requests.
-/

namespace PageEdit

namespace Relevance

/-! ## Keywords -/

theorem extends_literal (text : String) : (literal text).Extends := by
  intro s rest more h
  unfold literal at h ⊢
  dsimp only at h ⊢
  split at h
  · next hbegins =>
    obtain ⟨tail, rfl⟩ := List.isPrefixOf_iff_prefix.mp hbegins
    rw [List.mem_singleton, List.drop_left] at h
    subst h
    rw [List.append_assoc, if_pos (List.isPrefixOf_iff_prefix.mpr (List.prefix_append _ _)), List.drop_left]
    exact List.mem_cons_self
  · cases h

theorem extends_word (text : String) : (word text).Extends := by
  intro s rest more h
  obtain ⟨tail, htail, hrest⟩ := List.mem_flatMap.mp h
  refine List.mem_flatMap.mpr ⟨tail ++ more, extends_literal text s tail more htail, ?_⟩
  rcases List.mem_cons.mp hrest with rfl | hrest
  · exact List.mem_cons_self
  · refine List.mem_cons_of_mem _ (List.mem_append.mpr ?_)
    rcases List.mem_append.mp hrest with hrest | hrest
    · exact .inl (extends_literal "s" tail rest more hrest)
    · exact .inr (extends_literal "es" tail rest more hrest)

theorem isIn_append {k : Keyword} {request : List Char} (more : List Char) (h : k.isIn request = true) :
    k.isIn (request ++ ' ' :: more) = true := by
  unfold Keyword.isIn at h ⊢
  split at h
  · next hascii =>
    rw [if_pos hascii]
    exact Text.occursAsWord_append (extends_word k.text) (by decide) more h
  · next hascii =>
    rw [if_neg hascii]
    exact Text.containsChars_append (' ' :: more) h

/-- No keyword is lost. -/
theorem keywordsIn_append_sublist (a b : String) : (keywordsIn a).Sublist (keywordsIn (a ++ " " ++ b)) := by
  rw [keywordsIn, keywordsIn, Text.toList_append_space]
  exact List.monotone_filter_right keywords fun k => isIn_append b.toList

/-! ## Points -/

theorem without_append_space {drop : Char → Bool} (h : drop ' ' = false) (a b : String) :
    Text.without drop (a ++ " " ++ b) = Text.without drop a ++ " " ++ Text.without drop b := by
  have hspace : (' ' :: b.toList).filter (!drop ·) = ' ' :: b.toList.filter (!drop ·) :=
    List.filter_cons_of_pos (by rw [h]; rfl)
  rw [← String.toList_inj, Text.without, Text.toList_append_space, List.filter_append, hspace]
  simp [Text.without]

theorem requestTokens_append (a b : String) : requestTokens a <+: requestTokens (a ++ " " ++ b) := by
  rw [requestTokens, requestTokens, without_append_space (by decide), tokens, tokens, Text.splitBlanks_append_space]
  exact Order.distinct_prefix _ _

theorem worth_keywordScore (lower : String) (x : Excerpt) : (keywordScore lower x).worth = .half := rfl

/-- No section loses points. -/
theorem points_keywordScore_append (a b : String) (x : Excerpt) :
    (keywordScore a x).points ≤ (keywordScore (a ++ " " ++ b) x).points := by
  have hkeywords : ((keywordsIn a).map (keywordPoints x)).Sublist
      ((keywordsIn (a ++ " " ++ b)).map (keywordPoints x)) :=
    (keywordsIn_append_sublist a b).map _
  have htokens : (requestTokens a).Sublist (requestTokens (a ++ " " ++ b)) := (requestTokens_append a b).sublist
  exact Nat.add_le_add (Number.total_le_of_sublist hkeywords) htokens.countP_le

/-! ## Rankings -/

/-- What one scoring finds is found by another one that gives no fewer points. -/
theorem exists_mem_rankedPlaces {f g : Scoring} {xs : List Excerpt} (hworth : ∀ x, (f x).worth = (g x).worth)
    (hle : ∀ x, (f x).points ≤ (g x).points) {i : Nat} {y : Excerpt} (h : (i, y) ∈ rankedPlaces f xs) :
    ∃ z, (i, z) ∈ rankedPlaces g xs ∧ z = { y with score := z.score } ∧ y.score.tenths ≤ z.score.tenths := by
  obtain ⟨x, hx, rfl, hpos⟩ := mem_rankedPlaces.mp h
  refine ⟨rescored g x, mem_rankedPlaces.mpr ⟨x, hx, rfl, Nat.lt_of_lt_of_le hpos (hle x)⟩, rfl, ?_⟩
  exact (Score.tenths_le_iff (hworth x)).mpr (hle x)

end Relevance

open Relevance

/-! ## Main statement -/

/-- More words never hurt. If neither a request nor the request with more words is for the whole page, and some section
has points for the keywords and words of the request, then each section that is found for the request is found for the
request with more words, at the same place of the page, the same but for its score, and with a score at least as high.
-/
theorem more_words_never_hurt (html request more : String) (hpart : isForWholePage request = false)
    (hmore : isForWholePage (request ++ " " ++ more) = false)
    (hpoints : ∃ x ∈ excerpts html, 0 < (keywordScore (Text.lower request) x).tenths)
    (limit : Nat) (hlimit : (excerpts html).length ≤ limit) :
    ∃ found foundMore,
      Ranks (scoringFor request (excerpts html)) (excerpts html) found ∧
      Ranks (scoringFor (request ++ " " ++ more) (excerpts html)) (excerpts html) foundMore ∧
      rank html request limit = found.map Prod.snd ∧
      rank html (request ++ " " ++ more) limit = foundMore.map Prod.snd ∧
      ∀ i x, (i, x) ∈ found →
        ∃ y, (i, y) ∈ foundMore ∧ y = { x with score := y.score } ∧ x.score.tenths ≤ y.score.tenths := by
  have hpoints : ∃ x ∈ excerpts html, 0 < (keywordScore (Text.lower request) x).points := by
    obtain ⟨x, hx, hpos⟩ := hpoints
    exact ⟨x, hx, Score.tenths_pos_iff.mp hpos⟩
  have hle : ∀ x, (keywordScore (Text.lower request) x).points ≤
      (keywordScore (Text.lower (request ++ " " ++ more)) x).points := by
    intro x
    rw [Text.lower_append_space]
    exact points_keywordScore_append _ _ x
  have hpointsMore : ∃ x ∈ excerpts html, 0 < (keywordScore (Text.lower (request ++ " " ++ more)) x).points := by
    obtain ⟨x, hx, hpos⟩ := hpoints
    exact ⟨x, hx, Nat.lt_of_lt_of_le hpos (hle x)⟩
  have hscoring := scoringFor_eq_keywordScore hpart hpoints
  have hscoringMore := scoringFor_eq_keywordScore hmore hpointsMore
  have hranks : ∀ lower,
      Ranks (keywordScore lower) (excerpts html) (rankedPlaces (keywordScore lower) (excerpts html)) :=
    fun lower => ranks_rankedPlaces (worth_keywordScore lower)
  refine ⟨placesOf html request, placesOf html (request ++ " " ++ more), ?_, ?_, rank_eq_of_le hlimit _,
    rank_eq_of_le hlimit _, fun i x hx => ?_⟩
  · rw [placesOf, hscoring]
    exact hranks _
  · rw [placesOf, hscoringMore]
    exact hranks _
  · rw [placesOf, hscoring] at hx
    rw [placesOf, hscoringMore]
    exact exists_mem_rankedPlaces (fun _ => (worth_keywordScore _ _).trans (worth_keywordScore _ _).symm) hle hx

/-- A keyword and a word at the end of a sentence. -/
theorem more_words_never_hurt_button :
    let html := "<p data-section-id=a>Go<button data-section-id=b>"
    (isForWholePage "make buttons" = false ∧ isForWholePage ("make buttons" ++ " " ++ "go.") = false) ∧
      (∃ x ∈ excerpts html, 0 < (keywordScore (Text.lower "make buttons") x).tenths) ∧
      (excerpts html).length ≤ 5 ∧
      ∃ found foundMore,
        Ranks (scoringFor "make buttons" (excerpts html)) (excerpts html) found ∧
        Ranks (scoringFor ("make buttons" ++ " " ++ "go.") (excerpts html)) (excerpts html) foundMore ∧
        rank html "make buttons" 5 = found.map Prod.snd ∧
        rank html ("make buttons" ++ " " ++ "go.") 5 = foundMore.map Prod.snd ∧
        ∀ i x, (i, x) ∈ found →
          ∃ y, (i, y) ∈ foundMore ∧ y = { x with score := y.score } ∧ x.score.tenths ≤ y.score.tenths := by
  intro html
  have hpart : isForWholePage "make buttons" = false := by decide +kernel
  have hmore : isForWholePage ("make buttons" ++ " " ++ "go.") = false := by decide +kernel
  have hpoints : ∃ x ∈ excerpts html, 0 < (keywordScore (Text.lower "make buttons") x).tenths := by decide +kernel
  have hlimit : (excerpts html).length ≤ 5 := by decide +kernel
  exact ⟨⟨hpart, hmore⟩, hpoints, hlimit, more_words_never_hurt html _ _ hpart hmore hpoints 5 hlimit⟩

end PageEdit
