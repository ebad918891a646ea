import Mathlib.Data.List.DropRight
import PageEdit.Proofs.Relevance.Rankings
import PageEdit.Proofs.Text.Appending

/-!
# Requests with a closing mark

A full stop or a question mark at the end of a request is not in any phrasing and no part of a word. So it does not
change whether the request is for the whole page, which keywords it has, or which words it shares with a section.
Where no section has points for these, though, sections are looked for by the words as they stand, and there the
mark is part of the last word: with the mark, another word is looked for.

* `isForWholePage_concat`, `keywordScore_concat`: what a mark does not change.
* `points_mentionScore`: the points of the last word, apart from the others.
* `closing_marks_count_for_mentions_only`: when rankings with and without a mark are the same.
-/

namespace PageEdit

namespace Relevance

/-! ## Patterns -/

section

variable {c : Char}

theorem leaves_literal {text : String} (h : c ∉ text.toList) : (literal text).Leaves c := by
  intro s
  unfold literal
  dsimp only
  rw [Text.isPrefixOf_concat h]
  split
  · next hbegins =>
    have hlength : text.toList.length ≤ s.length := (List.isPrefixOf_iff_prefix.mp hbegins).length_le
    rw [List.drop_append_of_le_length hlength]
    rfl
  · rfl

theorem leaves_word {text : String} (h : c ∉ text.toList) (hs : c ∉ "s".toList) (hes : c ∉ "es".toList) :
    (word text).Leaves c := by
  intro s
  have hrest : ∀ rest : List Char, (rest ++ [c]) :: (literal "s" (rest ++ [c]) ++ literal "es" (rest ++ [c])) =
      (rest :: (literal "s" rest ++ literal "es" rest)).map (· ++ [c]) := by
    intro rest
    rw [leaves_literal hs rest, leaves_literal hes rest, List.map_cons, List.map_append]
  unfold word
  rw [leaves_literal h s, List.flatMap_map, List.map_flatMap]
  exact List.flatMap_congr fun rest _ => hrest rest

theorem leaves_spaced {first : String} {second : List String} (hblank : Text.isBlank c = false)
    (hfirst : c ∉ first.toList) (hsecond : ∀ text ∈ second, c ∉ text.toList) : (spaced first second).Leaves c := by
  intro s
  have hdrop : ∀ rest : List Char,
      (rest ++ [c]).dropWhile Text.isBlank = rest.dropWhile Text.isBlank ++ [c] := by
    intro rest
    rw [List.dropWhile_append]
    split
    · next hnil =>
      rw [List.isEmpty_iff.mp hnil, List.dropWhile_cons, hblank]
      rfl
    · rfl
  unfold spaced
  rw [leaves_literal hfirst s, List.flatMap_map, List.map_flatMap]
  refine List.flatMap_congr fun rest _ => ?_
  rw [List.map_flatMap]
  refine List.flatMap_congr fun text htext => ?_
  rw [hdrop, leaves_literal (hsecond text htext)]

theorem leaves_oneOf {patterns : List Text.Pattern} (h : ∀ p ∈ patterns, p.Leaves c) : (oneOf patterns).Leaves c := by
  intro s
  unfold oneOf
  rw [List.map_flatMap]
  exact List.flatMap_congr fun p hp => h p hp s

end

/-! ## Closing marks -/

/-- Whether a character closes a sentence. -/
def IsMark (c : Char) : Prop := c = '?' ∨ c = '.'

/-- Whether a text has no closing mark. -/
def lacksMarks (text : String) : Bool := text.toList.all fun c => c != '?' && c != '.'

namespace IsMark

variable {mark : Char}

theorem isBlank (h : IsMark mark) : Text.isBlank mark = false := by
  rcases h with rfl | rfl <;> decide

theorem isWordChar (h : IsMark mark) : Text.isWordChar mark = false := by
  rcases h with rfl | rfl <;> decide

theorem foldLetter (h : IsMark mark) : Relevance.foldLetter mark = mark := by
  rcases h with rfl | rfl <;> decide

theorem lower_concat (h : IsMark mark) (s : String) :
    Text.lower (s ++ mark.toString) = Text.lower s ++ mark.toString := by
  have hcased : Text.meetsCased [mark] = false := by rcases h with rfl | rfl <;> decide +kernel
  have hascii : mark.toNat < 0x80 := by rcases h with rfl | rfl <;> decide
  have hlower : mark.toLower = mark := by rcases h with rfl | rfl <;> decide
  exact Text.lower_concat hcased hascii hlower s

theorem notMem (h : IsMark mark) {text : String} (htext : lacksMarks text = true) : mark ∉ text.toList := by
  intro hmem
  have hmark : (mark != '?' && mark != '.') = true := List.all_eq_true.mp htext mark hmem
  rcases h with rfl | rfl <;> exact absurd hmark (by decide)

theorem leaves_spaced (h : IsMark mark) {first : String} {second : List String} (hfirst : lacksMarks first = true)
    (hsecond : second.all lacksMarks = true) : (spaced first second).Leaves mark :=
  Relevance.leaves_spaced h.isBlank (h.notMem hfirst) fun _ htext => h.notMem (List.all_eq_true.mp hsecond _ htext)

theorem leaves_literal (h : IsMark mark) {text : String} (htext : lacksMarks text = true) :
    (literal text).Leaves mark :=
  Relevance.leaves_literal (h.notMem htext)

/-- No phrasing for the whole page has a closing mark. -/
theorem leaves_phrases (h : IsMark mark) : phrases.Leaves mark := by
  unfold phrases
  apply leaves_oneOf
  simp only [List.forall_mem_cons]
  refine ⟨?_, ?_, ?_, ?_, ?_, ?_, ?_, ?_, ?_, ?_, fun p hp => absurd hp List.not_mem_nil⟩
  iterate 7 exact h.leaves_spaced (by decide) (by decide)
  iterate 3 exact h.leaves_literal (by decide)

theorem leaves_sweepingWords (h : IsMark mark) : sweepingWords.Leaves mark := by
  have hwords : ["all", "every", "entire", "whole", "everything"].all lacksMarks = true := by decide
  apply leaves_oneOf
  intro p hp
  obtain ⟨text, htext, rfl⟩ := List.mem_map.mp hp
  exact h.leaves_literal (List.all_eq_true.mp hwords text htext)

theorem isForWholePage_concat (h : IsMark mark) (request : String) :
    isForWholePage (request ++ mark.toString) = isForWholePage request := by
  have htext : (request ++ mark.toString).toList.map Relevance.foldLetter =
      request.toList.map Relevance.foldLetter ++ [mark] := by
    rw [Text.toList_concat, List.map_append, List.map_singleton, h.foldLetter]
  unfold isForWholePage
  dsimp only
  rw [htext, Text.occurs_concat h.leaves_phrases, Text.occursAsWord_concat h.leaves_sweepingWords h.isWordChar]

theorem keywordsIn_concat (h : IsMark mark) (lower : String) :
    keywordsIn (lower ++ mark.toString) = keywordsIn lower := by
  have hkeywords : keywords.all (fun k => lacksMarks k.text) = true := by decide +kernel
  rw [keywordsIn, keywordsIn, Text.toList_concat]
  apply List.filter_congr
  intro k hk
  have hk : mark ∉ k.text.toList := h.notMem (List.all_eq_true.mp hkeywords k hk)
  have hword : (word k.text).Leaves mark := leaves_word hk (h.notMem (by decide)) (h.notMem (by decide))
  unfold Keyword.isIn
  rw [Text.occursAsWord_concat hword h.isWordChar, Text.containsChars_concat hk]

/-- Words in common are counted without closing marks. -/
theorem requestTokens_concat (h : IsMark mark) (lower : String) :
    requestTokens (lower ++ mark.toString) = requestTokens lower := by
  have hdrop : (!(mark == '?' || mark == '.')) = false := by rcases h with rfl | rfl <;> rfl
  have hwithout : Text.without (fun c => c == '?' || c == '.') (lower ++ mark.toString) =
      Text.without (fun c => c == '?' || c == '.') lower := by
    rw [Text.without, Text.without, Text.toList_concat, List.filter_append, List.filter_singleton, hdrop]
    exact congrArg String.ofList (List.append_nil _)
  rw [requestTokens, requestTokens, hwithout]

theorem keywordScore_concat (h : IsMark mark) (lower : String) :
    keywordScore (lower ++ mark.toString) = keywordScore lower := by
  funext x
  rw [keywordScore, keywordScore, h.keywordsIn_concat, h.requestTokens_concat]

end IsMark

/-! ## Words as they stand -/

/-- A text up to the word at its end. -/
def front (s : String) : String := String.ofList (s.toList.rdropWhile (!Text.isBlank ·))

/-- The word at the end of a text. Behind a blank there is none. -/
def lastWord (s : String) : String := String.ofList (s.toList.rtakeWhile (!Text.isBlank ·))

/-- Whether a word counts for a section although others stand before it. -/
def CountsBehind (others last : String) (x : Excerpt) : Prop :=
  last ≠ "" ∧ last ∉ Text.splitBlanks others ∧ last ∈ vocabulary x

instance (others last : String) (x : Excerpt) : Decidable (CountsBehind others last x) :=
  inferInstanceAs (Decidable (_ ∧ _ ∧ _))

theorem front_append_lastWord (s : String) : front s ++ lastWord s = s := by
  rw [← String.toList_inj, String.toList_append, front, lastWord, String.toList_ofList, String.toList_ofList,
    List.rdropWhile_append_rtakeWhile]

theorem isBlank_of_mem_front (s : String) : ∀ c ∈ (front s).toList.getLast?, Text.isBlank c = true := by
  intro c hc
  rw [front, String.toList_ofList] at hc
  obtain ⟨hne, rfl⟩ := List.mem_getLast?_eq_getLast hc
  simpa using List.rdropWhile_last_not _ _ hne

theorem isBlank_of_mem_lastWord (s : String) : ∀ c ∈ (lastWord s).toList, Text.isBlank c = false := by
  intro c hc
  rw [lastWord, String.toList_ofList] at hc
  simpa using List.mem_rtakeWhile_imp hc

theorem overlap_see (seen : List String) (x : String) (others : List String) :
    overlap (Order.see seen x) others = overlap seen others + if x ∉ seen ∧ x ∈ others then 1 else 0 := by
  unfold Order.see
  split
  · next hx => rw [if_neg fun h => h.1 hx, Nat.add_zero]
  · next hx =>
    rw [overlap, List.countP_append, List.countP_singleton, overlap]
    simp [hx]

/-- The last word counts apart from the others. -/
theorem points_mentionScore {others last : String} (hothers : ∀ c ∈ others.toList.getLast?, Text.isBlank c = true)
    (hlast : ∀ c ∈ last.toList, Text.isBlank c = false) (x : Excerpt) :
    (mentionScore (others ++ last) x).points =
      overlap (tokens others) (vocabulary x) + if CountsBehind others last x then 1 else 0 := by
  have hwords : Text.splitBlanks (others ++ last) = Text.splitBlanks others ++ if last = "" then [] else [last] := by
    rw [Text.splitBlanks, String.toList_append, Text.words_append_last hothers hlast, List.map_append, Text.splitBlanks]
    by_cases hnil : last = ""
    · rw [if_pos hnil, if_pos (by simpa using hnil)]
      rfl
    · rw [if_neg hnil, if_neg (by simpa using hnil), List.map_singleton, String.ofList_toList]
  have htokens : overlap (tokens (others ++ last)) (vocabulary x) =
      overlap (tokens others) (vocabulary x) + if CountsBehind others last x then 1 else 0 := by
    rw [tokens, hwords, Order.distinct, List.foldl_append]
    by_cases hnil : last = ""
    · rw [if_pos hnil, if_neg fun h => h.1 hnil]
      rfl
    · have hseen : last ∈ Order.distinct (Text.splitBlanks others) ↔ last ∈ Text.splitBlanks others :=
        Order.mem_distinct
      rw [if_neg hnil]
      refine (overlap_see _ _ _).trans ?_
      simp only [CountsBehind, ne_eq, hnil, not_false_eq_true, true_and, ← hseen]
      rfl
  exact htokens

theorem worth_mentionScore (lower : String) (x : Excerpt) : (mentionScore lower x).worth = .slight := rfl

theorem points_mentionScore_concat_eq_iff {mark : Char} (h : IsMark mark) (lower : String) (x : Excerpt) :
    (mentionScore (lower ++ mark.toString) x).points = (mentionScore lower x).points ↔
      (CountsBehind (front lower) (lastWord lower ++ mark.toString) x ↔
        CountsBehind (front lower) (lastWord lower) x) := by
  have hplain := points_mentionScore (isBlank_of_mem_front lower) (isBlank_of_mem_lastWord lower) x
  have hlast : ∀ c ∈ (lastWord lower ++ mark.toString).toList, Text.isBlank c = false := by
    intro c hc
    rw [Text.toList_concat, List.mem_append] at hc
    rcases hc with hc | hc
    · exact isBlank_of_mem_lastWord lower c hc
    · obtain rfl : c = mark := List.mem_singleton.mp hc
      exact h.isBlank
  have hmarked := points_mentionScore (isBlank_of_mem_front lower) hlast x
  rw [← String.append_assoc, front_append_lastWord] at hmarked
  rw [front_append_lastWord] at hplain
  rw [hmarked, hplain, Nat.add_left_cancel_iff]
  by_cases hp : CountsBehind (front lower) (lastWord lower) x <;> simp [hp]

/-! ## Rankings -/

section

variable {f g : Scoring} {xs : List Excerpt}

theorem mem_sortByScore_scored {y : Excerpt} :
    y ∈ sortByScore (scored f xs) ↔ ∃ x ∈ xs, y = rescored f x ∧ 0 < (f x).points := by
  rw [sortByScore, (Order.stableSort_perm _ _).mem_iff, scored, List.mem_filter, List.mem_map]
  constructor
  · rintro ⟨⟨x, hx, rfl⟩, hpos⟩
    exact ⟨x, hx, rfl, of_decide_eq_true hpos⟩
  · rintro ⟨x, hx, rfl, hpos⟩
    exact ⟨⟨x, hx, rfl⟩, decide_eq_true hpos⟩

/-- Excerpts that are found by one scoring and another with the same scores have the same points in both. -/
theorem points_le_of_found (hzero : ∀ x ∈ xs, x.score = .zero)
    (h : ∀ y ∈ sortByScore (scored f xs), y ∈ sortByScore (scored g xs)) {x : Excerpt} (hx : x ∈ xs)
    (hpos : 0 < (f x).points) : (f x).points = (g x).points := by
  obtain ⟨z, hz, heq, -⟩ := mem_sortByScore_scored.mp (h _ (mem_sortByScore_scored.mpr ⟨x, hx, rfl, hpos⟩))
  have hxz : x = z := by
    have hscores : x.score = z.score := (hzero x hx).trans (hzero z hz).symm
    cases x
    cases z
    simp only [rescored, Excerpt.mk.injEq] at heq hscores ⊢
    exact ⟨heq.1, heq.2.1, heq.2.2.1, heq.2.2.2.1, heq.2.2.2.2.1, hscores⟩
  subst hxz
  exact congrArg (·.score.points) heq

theorem sortByScore_scored_eq_iff (hworth : ∀ x, (f x).worth = (g x).worth) (hzero : ∀ x ∈ xs, x.score = .zero) :
    sortByScore (scored f xs) = sortByScore (scored g xs) ↔ ∀ x ∈ xs, (f x).points = (g x).points := by
  constructor
  · intro h x hx
    rcases Nat.eq_zero_or_pos (f x).points with hf | hf
    · rcases Nat.eq_zero_or_pos (g x).points with hg | hg
      · rw [hf, hg]
      · exact (points_le_of_found hzero (fun y hy => h ▸ hy) hx hg).symm
    · exact points_le_of_found hzero (fun y hy => h ▸ hy) hx hf
  · intro h
    have hscores : ∀ x ∈ xs, f x = g x := by
      intro x hx
      have hpoints := h x hx
      have hworth := hworth x
      generalize f x = a at hpoints hworth ⊢
      generalize g x = b at hpoints hworth ⊢
      cases a
      cases b
      cases hpoints
      cases hworth
      rfl
    have hmap : (xs.map fun x => { x with score := f x }) = xs.map fun x => { x with score := g x } :=
      List.map_congr_left fun x hx => by rw [hscores x hx]
    rw [scored, scored, hmap]

end

theorem score_of_mem_excerpts {html : String} {x : Excerpt} (h : x ∈ excerpts html) : x.score = .zero := by
  obtain ⟨p, -, hp⟩ := List.mem_filterMap.mp h
  obtain ⟨id, -, rfl⟩ := Option.map_eq_some_iff.mp hp
  rfl

theorem forall_rank_eq_iff {html a b : String} :
    (∀ limit, rank html a limit = rank html b limit) ↔
      sortByScore (scored (scoringFor a (excerpts html)) (excerpts html)) =
        sortByScore (scored (scoringFor b (excerpts html)) (excerpts html)) := by
  simp only [rank, relevant_eq]
  constructor
  · intro h
    have hall := h ((sortByScore (scored (scoringFor a (excerpts html)) (excerpts html))).length +
      (sortByScore (scored (scoringFor b (excerpts html)) (excerpts html))).length)
    rwa [List.take_of_length_le (Nat.le_add_right _ _), List.take_of_length_le (Nat.le_add_left _ _)] at hall
  · intro h limit
    rw [h]

end Relevance

open Relevance

/-! ## Main statement -/

/-- A closing mark at the end of a request changes neither whether it is for the whole page nor the points that any
section has for its keywords and words. So rankings are the same if the request is for the whole page, or if some
section of the page has such points. If no section has, rankings are the same exactly if each section is mentioned by
the last word with the mark just as it is by the last word without it. -/
theorem closing_marks_count_for_mentions_only (html request : String) (mark : Char) (hmark : IsMark mark) :
    isForWholePage (request ++ mark.toString) = isForWholePage request ∧
      (∀ x, keywordScore (Text.lower (request ++ mark.toString)) x = keywordScore (Text.lower request) x) ∧
      ((isForWholePage request = true ∨ ∃ x ∈ excerpts html, 0 < (keywordScore (Text.lower request) x).tenths) →
        ∀ limit, rank html (request ++ mark.toString) limit = rank html request limit) ∧
      (isForWholePage request = false → (∀ x ∈ excerpts html, (keywordScore (Text.lower request) x).tenths = 0) →
        ((∀ limit, rank html (request ++ mark.toString) limit = rank html request limit) ↔
          ∀ x ∈ excerpts html,
            (CountsBehind (front (Text.lower request)) (lastWord (Text.lower request) ++ mark.toString) x ↔
              CountsBehind (front (Text.lower request)) (lastWord (Text.lower request)) x))) := by
  have hpage := hmark.isForWholePage_concat request
  have hlower := hmark.lower_concat request
  have hscore : ∀ x, keywordScore (Text.lower (request ++ mark.toString)) x = keywordScore (Text.lower request) x := by
    intro x
    rw [hlower, hmark.keywordScore_concat]
  refine ⟨hpage, hscore, fun hpath => ?_, fun hpart hnone => ?_⟩
  · rw [forall_rank_eq_iff]
    cases hwhole : isForWholePage request with
    | true => rw [scoringFor, scoringFor, hpage, hwhole, if_pos rfl, if_pos rfl, hlower, hmark.keywordsIn_concat]
    | false =>
      rw [hwhole] at hpath
      obtain ⟨x, hx, hpos⟩ := hpath.resolve_left Bool.false_ne_true
      have hpos := Score.tenths_pos_iff.mp hpos
      rw [scoringFor_eq_keywordScore (hpage.trans hwhole) ⟨x, hx, (hscore x).symm ▸ hpos⟩,
        scoringFor_eq_keywordScore hwhole ⟨x, hx, hpos⟩, hlower, hmark.keywordScore_concat]
  · have hnone : ∀ x ∈ excerpts html, (keywordScore (Text.lower request) x).points = 0 := by
      intro x hx
      have htenths := hnone x hx
      have hiff := Score.tenths_pos_iff (s := keywordScore (Text.lower request) x)
      omega
    have hnoneMark : ∀ x ∈ excerpts html, (keywordScore (Text.lower (request ++ mark.toString)) x).points = 0 := by
      intro x hx
      rw [hscore]
      exact hnone x hx
    rw [forall_rank_eq_iff, scoringFor_eq_mentionScore (hpage.trans hpart) hnoneMark,
      scoringFor_eq_mentionScore hpart hnone, hlower,
      sortByScore_scored_eq_iff (fun x => (worth_mentionScore _ x).trans (worth_mentionScore _ x).symm)
        fun x hx => score_of_mem_excerpts hx]
    exact forall₂_congr fun x _ => points_mentionScore_concat_eq_iff hmark _ x

/-- A question about a button, and one that mentions no section. -/
theorem closing_marks_count_for_mentions_only_button :
    let html := "<button data-section-id=a>"
    let other := "<p data-section-id=a>Ready?"
    IsMark '?' ∧ (∃ x ∈ excerpts html, 0 < (keywordScore (Text.lower "which button") x).tenths) ∧
      (∀ limit, rank html ("which button" ++ '?'.toString) limit = rank html "which button" limit) ∧
      isForWholePage "are you" = false ∧
      (∀ x ∈ excerpts other, (keywordScore (Text.lower "are you") x).tenths = 0) ∧
      ∀ limit, rank other ("are you" ++ '?'.toString) limit = rank other "are you" limit := by
  intro html other
  have hmark : IsMark '?' := .inl rfl
  have hpoints : ∃ x ∈ excerpts html, 0 < (keywordScore (Text.lower "which button") x).tenths := by decide +kernel
  have hpart : isForWholePage "are you" = false := by decide +kernel
  have hnone : ∀ x ∈ excerpts other, (keywordScore (Text.lower "are you") x).tenths = 0 := by decide +kernel
  have hlast : ∀ x ∈ excerpts other,
      (CountsBehind (front (Text.lower "are you")) (lastWord (Text.lower "are you") ++ '?'.toString) x ↔
        CountsBehind (front (Text.lower "are you")) (lastWord (Text.lower "are you")) x) := by
    decide +kernel
  obtain ⟨-, -, hsame, -⟩ := closing_marks_count_for_mentions_only html "which button" '?' hmark
  obtain ⟨-, -, -, hmentions⟩ := closing_marks_count_for_mentions_only other "are you" '?' hmark
  exact ⟨hmark, hpoints, hsame (.inr hpoints), hpart, hnone, (hmentions hpart hnone).mpr hlast⟩

/-- A section that is found by its name is not found when the name has a question mark behind it. -/
theorem names_with_question_marks_are_not_found :
    let html := "<body><div data-section-id=\"hero\"><h1>Welcome</h1></div></body>"
    (rank html "change hero" 5).map (fun x => (x.id, x.score.tenths)) = [("hero", 3)] ∧
      rank html ("change hero" ++ '?'.toString) 5 = [] := by
  decide +kernel

end PageEdit
