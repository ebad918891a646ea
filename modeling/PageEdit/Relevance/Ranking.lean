import PageEdit.Number.Total
import PageEdit.Order.Stable
import PageEdit.Relevance.Excerpt
import PageEdit.Relevance.WholePage
import PageEdit.Text.Case

/-!
# Ranking

What sections a request is about. A request for the whole page is about every section with elements that
it names, or about all of them if it names none. Any other request is about the sections with elements or
classes that go with its keywords, or with words in common; if there are none, about those whose words,
classes or names it mentions. Sections with equal scores stay in the order of the page.

* `rank_take`: a shorter ranking is the beginning of a longer one.
-/

namespace PageEdit.Relevance

/-- The words of a text, each once. -/
def tokens (text : String) : List String := Order.distinct (Text.splitBlanks text)

/-- How many of some words are among others. -/
def overlap (words others : List String) : Nat := words.countP (· ∈ others)

/-- A scoring of excerpts. -/
abbrev Scoring := Excerpt → Score

/-- The excerpts with points, scored. -/
def scored (scoring : Scoring) (excerpts : List Excerpt) : List Excerpt :=
  (excerpts.map fun x => { x with score := scoring x }).filter (0 < ·.score.points)

/-! ## Requests for the whole page -/

/-- The elements that some keywords name. -/
def namedElements (keywords : List Keyword) : List String :=
  Order.distinct (keywords.flatMap (·.elements))

/-- A point for each named element in an excerpt, or one for any excerpt if none is named. -/
def wholePageScore (named : List String) : Scoring := fun x =>
  ⟨if named.isEmpty then 1 else overlap named x.elements, .whole⟩

/-! ## Requests for a part of the page -/

/-- Half points for a keyword: four if an element that it names is there, two for each class. -/
def keywordPoints (x : Excerpt) (k : Keyword) : Nat :=
  (if k.elements.any (· ∈ x.elements) then 4 else 0) +
    2 * k.classes.countP fun part => x.classes.any (Text.contains · part)

/-- The words of a request, full stops and question marks apart. -/
def requestTokens (lower : String) : List String :=
  tokens (Text.without (fun c => c == '?' || c == '.') lower)

/-- Half points for the keywords, and one for each word in common. -/
def keywordScore (lower : String) : Scoring := fun x =>
  ⟨Number.total ((keywordsIn lower).map (keywordPoints x)) +
      overlap (requestTokens lower) (tokens (Text.lower x.text)), .half⟩

/-! ## Requests without keywords -/

/-- The parts of a name between hyphens and low lines. -/
def nameParts (name : String) : List String :=
  (Text.words (fun c => c == '-' || c == '_') name.toList).map String.ofList

/-- What a request may call a section. -/
def vocabulary (x : Excerpt) : List String :=
  let name := Text.lower x.id
  tokens (Text.lower x.text) ++ x.classes.map Text.lower ++ nameParts name ++ [name]

/-- A slight point for each word of the request that is in the vocabulary of a section. -/
def mentionScore (lower : String) : Scoring := fun x =>
  ⟨overlap (tokens lower) (vocabulary x), .slight⟩

/-! ## Ranking -/

/-- The excerpts that a request is about, in the order of the page. -/
def relevant (request : String) (excerpts : List Excerpt) : List Excerpt :=
  let lower := Text.lower request
  if isForWholePage request then
    scored (wholePageScore (namedElements (keywordsIn lower))) excerpts
  else
    let found := scored (keywordScore lower) excerpts
    if found.isEmpty then scored (mentionScore lower) excerpts else found

/-- Whether an excerpt may stand before another. -/
def mayPrecede (x y : Excerpt) : Bool := y.score.points ≤ x.score.points

/-- Excerpts by falling points. -/
def sortByScore (excerpts : List Excerpt) : List Excerpt := Order.stableSort mayPrecede excerpts

/-- The sections of a page that a request is about, best first, at most `limit` of them. -/
def rank (html request : String) (limit : Nat) : List Excerpt :=
  (sortByScore (relevant request (excerpts html))).take limit

theorem rank_take (html request : String) {k m : Nat} (h : k ≤ m) :
    (rank html request m).take k = rank html request k := by
  simp [rank, List.take_take, Nat.min_eq_left h]

end PageEdit.Relevance
