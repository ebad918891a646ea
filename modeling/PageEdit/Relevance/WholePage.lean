import PageEdit.Relevance.Keywords

/-!
# Requests for the whole page

Some phrasings ask for a change of the whole page rather than of a part of it: all of something, or
another language for it. Letters count without case.
-/

namespace PageEdit.Relevance

open Text (Pattern)

/-- A letter without case. The long s and the Kelvin sign are s and k. -/
def foldLetter (c : Char) : Char :=
  if c == '\u017F' then 's' else if c == '\u212A' then 'k' else c.toLower

/-- What is left after one text and then another, with any blanks between them. -/
def spaced (first : String) (second : List String) : Pattern := fun s =>
  (literal first s).flatMap fun rest =>
    second.flatMap fun text => literal text (rest.dropWhile Text.isBlank)

/-- One of some patterns. -/
def oneOf (patterns : List Pattern) : Pattern := fun s => patterns.flatMap fun p => p s

/-- Phrasings that count anywhere. -/
def phrases : Pattern :=
  oneOf
    [spaced "전체" ["색", "배경", "폰트"],
     spaced "모든" ["버튼", "텍스트", "요소"],
     spaced "다" ["바꿔", "변경"],
     spaced "전부" ["바꿔", "변경"],
     spaced "영어로" ["번역", "바꿔", "변경", "변환"],
     spaced "한글" ["영어로"],
     spaced "한글을" ["영어로"],
     literal "번역해",
     literal "translate",
     literal "translation"]

/-- Words that count as whole words. -/
def sweepingWords : Pattern :=
  oneOf (["all", "every", "entire", "whole", "everything"].map literal)

/-- Whether a request is for the whole page. -/
def isForWholePage (request : String) : Bool :=
  let s := request.toList.map foldLetter
  Text.occurs phrases s || Text.occursAsWord sweepingWords false s

end PageEdit.Relevance
