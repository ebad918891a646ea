/-!
# Escaping

Characters that would be read as markup are written as references. What has to be escaped depends on
where the text stands, so the tables are given with the place.

* `escapeChars_append`: texts are escaped part by part.
-/

namespace PageEdit.Html

/-- The reference that stands for a character, if it needs one. -/
abbrev Escapes := Char → Option String

/-- In text: `&`, `<` and `>`. -/
def textEscapes : Escapes
  | '&' => some "&amp;"
  | '<' => some "&lt;"
  | '>' => some "&gt;"
  | _ => none

/-- In attribute values between double quotes: `"` as well. -/
def valueEscapes : Escapes
  | '"' => some "&quot;"
  | c => textEscapes c

/-- In text that a browser shows: the no-break space as well. -/
def strictTextEscapes : Escapes
  | '\u00A0' => some "&nbsp;"
  | c => textEscapes c

/-- In attribute values that a browser shows: `&`, `"` and the no-break space only. -/
def strictValueEscapes : Escapes
  | '\u00A0' => some "&nbsp;"
  | '&' => some "&amp;"
  | '"' => some "&quot;"
  | _ => none

/-- The characters of a text with references where they are needed. -/
def escapeChars (escapes : Escapes) : List Char → List Char
  | [] => []
  | c :: cs => ((escapes c).map String.toList).getD [c] ++ escapeChars escapes cs

theorem escapeChars_append (escapes : Escapes) (s t : List Char) :
    escapeChars escapes (s ++ t) = escapeChars escapes s ++ escapeChars escapes t := by
  induction s with
  | nil => rfl
  | cons c cs ih => simp [escapeChars, ih]

/-- A text with references where they are needed. -/
def escape (escapes : Escapes) (s : String) : String := String.ofList (escapeChars escapes s.toList)

end PageEdit.Html
