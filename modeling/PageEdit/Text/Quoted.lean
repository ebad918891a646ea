import PageEdit.Text.HiddenRanges

/-!
# Quoted text

Messages show a text or a character between quotes, with what cannot be seen spelled out: the usual
backslash escapes, and `\u` with the code point in braces for hidden and joining characters.
-/

namespace PageEdit.Text

/-- The digits of a number in base sixteen, in lower case. -/
def hex (n : Nat) : String := String.ofList (Nat.toDigits 16 n)

/-- A character as it stands between quotes of the kind `quote`. -/
def escapeFor (quote : Char) (c : Char) : String :=
  if c == '\x00' then "\\0"
  else if c == '\t' then "\\t"
  else if c == '\r' then "\\r"
  else if c == '\n' then "\\n"
  else if c == '\\' then "\\\\"
  else if c == quote then "\\" ++ quote.toString
  else if inRanges joiningRanges c.toNat || inRanges hiddenRanges c.toNat then
    "\\u\x7b" ++ hex c.toNat ++ "\x7d"
  else c.toString

/-- A text between double quotes. -/
def quoted (s : String) : String :=
  "\"" ++ s.toList.foldl (fun out c => out ++ escapeFor '"' c) "" ++ "\""

/-- A character between single quotes. -/
def quotedChar (c : Char) : String := "'" ++ escapeFor '\'' c ++ "'"

end PageEdit.Text
