/-!
# Writing names in selectors

Any text can stand in a selector as a name if what is not a name character is escaped. A digit where a
name may not have one is written as its code point.
-/

namespace PageEdit.Css

/-- Whether a character may stand in a name as it is. -/
def isNameChar (c : Char) : Bool :=
  c.isAlphanum || c == '-' || c == '_' || c.toNat ≥ 0x80

/-- A character inside a name. U+0000 cannot be written and becomes U+FFFD. -/
def identChar (c : Char) : List Char :=
  if c == '\x00' then ['\uFFFD'] else if isNameChar c then [c] else ['\\', c]

/-- The characters of a name from where a digit may not stand. -/
def identStart : List Char → List Char
  | [] => []
  | c :: cs =>
    (if c.isDigit then ['\\', '3', c, ' '] else identChar c) ++ cs.flatMap identChar

/-- The characters of a text as a name. -/
def identChars : List Char → List Char
  | ['-'] => ['\\', '-']
  | '-' :: cs => '-' :: identStart cs
  | cs => identStart cs

/-- A text as a name in a selector. -/
def ident (value : String) : String := String.ofList (identChars value.toList)

end PageEdit.Css
