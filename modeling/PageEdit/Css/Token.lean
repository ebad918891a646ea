import PageEdit.Number.Layout
import PageEdit.Text.Quoted

/-!
# Tokens of selectors

The tokens of CSS, and the two ways in which messages show them: as they might have been written, and
spelled out with all that a token holds.
-/

namespace PageEdit.Css

/-- The number in a token. -/
structure Numeric where
  /-- Whether it was written with a sign. -/
  signed : Bool
  value : Float32
  /-- Its value if it was written without a point and an exponent. -/
  int? : Option Int
  deriving Inhabited

/-- A token. -/
inductive Token where
  | ident (s : String)
  | atKeyword (s : String)
  | hash (s : String)
  /-- A hash whose text is an identifier. -/
  | idHash (s : String)
  | quoted (s : String)
  | url (s : String)
  | delim (c : Char)
  | number (n : Numeric)
  | percentage (n : Numeric)
  | dimension (n : Numeric) (unit : String)
  | blank (s : String)
  | colon
  | semicolon
  | comma
  /-- `~=` -/
  | includes
  /-- `|=` -/
  | dashed
  /-- `^=` -/
  | starts
  /-- `$=` -/
  | ends
  /-- `*=` -/
  | substring
  /-- `<!--` -/
  | openComment
  /-- `-->` -/
  | closeComment
  | function (s : String)
  | openRound
  | openSquare
  | openCurly
  | badUrl (s : String)
  | badText (s : String)
  | closeRound
  | closeSquare
  | closeCurly
  deriving Inhabited

/-- Numbers as they might have been written: by place, whole ones without a point. -/
def shownNumber : Number.Layout := ⟨none, none, false, false⟩

/-- Numbers spelled out: by place from `1e-4` up to below `1e16`, always with a point or an exponent. -/
def spelledNumber : Number.Layout := ⟨some (-4), some 15, true, false⟩

/-- A single-precision number in a layout. -/
def numberText (layout : Number.Layout) (x : Float32) : String :=
  layout.text PageEdit.Number.Binary.decimal32 (PageEdit.Number.Parts.ofFloat32 x)

namespace Numeric

/-- A number as it might have been written. A sign is put before it even if it brings its own. -/
def text (n : Numeric) : String :=
  let digits := numberText shownNumber n.value
  if n.signed then (if n.value > 0 then "+" else "-") ++ digits else digits

/-- The fields of a number spelled out. -/
def fields (valueName : String) (n : Numeric) : List (String × String) :=
  [("has_sign", toString n.signed), (valueName, numberText spelledNumber n.value),
   ("int_value", match n.int? with
     | none => "None"
     | some i => "Some(\n    " ++ toString i ++ ",\n)")]

end Numeric

/-- Text with each line but the first moved in by four spaces. -/
def indentLines (s : String) : String := s.replace "\n" "\n    "

/-- A name with one item spelled out on lines of its own. -/
def spellItem (name item : String) : String := name ++ "(\n    " ++ indentLines item ++ ",\n)"

/-- A name with named fields spelled out on lines of their own. -/
def spellFields (name : String) (fields : List (String × String)) : String :=
  name ++ " \x7b\n" ++
    String.join (fields.map fun (k, v) => "    " ++ k ++ ": " ++ indentLines v ++ ",\n") ++ "\x7d"

namespace Token

/-- A token as it might have been written. Brackets have a `<` before them. -/
def text : Token → String
  | .ident s => s
  | .atKeyword s => "@" ++ s
  | .hash s | .idHash s => "#" ++ s
  | .quoted s => "\"" ++ s ++ "\""
  | .url s => s
  | .delim c => c.toString
  | .number n => n.text
  | .percentage n => n.text ++ "%"
  | .dimension n unit => n.text ++ unit
  | .blank _ => " "
  | .colon => ":"
  | .semicolon => ";"
  | .comma => ","
  | .includes => "~="
  | .dashed => "|="
  | .starts => "^="
  | .ends => "$="
  | .substring => "*="
  | .openComment => "<!--"
  | .closeComment => "-->"
  | .function s => s ++ "()"
  | .openRound => "<("
  | .openSquare => "<["
  | .openCurly => "<\x7b"
  | .badUrl s => "<Bad URL " ++ Text.quoted s ++ ">"
  | .badText s => "<Bad String " ++ Text.quoted s ++ ">"
  | .closeRound => "<)"
  | .closeSquare => "<]"
  | .closeCurly => "<\x7d"

/-- A token spelled out. -/
def spelled : Token → String
  | .ident s => spellItem "Ident" (Text.quoted s)
  | .atKeyword s => spellItem "AtKeyword" (Text.quoted s)
  | .hash s => spellItem "Hash" (Text.quoted s)
  | .idHash s => spellItem "IDHash" (Text.quoted s)
  | .quoted s => spellItem "QuotedString" (Text.quoted s)
  | .url s => spellItem "UnquotedUrl" (Text.quoted s)
  | .delim c => spellItem "Delim" (Text.quotedChar c)
  | .number n => spellFields "Number" (n.fields "value")
  | .percentage n => spellFields "Percentage" (n.fields "unit_value")
  | .dimension n unit => spellFields "Dimension" (n.fields "value" ++ [("unit", Text.quoted unit)])
  | .blank s => spellItem "WhiteSpace" (Text.quoted s)
  | .colon => "Colon"
  | .semicolon => "Semicolon"
  | .comma => "Comma"
  | .includes => "IncludeMatch"
  | .dashed => "DashMatch"
  | .starts => "PrefixMatch"
  | .ends => "SuffixMatch"
  | .substring => "SubstringMatch"
  | .openComment => "CDO"
  | .closeComment => "CDC"
  | .function s => spellItem "Function" (Text.quoted s)
  | .openRound => "ParenthesisBlock"
  | .openSquare => "SquareBracketBlock"
  | .openCurly => "CurlyBracketBlock"
  | .badUrl s => spellItem "BadUrl" (Text.quoted s)
  | .badText s => spellItem "BadString" (Text.quoted s)
  | .closeRound => "CloseParenthesis"
  | .closeSquare => "CloseSquareBracket"
  | .closeCurly => "CloseCurlyBracket"

/-- Whether a token can stand nowhere. -/
def isBad : Token → Bool
  | .badUrl _ | .badText _ | .closeRound | .closeSquare | .closeCurly => true
  | _ => false

/-- The token that closes the block which a token opens. -/
def closer? : Token → Option Token
  | .function _ | .openRound => some .closeRound
  | .openSquare => some .closeSquare
  | .openCurly => some .closeCurly
  | _ => none

/-- The kinds of brackets that close blocks. -/
def closes : Token → Token → Bool
  | .closeRound, .closeRound | .closeSquare, .closeSquare | .closeCurly, .closeCurly => true
  | _, _ => false

end Token

end PageEdit.Css
