import PageEdit.Text.WordRanges

/-!
# Words

A word character is a letter, mark, decimal digit, connector or join control. A word of a text is
bounded on either side by the text's end or by a character of the other kind.
-/

namespace PageEdit.Text

/-- Whether a character can be part of a word. -/
def isWordChar (c : Char) : Bool :=
  if c.toNat < 0x80 then c.isAlphanum || c == '_' else inRanges wordRanges c.toNat

/-- Whether a text, if any of it is left, goes on with a word character. -/
def startsWord : List Char → Bool
  | c :: _ => isWordChar c
  | [] => false

/-- A reader of one alternative: the rests that can follow what it accepts. -/
abbrev Pattern := List Char → List (List Char)

/-- Whether `p` accepts something that begins and ends at a word boundary, given whether a word
character stands before. What it accepts is taken to begin and end with word characters. -/
def occursAsWord (p : Pattern) (inWord : Bool) : List Char → Bool
  | [] => false
  | c :: cs =>
    (!inWord && isWordChar c && (p (c :: cs)).any (!startsWord ·)) ||
      occursAsWord p (isWordChar c) cs

/-- Whether `p` accepts something anywhere. -/
def occurs (p : Pattern) : List Char → Bool
  | [] => !(p []).isEmpty
  | c :: cs => !(p (c :: cs)).isEmpty || occurs p cs

end PageEdit.Text
