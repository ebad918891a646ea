/-!
# Blanks and the words between them

Two sets of blanks are in use: the Unicode property White_Space, and the five ASCII characters that
separate names in HTML attributes. Everything is a function on characters in order; the versions on
`String` only pack and unpack.

* `pieces_ne_nil`: a text always has a piece.
* `words_eq_nil_iff`: a text has no word exactly if it is all separators.
-/

namespace PageEdit.Text

/-- The characters with the Unicode property White_Space. -/
def isBlank (c : Char) : Bool :=
  let n := c.toNat
  (9 ≤ n && n ≤ 13) || n == 0x20 || n == 0x85 || n == 0xA0 || n == 0x1680 ||
    (0x2000 ≤ n && n ≤ 0x200A) || n == 0x2028 || n == 0x2029 || n == 0x202F || n == 0x205F ||
    n == 0x3000

/-- The blanks of HTML: tab, line feed, form feed, carriage return and space. -/
def isAsciiBlank (c : Char) : Bool :=
  c == '\t' || c == '\n' || c == '\x0c' || c == '\r' || c == ' '

/-! ## Splitting -/

/-- The parts of a text between separators, empty ones included. -/
def pieces (sep : Char → Bool) : List Char → List (List Char)
  | [] => [[]]
  | c :: cs =>
    if sep c then [] :: pieces sep cs
    else match pieces sep cs with
      | [] => [[c]]
      | p :: ps => (c :: p) :: ps

/-- The nonempty parts of a text between separators. -/
def words (sep : Char → Bool) (s : List Char) : List (List Char) :=
  (pieces sep s).filter (!·.isEmpty)

theorem pieces_ne_nil (sep : Char → Bool) (s : List Char) : pieces sep s ≠ [] := by
  cases s with
  | nil => simp [pieces]
  | cons c cs =>
    simp only [pieces]
    split
    · simp
    · split <;> simp

theorem words_eq_nil_iff (sep : Char → Bool) (s : List Char) :
    words sep s = [] ↔ ∀ c ∈ s, sep c = true := by
  induction s with
  | nil => simp [words, pieces]
  | cons c cs ih =>
    by_cases h : sep c
    · simpa [words, pieces, h] using ih
    · simp only [words, pieces, h]
      obtain ⟨p, ps, hp⟩ := List.exists_cons_of_ne_nil (pieces_ne_nil sep cs)
      simp [hp, h]

/-- The words of a text between blanks of any kind. -/
def splitBlanks (s : String) : List String :=
  (words isBlank s.toList).map String.ofList

/-- The words of a text between HTML blanks. -/
def splitAsciiBlanks (s : String) : List String :=
  (words isAsciiBlank s.toList).map String.ofList

/-- The parts before and after the first `mark`, if there is one. -/
def cutAt (mark : Char) : List Char → Option (List Char × List Char)
  | [] => none
  | c :: cs =>
    if c == mark then some ([], cs)
    else (cutAt mark cs).map fun (head, rest) => (c :: head, rest)

/-! ## Trimming -/

/-- A text without the blanks at its start. -/
def trimStart (s : List Char) : List Char := s.dropWhile isBlank

/-- A text without the blanks at its end. -/
def trimEnd (s : List Char) : List Char := (s.reverse.dropWhile isBlank).reverse

/-- A text without the blanks at its ends. -/
def trimChars (s : List Char) : List Char := trimEnd (trimStart s)

/-- A text without the blanks at its ends. -/
def trim (s : String) : String := String.ofList (trimChars s.toList)

/-- Whether a text has nothing but blanks. -/
def isBlankText (s : String) : Bool := s.toList.all isBlank

/-! ## Counting and cutting -/

/-- The first `limit` characters of a text. -/
def cut (limit : Nat) (s : String) : String := String.ofList (s.toList.take limit)

/-- A text filled with spaces on its right to `width` characters. -/
def padRight (width : Nat) (s : String) : String :=
  s ++ String.ofList (List.replicate (width - s.length) ' ')

/-- A text filled with spaces on its left to `width` characters. -/
def padLeft (width : Nat) (s : String) : String :=
  String.ofList (List.replicate (width - s.length) ' ') ++ s

/-- A letter of the ASCII alphabet in lower case; other characters stay. -/
def lowerAscii (s : String) : String := s.map Char.toLower

/-- Equality up to the case of ASCII letters. -/
def sameAscii (a b : String) : Bool := lowerAscii a == lowerAscii b

/-- Whether `part` stands somewhere in `s`. -/
def containsChars (part : List Char) : List Char → Bool
  | [] => part.isEmpty
  | c :: cs => part.isPrefixOf (c :: cs) || containsChars part cs

/-- Whether `part` stands somewhere in `s`. -/
def contains (s part : String) : Bool := containsChars part.toList s.toList

/-- A text with each character of `s` that `drop` picks left out. -/
def without (drop : Char → Bool) (s : String) : String :=
  String.ofList (s.toList.filter (!drop ·))

end PageEdit.Text
