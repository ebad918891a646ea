import PageEdit.Toml.Scalar
import PageEdit.Toml.Table

/-!
# Reading TOML

A text is read into statements, and these build the document. Every reader gives what it has read and the
rest of the text, or nothing if the text is not TOML.

* `Value.ofText?`: the document of a text.
-/

namespace PageEdit.Toml

/-! ## Characters -/

/-- Whether a character is a blank inside a line. -/
def isBlank (c : Char) : Bool := c == ' ' || c == '\t'

/-- Whether a character may stand in a comment or between quotes. -/
def isShown (c : Char) : Bool := c == '\t' || (' ' ≤ c && c ≤ '~') || '\x7f' < c

/-- A text with one form of line ends, if it has no others than the two that are allowed. -/
def plainLines? : List Char → Option (List Char)
  | [] => some []
  | '\r' :: '\n' :: rest => (plainLines? rest).map ('\n' :: ·)
  | '\r' :: _ => none
  | c :: rest => (plainLines? rest).map (c :: ·)

/-- What follows the blanks at the beginning. -/
def skipBlanks (s : List Char) : List Char := s.dropWhile isBlank

/-- What follows the blanks, line ends and comments at the beginning, or of the comment that one is in. -/
def skipGaps (inComment : Bool) : List Char → List Char
  | [] => []
  | c :: cs =>
    if inComment && isShown c then skipGaps true cs
    else if isBlank c || c == '\n' then skipGaps false cs
    else if c == '#' then skipGaps true cs
    else c :: cs

/-- What follows the end of a line, before which there may be blanks and a comment. -/
def endLine? (s : List Char) : Option (List Char) :=
  let s := skipBlanks s
  let s := match s with
    | '#' :: rest => rest.dropWhile isShown
    | s => s
  match s with
  | [] => some []
  | '\n' :: rest => some rest
  | _ => none

/-! ## Texts -/

/-- What a single letter stands for after a backslash. -/
def escape? (c : Char) : Option Char :=
  if c == 'b' then some '\x08'
  else if c == 't' then some '\t'
  else if c == 'n' then some '\n'
  else if c == 'f' then some '\x0c'
  else if c == 'r' then some '\r'
  else if c == '"' then some '"'
  else if c == '\\' then some '\\'
  else none

/-- The character with a number in hexadecimal digits. -/
def charOf? (digits : List Char) : Option Char :=
  if digits.all (isDigitTo 16) then
    let n := spelled 16 digits
    if n.isValidChar then some (Char.ofNat n) else none
  else none

/-- A character in front of what was read. -/
def cons (c : Char) (r : Option (List Char × List Char)) :
    Option (List Char × List Char) :=
  r.map fun (s, rest) => (c :: s, rest)

/-- Reads a text on one line up to its closing quote. -/
def readBasic : List Char → Option (List Char × List Char)
  | [] => none
  | '"' :: rest => some ([], rest)
  | '\\' :: 'u' :: a :: b :: c :: d :: rest => do cons (← charOf? [a, b, c, d]) (readBasic rest)
  | '\\' :: 'U' :: a :: b :: c :: d :: e :: f :: g :: h :: rest => do
    cons (← charOf? [a, b, c, d, e, f, g, h]) (readBasic rest)
  | '\\' :: c :: rest => do cons (← escape? c) (readBasic rest)
  | c :: rest => if isShown c && c != '\\' then cons c (readBasic rest) else none

/-- Reads a text on one line, as it stands, up to its closing quote. -/
def readLiteral : List Char → Option (List Char × List Char)
  | [] => none
  | c :: rest =>
    if c == '\'' then some ([], rest)
    else if isShown c then cons c (readLiteral rest)
    else none

/-- The end of a text over several lines, of whose quotes up to two may belong to it. -/
def closeBlock (quote : Char) : List Char → List Char × List Char
  | c :: d :: rest =>
    if c == quote && d == quote then ([quote, quote], rest)
    else if c == quote then ([quote], d :: rest)
    else ([], c :: d :: rest)
  | [c] => if c == quote then ([quote], []) else ([], [c])
  | [] => ([], [])

/-- Where one is after a backslash in a text over several lines. -/
inductive Gap where
  | none
  /-- Between the backslash and the end of its line. -/
  | opening
  /-- In the blanks and line ends that are left out. -/
  | open
  deriving DecidableEq

/-- Reads a text over several lines up to its three closing quotes. -/
def readBlock : Gap → List Char → Option (List Char × List Char)
  | _, [] => none
  | .opening, c :: rest =>
    if isBlank c then readBlock .opening rest
    else if c == '\n' then readBlock .open rest
    else none
  | _, '"' :: '"' :: '"' :: rest => some (closeBlock '"' rest)
  | _, '\\' :: 'u' :: a :: b :: c :: d :: rest => do
    cons (← charOf? [a, b, c, d]) (readBlock .none rest)
  | _, '\\' :: 'U' :: a :: b :: c :: d :: e :: f :: g :: h :: rest => do
    cons (← charOf? [a, b, c, d, e, f, g, h]) (readBlock .none rest)
  | _, '\\' :: c :: rest =>
    if isBlank c then readBlock .opening rest
    else if c == '\n' then readBlock .open rest
    else do cons (← escape? c) (readBlock .none rest)
  | gap, c :: rest =>
    if gap == .open && (isBlank c || c == '\n') then readBlock .open rest
    else if (isShown c && c != '\\') || c == '\n' then cons c (readBlock .none rest)
    else none

/-- Reads a text over several lines, as it stands, up to its three closing quotes. -/
def readLiteralBlock : List Char → Option (List Char × List Char)
  | '\'' :: '\'' :: '\'' :: rest => some (closeBlock '\'' rest)
  | c :: rest => if isShown c || c == '\n' then cons c (readLiteralBlock rest) else none
  | [] => none

/-- What follows a line end at the beginning, if there is one. -/
def skipLineEnd : List Char → List Char
  | '\n' :: rest => rest
  | s => s

/-- Reads a text of any form. -/
def readText : List Char → Option (List Char × List Char)
  | '"' :: '"' :: '"' :: rest => readBlock .none (skipLineEnd rest)
  | '\'' :: '\'' :: '\'' :: rest => readLiteralBlock (skipLineEnd rest)
  | '"' :: rest => readBasic rest
  | '\'' :: rest => readLiteral rest
  | _ => none

/-! ## Keys -/

/-- The keys and lists that may stand in each other are fewer than this. -/
def nestingLimit : Nat := 80

/-- Whether a character may stand in a key without quotes. -/
def isKeyChar (c : Char) : Bool :=
  ('a' ≤ c && c ≤ 'z') || ('A' ≤ c && c ≤ 'Z') || isDigit c || c == '-' || c == '_'

/-- Reads a key without dots. -/
def readSimpleKey : List Char → Option (String × List Char)
  | '"' :: rest => (readBasic rest).map fun (s, rest) => (String.ofList s, rest)
  | '\'' :: rest => (readLiteral rest).map fun (s, rest) => (String.ofList s, rest)
  | s =>
    let key := s.takeWhile isKeyChar
    if key.isEmpty then none else some (String.ofList key, s.dropWhile isKeyChar)

/-- Reads keys with dots between them. -/
def readKeys : Nat → List Char → Option (List String × List Char)
  | 0, _ => none
  | fuel + 1, s => do
    let (key, rest) ← readSimpleKey (skipBlanks s)
    match skipBlanks rest with
    | '.' :: rest =>
      let (keys, rest) ← readKeys fuel rest
      return (key :: keys, rest)
    | rest => return ([key], rest)

/-- Reads a key: the path to a table and the name in it. -/
def readKey (s : List Char) : Option ((List String × String) × List Char) := do
  let (keys, rest) ← readKeys nestingLimit s
  if nestingLimit ≤ keys.length then none
  else return ((keys.dropLast, ← keys.getLast?), rest)

/-! ## Values -/

/-- Whether a character may stand in a number, a truth value or a moment. -/
def isScalarChar (c : Char) : Bool := isKeyChar c || c == '+' || c == '.' || c == ':'

/-- Reads a number, a truth value or a moment. A date may be followed by a blank and a time. -/
def readScalar (s : List Char) : Option (Value × List Char) :=
  let word := s.takeWhile isScalarChar
  let rest := s.dropWhile isScalarChar
  match rest with
  | ' ' :: c :: more =>
    if isDigit c && afterDate? word == some [] then
      (scalar? (word ++ ' ' :: (c :: more).takeWhile isScalarChar)).map
        ((·, (c :: more).dropWhile isScalarChar))
    else (scalar? word).map ((·, rest))
  | _ => (scalar? word).map ((·, rest))

mutual

/-- Reads a value that stands in fewer than `depth` others. -/
def readValue : Nat → Nat → List Char → Option (Value × List Char)
  | 0, _, _ => none
  | fuel + 1, depth, s =>
    match s with
    | '[' :: rest => if depth ≤ 1 then none else readItems fuel (depth - 1) [] rest
    | '\x7b' :: rest =>
      if depth ≤ 1 then none
      else match skipBlanks rest with
        | '\x7d' :: rest => some (.table [], rest)
        | rest => readMembers fuel (depth - 1) [] rest
    | '"' :: _ | '\'' :: _ =>
      (readText s).map fun (text, rest) => (.text (String.ofList text), rest)
    | _ => readScalar s

/-- Reads the items of a list from behind its bracket or a comma. -/
def readItems : Nat → Nat → List Value → List Char → Option (Value × List Char)
  | 0, _, _, _ => none
  | fuel + 1, depth, done, s =>
    match skipGaps false s with
    | ']' :: rest => some (.list done, rest)
    | s => do
      let (v, rest) ← readValue fuel depth s
      match skipGaps false rest with
      | ',' :: rest => readItems fuel depth (done ++ [v]) rest
      | ']' :: rest => some (.list (done ++ [v]), rest)
      | _ => none

/-- Reads the assignments of a table on one line. -/
def readMembers : Nat → Nat → List (List String × String × Value) → List Char → Option (Value × List Char)
  | 0, _, _, _ => none
  | fuel + 1, depth, done, s => do
    let ((path, key), rest) ← readKey s
    match rest with
    | '=' :: rest =>
      let (v, rest) ← readValue fuel depth (skipBlanks rest)
      let done := done ++ [(path, key, v)]
      match skipBlanks rest with
      | ',' :: rest => readMembers fuel depth done rest
      | '\x7d' :: rest => return (← tableOf? done, rest)
      | _ => none
    | _ => none

end

/-! ## Statements -/

/-- Reads an assignment and the end of its line. -/
def readAssignment (s : List Char) : Option (Statement × List Char) := do
  let ((path, key), rest) ← readKey s
  match rest with
  | '=' :: rest =>
    let (v, rest) ← readValue (2 * rest.length + 2) nestingLimit (skipBlanks rest)
    return (.assign path key v, ← endLine? rest)
  | _ => none

/-- Reads a header and the end of its line. -/
def readHeader : List Char → Option (Statement × List Char)
  | '[' :: '[' :: rest => do
    let ((path, key), rest) ← readKey rest
    match rest with
    | ']' :: ']' :: rest => return (.nextHeader path key, ← endLine? rest)
    | _ => none
  | '[' :: rest => do
    let ((path, key), rest) ← readKey rest
    match rest with
    | ']' :: rest => return (.header path key, ← endLine? rest)
    | _ => none
  | _ => none

/-- Reads statements to the end of the text. -/
def readStatements : Nat → List Char → Option (List Statement)
  | 0, _ => none
  | fuel + 1, s =>
    match skipGaps false s with
    | [] => some []
    | '[' :: rest => do
      let (statement, rest) ← readHeader ('[' :: rest)
      return statement :: (← readStatements fuel rest)
    | s => do
      let (statement, rest) ← readAssignment s
      return statement :: (← readStatements fuel rest)

/-- A text without the mark of its byte order. -/
def dropMark : List Char → List Char
  | '\uFEFF' :: rest => rest
  | s => s

/-- The document of a text, if the text is TOML. -/
def Value.ofText? (text : String) : Option Value := do
  let s ← plainLines? (dropMark text.toList)
  Value.ofStatements? (← readStatements (s.length + 1) s)

end PageEdit.Toml
