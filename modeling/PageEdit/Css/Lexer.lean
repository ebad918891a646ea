import PageEdit.Css.Token

/-!
# Cutting selectors into tokens

Names, strings and addresses are read a character at a time by small machines that share the rules for
backslash escapes. Comments separate tokens and leave none.

* `readName_nil`, `readName_stop`: where a name ends.
-/

namespace PageEdit.Css.Lexer

/-! ## Characters -/

/-- Whether a character ends a line of a style sheet. -/
def isNewline (c : Char) : Bool := c == '\n' || c == '\r' || c == '\x0c'

def isBlank (c : Char) : Bool := c == ' ' || c == '\t' || isNewline c

/-- Whether a name can begin with this character. -/
def startsName (c : Char) : Bool := c.isAlpha || c == '_' || c == '\x00' || c.toNat ≥ 0x80

/-- Whether a name can go on with this character as it is. -/
def continuesName (c : Char) : Bool := c.isAlphanum || c == '_' || c == '-' || c.toNat ≥ 0x80

def startsNewline : List Char → Bool
  | c :: _ => isNewline c
  | [] => false

def startsDigit : List Char → Bool
  | c :: _ => c.isDigit
  | [] => false

/-- Whether an identifier begins here. -/
def startsIdent : List Char → Bool
  | '-' :: c :: _ => startsName c || c == '-' || c == '\\'
  | '\\' :: rest => !startsNewline rest
  | c :: _ => startsName c
  | [] => false

/-- Whether a number begins here. -/
def startsNumber : List Char → Bool
  | '+' :: '.' :: rest | '-' :: '.' :: rest | '.' :: rest => startsDigit rest
  | '+' :: rest | '-' :: rest => startsDigit rest
  | rest => startsDigit rest

/-! ## Escapes -/

/-- What has been read of a backslash escape. -/
inductive Escape where
  | none
  /-- The backslash. -/
  | begun
  /-- The backslash and some hexadecimal digits. -/
  | hex (count value : Nat)
  /-- An escape that a carriage return ended; a line feed is part of it. -/
  | ended
  deriving Repr, DecidableEq

/-- The character of a code point. -/
def codePoint (n : Nat) : Char :=
  if n == 0 || n > 0x10FFFF || (0xD800 ≤ n && n ≤ 0xDFFF) then '\uFFFD' else Char.ofNat n

/-- The value of a hexadecimal digit. -/
def hexDigit? (c : Char) : Option Nat :=
  if c.isDigit then some (c.toNat - 0x30)
  else if 'a' ≤ c && c ≤ 'f' then some (c.toNat - 0x61 + 10)
  else if 'A' ≤ c && c ≤ 'F' then some (c.toNat - 0x41 + 10)
  else Option.none

/-- What a character does to an escape: what the escape comes to so far, and the escape that goes on, if
the character is part of it. -/
def Escape.feed (e : Escape) (c : Char) : List Char × Option Escape :=
  match e with
  | .none => ([], Option.none)
  | .begun =>
    match hexDigit? c with
    | some d => ([], some (.hex 1 d))
    | Option.none => ([if c == '\x00' then '\uFFFD' else c], some .none)
  | .hex count value =>
    match (if count < 6 then hexDigit? c else Option.none) with
    | some d => ([], some (.hex (count + 1) (16 * value + d)))
    | Option.none =>
      let out := [codePoint value]
      if c == '\r' then (out, some .ended)
      else if isBlank c then (out, some .none)
      else (out, Option.none)
  | .ended => if c == '\n' then ([], some .none) else ([], Option.none)

/-- What an escape comes to where the text ends. -/
def Escape.flush : Escape → List Char
  | .begun => ['\uFFFD']
  | .hex _ value => [codePoint value]
  | _ => []

/-! ## Names -/

/-- The characters of a name and what follows it. -/
def readName (e : Escape) : List Char → List Char × List Char
  | [] => (e.flush, [])
  | c :: cs =>
    match e.feed c with
    | (out, some e) => let (name, rest) := readName e cs; (out ++ name, rest)
    | (out, none) =>
      if c == '\\' && !startsNewline cs then
        let (name, rest) := readName .begun cs
        (out ++ name, rest)
      else if continuesName c || c == '\x00' then
        let (name, rest) := readName .none cs
        (out ++ (if c == '\x00' then '\uFFFD' else c) :: name, rest)
      else (out, c :: cs)

theorem readName_nil : readName .none [] = ([], []) := rfl

theorem readName_stop {c : Char} (cs : List Char) (hb : c ≠ '\\') (h0 : c ≠ '\x00')
    (hc : continuesName c = false) : readName .none (c :: cs) = ([], c :: cs) := by
  simp [readName, Escape.feed, hb, h0, hc]

/-- A name as text. -/
def name (s : List Char) : String × List Char :=
  let (cs, rest) := readName .none s
  (String.ofList cs, rest)

/-! ## Strings -/

/-- The characters of a string up to its end, what follows, and whether it is sound: a line that ends
inside it breaks it. -/
def readQuoted (quote : Char) (e : Escape) : List Char → List Char × List Char × Bool
  | [] => ((if e == .begun then [] else e.flush), [], true)
  | c :: cs =>
    -- a line end after a backslash joins the lines
    if e == .begun && isNewline c then
      readQuoted quote (if c == '\r' then .ended else .none) cs
    else match e.feed c with
      | (out, some e) => let (s, rest) := readQuoted quote e cs; (out ++ s, rest)
      | (out, none) =>
        if c == quote then (out, cs, true)
        else if isNewline c then (out, c :: cs, false)
        else if c == '\\' then
          let (s, rest) := readQuoted quote .begun cs
          (out ++ s, rest)
        else
          let (s, rest) := readQuoted quote .none cs
          (out ++ (if c == '\x00' then '\uFFFD' else c) :: s, rest)

/-! ## Addresses -/

/-- What a broken address still holds, and what is left after it. -/
def readBadUrl (escaped : Bool) : List Char → List Char × List Char
  | [] => ([], [])
  | c :: cs =>
    if escaped && (c == ')' || c == '\\') then let (s, rest) := readBadUrl false cs; (c :: s, rest)
    else if c == ')' then ([], cs)
    else let (s, rest) := readBadUrl (c == '\\') cs; (c :: s, rest)

/-- Whether a character cannot stand in an address as it is. -/
def breaksUrl (c : Char) : Bool :=
  c == '"' || c == '\'' || c == '(' || (1 ≤ c.toNat && c.toNat ≤ 8) || c == '\x0b' ||
    (0xE ≤ c.toNat && c.toNat ≤ 0x1F) || c == '\x7f'

/-- What is left after an address and the blanks behind it. If something else follows them the address is
broken, and the error is what is left after that character. -/
def afterUrl : List Char → Except (List Char) (List Char)
  | [] => .ok []
  | c :: cs => if c == ')' then .ok cs else if isBlank c then afterUrl cs else .error cs

/-- The characters of an address and what follows it. If the address is broken, the error is what is left
after the character that breaks it. -/
def readUrl (e : Escape) : List Char → Except (List Char) (List Char × List Char)
  | [] => .ok (e.flush, [])
  | c :: cs =>
    match e.feed c with
    | (out, some e) => (readUrl e cs).map fun (s, rest) => (out ++ s, rest)
    | (out, none) =>
      if c == ')' then .ok (out, cs)
      else if isBlank c then (afterUrl cs).map (out, ·)
      else if breaksUrl c then .error cs
      else if c == '\\' then
        if startsNewline cs then .error cs
        else (readUrl .begun cs).map fun (s, rest) => (out ++ s, rest)
      else
        (readUrl .none cs).map fun (s, rest) =>
          (out ++ (if c == '\x00' then '\uFFFD' else c) :: s, rest)

/-- The token after `url(`: an address, or a function if a string follows. -/
def urlToken (name : String) (s : List Char) : Token × List Char :=
  let inner := s.dropWhile isBlank
  match inner with
  | '"' :: _ | '\'' :: _ => (.function name, s)
  | _ =>
    match readUrl .none inner with
    | .ok (url, rest) => (.url (String.ofList url), rest)
    | .error left =>
      let (content, rest) := readBadUrl false left
      (.badUrl (String.ofList (inner.take (inner.length - left.length) ++ content)), rest)

/-- The token that begins with a name. -/
def identToken (s : List Char) : Token × List Char :=
  match name s with
  | (n, '(' :: rest) =>
    if n.map Char.toLower == "url" then urlToken n rest else (.function n, rest)
  | (n, rest) => (.ident n, rest)

/-! ## Numbers -/

/-- The sign at the beginning. -/
def sign : List Char → Bool × Float × List Char
  | '-' :: rest => (true, -1, rest)
  | '+' :: rest => (true, 1, rest)
  | rest => (false, 1, rest)

/-- The digits at the beginning. -/
def digits (s : List Char) : List Nat × List Char :=
  ((s.takeWhile Char.isDigit).map fun c => c.toNat - 0x30, s.dropWhile Char.isDigit)

/-- The value of digits before a point. -/
def wholeValue (ds : List Nat) : Float := ds.foldl (fun x d => x * 10 + Float.ofNat d) 0

/-- The value of digits after a point. -/
def fractionValue (ds : List Nat) : Float :=
  (ds.foldl (fun (x, factor) d => (x + Float.ofNat d * factor, factor * 0.1))
    ((0, 0.1) : Float × Float)).1

/-- The power of ten that an exponent stands for, if there is an exponent. -/
def exponent? : List Char → Option (Float × List Char)
  | 'e' :: rest | 'E' :: rest =>
    let (_, factor, rest) := sign rest
    if startsDigit rest then
      let (ds, rest) := digits rest
      some (Float.pow 10 (factor * wholeValue ds), rest)
    else none
  | _ => none

/-- An integer within 32 bits, at the nearer end if it is outside. -/
def saturate (negative : Bool) (n : Nat) : Int :=
  if negative then -(min n (Nat.pow 2 31) : Nat) else (min n (Nat.pow 2 31 - 1) : Nat)

/-- The token that begins with a number. -/
def numberToken (s : List Char) : Token × List Char :=
  let (signed, factor, rest) := sign s
  let (whole, rest) := digits rest
  let (fraction, rest) := match rest with
    | '.' :: more =>
      if startsDigit more then let (ds, rest) := digits more; (some ds, rest) else (none, rest)
    | _ => (none, rest)
  let value := factor * (wholeValue whole + fractionValue (fraction.getD []))
  let power := exponent? rest
  let value := match power with
    | some (p, _) => value * p
    | none => value
  let isInt := fraction.isNone && power.isNone
  let rest := (power.map (·.2)).getD rest
  let int? := if isInt then
      some (saturate (factor < 0) (whole.foldl (fun n d => 10 * n + d) 0))
    else none
  match rest with
  | '%' :: rest => (.percentage ⟨signed, (value / 100).toFloat32, int?⟩, rest)
  | _ =>
    let n : Numeric := ⟨signed, value.toFloat32, int?⟩
    if startsIdent rest then
      let (unit, rest) := name rest
      (.dimension n unit, rest)
    else (.number n, rest)

/-! ## All tokens -/

/-- What follows a comment whose opening has been read. -/
def afterComment : List Char → List Char
  | '*' :: '/' :: rest => rest
  | _ :: rest => afterComment rest
  | [] => []

/-- The operator that a character makes with `=` after it. -/
def operator? : Char → Option Token
  | '~' => some .includes
  | '|' => some .dashed
  | '^' => some .starts
  | '$' => some .ends
  | '*' => some .substring
  | _ => none

/-- Characters that are tokens of their own. -/
def single? : Char → Option Token
  | ':' => some .colon
  | ';' => some .semicolon
  | ',' => some .comma
  | '(' => some .openRound
  | '[' => some .openSquare
  | '\x7b' => some .openCurly
  | ')' => some .closeRound
  | ']' => some .closeSquare
  | '\x7d' => some .closeCurly
  | _ => none

/-- The token at the beginning, given its first character, and what follows; none for a comment. -/
def next (c : Char) (cs : List Char) : Option Token × List Char :=
  let some' := fun (t : Token × List Char) => (some t.1, t.2)
  if isBlank c then
    (some (.blank (String.ofList ((c :: cs).takeWhile isBlank))), cs.dropWhile isBlank)
  else match single? c with
  | some t => (some t, cs)
  | none =>
    if c == '"' || c == '\'' then
      let (s, rest, sound) := readQuoted c .none cs
      let s := String.ofList s
      (some (if sound then .quoted s else .badText s), rest)
    else if c == '#' then
      if startsIdent cs then let (n, rest) := name cs; (some (.idHash n), rest)
      else match cs with
        | d :: _ =>
          if d.isDigit || d == '-' then let (n, rest) := name cs; (some (.hash n), rest)
          else (some (.delim c), cs)
        | [] => (some (.delim c), cs)
    else if startsNumber (c :: cs) then some' (numberToken (c :: cs))
    else match operator? c, cs with
    | some t, '=' :: rest => (some t, rest)
    | _, _ =>
      match c, cs with
      | '/', '*' :: rest => (none, afterComment rest)
      | '-', '-' :: '>' :: rest => (some .closeComment, rest)
      | '<', '!' :: '-' :: '-' :: rest => (some .openComment, rest)
      | '@', _ =>
        if startsIdent cs then let (n, rest) := name cs; (some (.atKeyword n), rest)
        else (some (.delim c), cs)
      | _, _ =>
        if startsIdent (c :: cs) then some' (identToken (c :: cs)) else (some (.delim c), cs)

/-- The tokens of some characters, at most `n`. -/
def tokensWithin : Nat → List Char → List Token
  | 0, _ => []
  | _, [] => []
  | n + 1, c :: cs =>
    match next c cs with
    | (some t, rest) => t :: tokensWithin n rest
    | (none, rest) => tokensWithin n rest

/-- The tokens of a text. -/
def tokens (s : List Char) : List Token := tokensWithin s.length s

end PageEdit.Css.Lexer
