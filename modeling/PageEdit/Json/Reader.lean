import PageEdit.Json.Fault

/-!
# Reading JSON

The reader takes what is left of the text as a list of characters and returns what it read with what is
left then. Nesting is limited to `nestingLimit` open lists and objects. The last of repeated keys stands.

A number without point and exponent that fits 64 bits stays whole; a minus before zero makes a double.
A double is its first digits, as many as fit 64 bits, times or through a power of ten, rounded once for
each of the two steps.

* `skipBlanks_cons_of_not`: what does not begin with a blank is left alone.
* `readText_close`: a quote ends a string.
-/

namespace PageEdit.Json

/-- The blanks of JSON. -/
def isBlank (c : Char) : Bool := c == ' ' || c == '\n' || c == '\t' || c == '\r'

/-- What is left behind the blanks. -/
def skipBlanks : List Char → List Char
  | [] => []
  | c :: rest => if isBlank c then skipBlanks rest else c :: rest

theorem skipBlanks_cons_of_not {c : Char} (h : isBlank c = false) (rest : List Char) :
    skipBlanks (c :: rest) = c :: rest := by
  simp [skipBlanks, h]

/-! ## Strings -/

/-- The character behind a backslash and one letter. -/
def simpleEscape (c : Char) : Option Char :=
  match c with
  | '"' => some '"'
  | '\\' => some '\\'
  | '/' => some '/'
  | 'b' => some '\x08'
  | 'f' => some '\x0c'
  | 'n' => some '\n'
  | 'r' => some '\r'
  | 't' => some '\t'
  | _ => none

/-- The value of a digit in base sixteen. -/
def hexDigit? (c : Char) : Option Nat :=
  if '0' ≤ c && c ≤ '9' then some (c.toNat - 48)
  else if 'a' ≤ c && c ≤ 'f' then some (c.toNat - 87)
  else if 'A' ≤ c && c ≤ 'F' then some (c.toNat - 55)
  else none

/-- The value of four digits in base sixteen. -/
def hex4? (a b c d : Char) : Option Nat := do
  let a ← hexDigit? a
  let b ← hexDigit? b
  let c ← hexDigit? c
  let d ← hexDigit? d
  return ((a * 16 + b) * 16 + c) * 16 + d

/-- The fault of four bytes, from the beginning of `rest`, that are no digits. -/
def badHex (rest : List Char) : Fault :=
  if byteCount rest < 4 then .before .endInText [] else ⟨.badEscape, byteCount rest - 4⟩

/-- Reads on inside a string; `out` holds its characters so far, the last first. -/
def readText (out : List Char) : List Char → Except Fault (String × List Char)
  | [] => .error (.before .endInText [])
  | c :: rest =>
    if c == '"' then .ok (String.ofList out.reverse, rest)
    else if c == '\\' then
      match rest with
      | [] => .error (.before .endInText [])
      | e :: rest =>
        match simpleEscape e with
        | some plain => readText (plain :: out) rest
        | none =>
          if e != 'u' then .error (.at .badEscape (e :: rest))
          else match rest with
            | a :: b :: c :: d :: rest' =>
              match hex4? a b c d with
              | none => .error (badHex rest)
              | some n =>
                if 0xDC00 ≤ n && n ≤ 0xDFFF then .error (.before .loneSurrogate rest')
                else if n < 0xD800 || 0xDBFF < n then readText (Char.ofNat n :: out) rest'
                else match rest' with
                  | [] => .error (.before .endInText [])
                  | s :: low =>
                    if s != '\\' then .error (.at .brokenSurrogate rest')
                    else match low with
                      | [] => .error (.before .endInText [])
                      | u :: low =>
                        if u != 'u' then .error (.at .brokenSurrogate (u :: low))
                        else match low with
                          | e :: f :: g :: h :: last =>
                            match hex4? e f g h with
                            | none => .error (badHex low)
                            | some m =>
                              if m < 0xDC00 || 0xDFFF < m then .error (.before .loneSurrogate last)
                              else
                                let n := (n - 0xD800) * 0x400 + (m - 0xDC00) + 0x10000
                                readText (Char.ofNat n :: out) last
                          | _ => .error (badHex low)
            | _ => .error (badHex rest)
    else if c.toNat < 0x20 then .error (.before .controlCharacter rest)
    else readText (c :: out) rest
termination_by structural s => s

theorem readText_close (out rest : List Char) :
    readText out ('"' :: rest) = .ok (String.ofList out.reverse, rest) := by
  rw [readText.eq_def]
  simp

/-! ## Numbers -/

/-- Ten to a power, as a double. -/
def power10 (n : Nat) : Float := Float.ofScientific 1 false n

/-- A double scaled by a power of ten, unless the result is infinite. -/
def scaleFrom : Nat → Float → Int → Option Float
  | 0, x, _ => some x
  | fuel + 1, x, exponent =>
    if exponent.natAbs ≤ 308 then
      if 0 ≤ exponent then
        let y := x * power10 exponent.toNat
        if y.isInf then none else some y
      else some (x / power10 exponent.natAbs)
    else if x == 0.0 then some x
    else if 0 ≤ exponent then none
    else scaleFrom fuel (x / power10 308) (exponent + 308)

/-- The double of a sign, digits and a power of ten. Four steps take any 64 bits to zero. -/
def scale (positive : Bool) (digits : Nat) (exponent : Int) : Option Float :=
  (scaleFrom 5 (Float.ofNat digits) exponent).map fun x => if positive then x else -x

/-- Reads digits onto `n` as long as the result fits 64 bits: the result, how many digits were read, and
what is left. -/
def readDigits (n count : Nat) : List Char → Nat × Nat × List Char
  | [] => (n, count, [])
  | c :: rest =>
    if c.isDigit && n * 10 + (c.toNat - 48) < Nat.pow 2 64 then
      readDigits (n * 10 + (c.toNat - 48)) (count + 1) rest
    else (n, count, c :: rest)

/-- What is left behind digits, and how many there were. -/
def skipDigits (count : Nat) : List Char → Nat × List Char
  | [] => (count, [])
  | c :: rest => if c.isDigit then skipDigits (count + 1) rest else (count, c :: rest)

/-- Whether the text goes on with a character that `p` picks. -/
def next (p : Char → Bool) : List Char → Bool
  | c :: _ => p c
  | [] => false

/-- Whether a character marks an exponent. -/
def isExponentMark (c : Char) : Bool := c == 'e' || c == 'E'

/-- The number that the parts make, or the fault that it is too large. -/
def finishNumber (positive : Bool) (digits : Nat) (exponent : Int) (rest : List Char) :
    Except Fault (Number × List Char) :=
  match scale positive digits exponent with
  | some x => .ok (.float x, rest)
  | none => .error (.before .numberRange rest)

/-- Reads an exponent's digits. One beyond 32 bits makes zero, or a number that is too large. -/
def readPower (positive powerPositive zero : Bool) (n : Nat) :
    List Char → Except (Except Fault (Number × List Char)) (Nat × List Char)
  | [] => .ok (n, [])
  | c :: rest =>
    if c.isDigit then
      if n * 10 + (c.toNat - 48) < Nat.pow 2 31 then
        readPower positive powerPositive zero (n * 10 + (c.toNat - 48)) rest
      else if !zero && powerPositive then .error (.error (.before .numberRange rest))
      else .error (.ok (.float (if positive then 0.0 else -0.0), (skipDigits 0 rest).2))
    else .ok (n, c :: rest)

/-- Reads on behind an exponent's mark. -/
def readExponent (positive : Bool) (digits : Nat) (exponent : Int) (s : List Char) :
    Except Fault (Number × List Char) :=
  let (powerPositive, s) :=
    match s with
    | '+' :: rest => (true, rest)
    | '-' :: rest => (false, rest)
    | _ => (true, s)
  match s with
  | [] => .error (.before .endInValue [])
  | c :: rest =>
    if !c.isDigit then .error (.at .badNumber s)
    else match readPower positive powerPositive (digits == 0) (c.toNat - 48) rest with
      | .error done => done
      | .ok (n, rest) =>
        finishNumber positive digits (if powerPositive then exponent + n else exponent - n) rest

/-- Reads on behind a point. -/
def readFraction (positive : Bool) (digits : Nat) (exponent : Int) (s : List Char) :
    Except Fault (Number × List Char) :=
  let (digits', count, rest) := readDigits digits 0 s
  let overflow := next Char.isDigit rest
  let rest := (skipDigits 0 rest).2
  if count == 0 && !overflow then
    .error (if rest.isEmpty then .at .endInValue rest else .at .badNumber rest)
  else if next isExponentMark rest then
    readExponent positive digits' (exponent - count) (rest.drop 1)
  else finishNumber positive digits' (exponent - count) rest

/-- Reads on in a number behind its sign. -/
def readNumber (positive : Bool) (s : List Char) : Except Fault (Number × List Char) :=
  match s with
  | [] => .error (.before .endInValue [])
  | c :: rest =>
    if !c.isDigit then .error (.at .badNumber s)
    else if c == '0' && next Char.isDigit rest then .error (.at .badNumber rest)
    else
      let (digits, _, rest) := readDigits (c.toNat - 48) 0 rest
      let (extra, rest') := skipDigits 0 rest
      if extra == 0 then
        if next (· == '.') rest then readFraction positive digits 0 (rest.drop 1)
        else if next isExponentMark rest then readExponent positive digits 0 (rest.drop 1)
        else if positive then .ok (.natural digits, rest)
        else if digits == 0 || Nat.pow 2 63 < digits then .ok (.float (-Float.ofNat digits), rest)
        else .ok (.negative digits, rest)
      else if next (· == '.') rest' then readFraction positive digits extra (rest'.drop 1)
      else if next isExponentMark rest' then readExponent positive digits extra (rest'.drop 1)
      else finishNumber positive digits extra rest'

/-! ## Values -/

/-- Reads the letters of a literal behind its first. -/
def readLetters : List Char → List Char → Except Fault (List Char)
  | [], s => .ok s
  | _ :: _, [] => .error (.before .endInValue [])
  | l :: ls, c :: s =>
    if c == l then readLetters ls s else .error (.at .expectedIdent (c :: s))

/-- Reads what is not a list or an object, from its first character on. -/
def readScalar (c : Char) (rest : List Char) : Except Fault (Value × List Char) :=
  if c == 'n' then (readLetters ['u', 'l', 'l'] rest).map fun s => (.null, s)
  else if c == 't' then (readLetters ['r', 'u', 'e'] rest).map fun s => (.bool true, s)
  else if c == 'f' then (readLetters ['a', 'l', 's', 'e'] rest).map fun s => (.bool false, s)
  else if c == '-' then (readNumber false rest).map fun (n, s) => (.number n, s)
  else if c.isDigit then (readNumber true (c :: rest)).map fun (n, s) => (.number n, s)
  else if c == '"' then (readText [] rest).map fun (t, s) => (.text t, s)
  else .error (.at .expectedValue (c :: rest))

/-- Finds the beginning of an item: `none` at the list's end, else what is left from the item on. -/
def nextItem (first : Bool) (s : List Char) : Except Fault (Option (List Char)) :=
  match skipBlanks s with
  | [] => .error (.at .endInList [])
  | c :: rest =>
    if c == ']' then .ok none
    else if first then .ok (some (c :: rest))
    else if c == ',' then
      match skipBlanks rest with
      | [] => .error (.at .endInValue [])
      | d :: rest => if d == ']' then .error (.at .trailingComma (d :: rest)) else .ok (some (d :: rest))
    else .error (.at .expectedListComma (c :: rest))

/-- Finds a member's key: `none` at the object's end, else what is left from the key's text on. -/
def nextKey (first : Bool) (s : List Char) : Except Fault (Option (List Char)) :=
  match skipBlanks s with
  | [] => .error (.at .endInObject [])
  | c :: rest =>
    if c == '\x7d' then .ok none
    else if first then
      if c == '"' then .ok (some rest) else .error (.at .keyNotText (c :: rest))
    else if c == ',' then
      match skipBlanks rest with
      | [] => .error (.at .endInValue [])
      | d :: rest =>
        if d == '"' then .ok (some rest)
        else if d == '\x7d' then .error (.at .trailingComma (d :: rest))
        else .error (.at .keyNotText (d :: rest))
    else .error (.at .expectedObjectComma (c :: rest))

/-- Reads the colon between a key and its value. -/
def readColon (s : List Char) : Except Fault (List Char) :=
  match skipBlanks s with
  | [] => .error (.at .endInObject [])
  | c :: rest => if c == ':' then .ok rest else .error (.at .expectedColon (c :: rest))

/-- Reads a list's end. -/
def endList (s : List Char) : Except Fault (List Char) :=
  match skipBlanks s with
  | [] => .error (.at .endInList [])
  | c :: rest => if c == ']' then .ok rest else .error (.at .trailingCharacters (c :: rest))

/-- Reads an object's end. -/
def endObject (s : List Char) : Except Fault (List Char) :=
  match skipBlanks s with
  | [] => .error (.at .endInObject [])
  | c :: rest =>
    if c == '\x7d' then .ok rest
    else if c == ',' then .error (.at .trailingComma (c :: rest))
    else .error (.at .trailingCharacters (c :: rest))

/-- How many lists and objects may be open, the last being refused. -/
def nestingLimit : Nat := 128

mutual

/-- Reads a value; `depth` more lists and objects may be opened, less one. -/
def readValue (fuel depth : Nat) (s : List Char) : Except Fault (Value × List Char) :=
  match fuel with
  | 0 => .error (.at .endInValue [])
  | fuel + 1 =>
    match skipBlanks s with
    | [] => .error (.at .endInValue [])
    | c :: rest =>
      if c == '[' then
        if depth ≤ 1 then .error (.at .tooDeep (c :: rest))
        else do
          let (items, rest) ← readItems fuel (depth - 1) true [] rest
          let rest ← endList rest
          return (.list items, rest)
      else if c == '\x7b' then
        if depth ≤ 1 then .error (.at .tooDeep (c :: rest))
        else do
          let (members, rest) ← readMembers fuel (depth - 1) true [] rest
          let rest ← endObject rest
          return (.object members, rest)
      else readScalar c rest

/-- Reads the items of a list up to its end; `done` holds those read, the last first. -/
def readItems (fuel depth : Nat) (first : Bool) (done : List Value) (s : List Char) :
    Except Fault (List Value × List Char) :=
  match fuel with
  | 0 => .error (.at .endInList [])
  | fuel + 1 => do
    match ← nextItem first s with
    | none => return (done.reverse, s)
    | some s =>
      let (v, s) ← readValue fuel depth s
      readItems fuel depth false (v :: done) s

/-- Reads the members of an object up to its end; `done` holds those read. -/
def readMembers (fuel depth : Nat) (first : Bool) (done : List (String × Value)) (s : List Char) :
    Except Fault (List (String × Value) × List Char) :=
  match fuel with
  | 0 => .error (.at .endInObject [])
  | fuel + 1 => do
    match ← nextKey first s with
    | none => return (done, s)
    | some s =>
      let (key, s) ← readText [] s
      let s ← readColon s
      let (v, s) ← readValue fuel depth s
      readMembers fuel depth false (put key v done) s

end

/-- Steps that suffice for a text: no two steps in a row read nothing. -/
def enough (s : List Char) : Nat := 2 * s.length + 4

/-- Nothing but blanks may follow. -/
def readEnd (s : List Char) : Except Fault Unit :=
  match skipBlanks s with
  | [] => .ok ()
  | rest => .error (.at .trailingCharacters rest)

/-- The value that a text spells, with `depth` as the limit of nesting. -/
def parseChars (depth : Nat) (s : List Char) : Except Fault Value := do
  let (v, rest) ← readValue (enough s) depth s
  readEnd rest
  return v

/-- The value that a text spells. -/
def parse (text : String) : Except Fault Value := parseChars nestingLimit text.toList

/-- The members of the object that a text spells. -/
def parseObject (text : String) : Except Fault (List (String × Value)) := do
  match ← parse text with
  | .object members => return members
  | v => .error ⟨.mismatch (.wrongType v.found "a map"), 0⟩

end PageEdit.Json
