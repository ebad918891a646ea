import PageEdit.Json.Reader

/-!
# Passing over JSON text

A value that nobody asks for is passed over without being built: its brackets, strings and numbers have to
be well formed, but nesting has no limit, and the code points and sizes that it spells are not looked at.
-/

namespace PageEdit.Json

/-- Passes over the rest of a string. -/
def skipText : List Char → Except Fault (List Char)
  | [] => .error (.before .endInText [])
  | c :: rest =>
    if c == '"' then .ok rest
    else if c == '\\' then
      match rest with
      | [] => .error (.before .endInText [])
      | e :: rest =>
        if (simpleEscape e).isSome then skipText rest
        else if e != 'u' then .error (.at .badEscape (e :: rest))
        else match rest with
          | a :: b :: c :: d :: last =>
            if (hex4? a b c d).isSome then skipText last else .error (badHex rest)
          | _ => .error (badHex rest)
    else if c.toNat < 0x20 then .error (.before .controlCharacter (c :: rest))
    else skipText rest
termination_by structural s => s

/-- Passes over an exponent behind its mark. -/
def skipPower (s : List Char) : Except Fault (List Char) :=
  let s := if next (fun c => c == '+' || c == '-') s then s.drop 1 else s
  if next Char.isDigit s then .ok (skipDigits 0 s).2 else .error (.at .badNumber s)

/-- Passes over a number behind its sign. -/
def skipNumber (s : List Char) : Except Fault (List Char) :=
  match s with
  | [] => .error (.at .badNumber [])
  | c :: rest =>
    if !c.isDigit then .error (.at .badNumber s)
    else if c == '0' && next Char.isDigit rest then .error (.at .badNumber rest)
    else
      let rest := if c == '0' then rest else (skipDigits 0 rest).2
      if next (· == '.') rest then
        let places := rest.drop 1
        let (n, rest) := skipDigits 0 places
        if n == 0 then .error (.at .badNumber places)
        else if next isExponentMark rest then skipPower (rest.drop 1)
        else .ok rest
      else if next isExponentMark rest then skipPower (rest.drop 1)
      else .ok rest

mutual

/-- Passes over a value. -/
def skipValue (fuel : Nat) (s : List Char) : Except Fault (List Char) :=
  match fuel with
  | 0 => .error (.at .endInValue [])
  | fuel + 1 =>
    match skipBlanks s with
    | [] => .error (.at .endInValue [])
    | c :: rest =>
      if c == 'n' then readLetters ['u', 'l', 'l'] rest
      else if c == 't' then readLetters ['r', 'u', 'e'] rest
      else if c == 'f' then readLetters ['a', 'l', 's', 'e'] rest
      else if c == '-' then skipNumber rest
      else if c.isDigit then skipNumber (c :: rest)
      else if c == '"' then skipText rest
      else if c == '[' then skipItems fuel true rest
      else if c == '\x7b' then skipMembers fuel true rest
      else .error (.at .expectedValue (c :: rest))

/-- Passes over the items of a list and its end. -/
def skipItems (fuel : Nat) (first : Bool) (s : List Char) : Except Fault (List Char) :=
  match fuel with
  | 0 => .error (.at .endInList [])
  | fuel + 1 =>
    match skipBlanks s with
    | [] => .error (.at .endInList [])
    | c :: rest =>
      if c == ']' then .ok rest
      else if first then do skipItems fuel false (← skipValue fuel (c :: rest))
      else if c == ',' then do skipItems fuel false (← skipValue fuel rest)
      else .error (.at .expectedListComma (c :: rest))

/-- Passes over the members of an object and its end. -/
def skipMembers (fuel : Nat) (first : Bool) (s : List Char) : Except Fault (List Char) :=
  match fuel with
  | 0 => .error (.at .endInObject [])
  | fuel + 1 =>
    match skipBlanks s with
    | [] => .error (.at .endInObject [])
    | c :: rest =>
      if c == '\x7d' then .ok rest
      else if !first && c != ',' then .error (.at .expectedObjectComma (c :: rest))
      else
        match (if first then c :: rest else skipBlanks rest) with
        | [] => .error (.at .endInObject [])
        | k :: rest =>
          if k != '"' then .error (.at .keyNotText (k :: rest))
          else do
            let rest ← readColon (← skipText rest)
            skipMembers fuel false (← skipValue fuel rest)

end

end PageEdit.Json
