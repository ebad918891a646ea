import PageEdit.Toml.Value

/-!
# Numbers, truth values and moments

How a value that is neither a text nor a list nor a table is written. Underscores stand only between
digits. A decimal number has no leading zero, an integer has 64 bits, and a float must not be too large for
a double.
-/

namespace PageEdit.Toml

/-- The value of a digit up to `F`. -/
def digitOf? (c : Char) : Option Nat :=
  if '0' ≤ c && c ≤ '9' then some (c.toNat - 48)
  else if 'a' ≤ c && c ≤ 'f' then some (c.toNat - 87)
  else if 'A' ≤ c && c ≤ 'F' then some (c.toNat - 55)
  else none

/-- Whether a character is a digit to some base. -/
def isDigitTo (base : Nat) (c : Char) : Bool := (digitOf? c).any (· < base)

/-- Whether a character is a decimal digit. -/
def isDigit (c : Char) : Bool := isDigitTo 10 c

/-- Whether underscores, if there are any, stand between digits, of which there is one. -/
def isDigitRun (base : Nat) : List Char → Bool
  | [] => false
  | [c] => isDigitTo base c
  | c :: '_' :: rest => isDigitTo base c && isDigitRun base rest
  | c :: rest => isDigitTo base c && isDigitRun base rest

/-- The number that some digits spell to a base. Underscores do not count. -/
def spelled (base : Nat) (s : List Char) : Nat :=
  s.foldl (fun n c => match digitOf? c with
    | some d => n * base + d
    | none => n) 0

/-- A text without its sign, and whether the sign is a minus. -/
def unsigned : List Char → Bool × List Char
  | '-' :: rest => (true, rest)
  | '+' :: rest => (false, rest)
  | s => (false, s)

/-! ## Integers -/

/-- Whether a text is a decimal number without a sign and without a leading zero. -/
def isPlainDecimal (s : List Char) : Bool :=
  isDigitRun 10 s && (s.length == 1 || s.head? != some '0')

/-- A natural number of 63 bits. -/
def small? (n : Nat) : Option Value := if n < Nat.pow 2 63 then some (.integer n) else none

/-- An integer to one of the bases that have a mark. -/
def markedInteger? : List Char → Option Value
  | '0' :: 'x' :: digits => if isDigitRun 16 digits then small? (spelled 16 digits) else none
  | '0' :: 'o' :: digits => if isDigitRun 8 digits then small? (spelled 8 digits) else none
  | '0' :: 'b' :: digits => if isDigitRun 2 digits then small? (spelled 2 digits) else none
  | _ => none

/-- A decimal integer. -/
def decimalInteger? (s : List Char) : Option Value :=
  let (minus, digits) := unsigned s
  if isPlainDecimal digits then
    let n := spelled 10 digits
    if minus then if n ≤ Nat.pow 2 63 then some (.integer (-n)) else none
    else small? n
  else none

/-! ## Floats -/

/-- The exponent of ten that a text with its sign is. -/
def exponent? (s : List Char) : Option Int :=
  let (minus, digits) := unsigned s
  if isDigitRun 10 digits then
    let n : Int := spelled 10 digits
    some (if minus then -n else n)
  else none

/-- Whether `digits · 10^exponent` is too large for a double: nearer to `2^1024` than to the greatest one. -/
def overflows (digits : Nat) (exponent : Int) : Bool :=
  if digits = 0 then false
  else if 400 < exponent then true
  else
    let limit := Nat.pow 2 1024 - Nat.pow 2 970
    if 0 ≤ exponent then limit ≤ digits * Nat.pow 10 exponent.toNat
    else
      let places := (-exponent).toNat
      if (toString digits).length ≤ places then false else limit * Nat.pow 10 places ≤ digits

/-- A part before a point or an exponent mark, and what follows. -/
def splitFloat (s : List Char) : List Char × List Char :=
  (s.takeWhile fun c => isDigit c || c == '_', s.dropWhile fun c => isDigit c || c == '_')

/-- A number with a fraction, an exponent or both. -/
def float? (s : List Char) : Option Value :=
  let (minus, rest) := unsigned s
  let (whole, rest) := splitFloat rest
  if !isPlainDecimal whole then none
  else
    let (fraction, rest) := match rest with
      | '.' :: rest => (some (splitFloat rest).1, (splitFloat rest).2)
      | rest => (none, rest)
    let exponent := match rest with
      | 'e' :: rest | 'E' :: rest => (exponent? rest).map some
      | [] => some none
      | _ => none
    match fraction, exponent with
    | none, some none => none
    | _, none => none
    | fraction, some exponent =>
      let decimals := fraction.getD []
      if fraction.isSome && !isDigitRun 10 decimals then none
      else
        let places := decimals.countP isDigit
        let tooLarge := overflows (spelled 10 (whole ++ decimals)) (exponent.getD 0 - places)
        if tooLarge && !minus then none else some (.float (String.ofList s))

/-- Infinity and what is no number. -/
def special? (s : List Char) : Option Value :=
  let rest := (unsigned s).2
  if rest == ['i', 'n', 'f'] || rest == ['n', 'a', 'n'] then some (.float (String.ofList s)) else none

/-! ## Moments -/

/-- The number of some digits. -/
def number? (s : List Char) : Option Nat := if s.all isDigit then some (spelled 10 s) else none

/-- How many days a month has. -/
def daysIn (year month : Nat) : Nat :=
  if month == 2 then if year % 4 == 0 && (year % 100 != 0 || year % 400 == 0) then 29 else 28
  else if month == 4 || month == 6 || month == 9 || month == 11 then 30
  else 31

/-- What follows a date at the beginning of a text. -/
def afterDate? : List Char → Option (List Char)
  | y₁ :: y₂ :: y₃ :: y₄ :: '-' :: m₁ :: m₂ :: '-' :: d₁ :: d₂ :: rest => do
    let year ← number? [y₁, y₂, y₃, y₄]
    let month ← number? [m₁, m₂]
    let day ← number? [d₁, d₂]
    if 1 ≤ month && month ≤ 12 && 1 ≤ day && day ≤ daysIn year month then some rest else none
  | _ => none

/-- What follows hours and minutes at the beginning of a text. -/
def afterMinutes? : List Char → Option (List Char)
  | h₁ :: h₂ :: ':' :: m₁ :: m₂ :: rest => do
    let hour ← number? [h₁, h₂]
    let minute ← number? [m₁, m₂]
    if hour ≤ 23 && minute ≤ 59 then some rest else none
  | _ => none

/-- What follows a time of day at the beginning of a text. -/
def afterTime? (s : List Char) : Option (List Char) := do
  match ← afterMinutes? s with
  | ':' :: s₁ :: s₂ :: rest =>
    let second ← number? [s₁, s₂]
    if 60 < second then none
    else match rest with
      | '.' :: rest => if (rest.head?).any isDigit then some (rest.dropWhile isDigit) else none
      | rest => some rest
  | _ => none

/-- Whether a text is the distance from universal time. -/
def isOffset : List Char → Bool
  | ['Z'] | ['z'] => true
  | '+' :: rest | '-' :: rest => afterMinutes? rest == some []
  | _ => false

/-- Whether a text is a time of day, and after a date with or without an offset. -/
def isTime (dated : Bool) (s : List Char) : Bool :=
  match afterTime? s with
  | some [] => true
  | some rest => dated && isOffset rest
  | none => false

/-- Whether a text is a moment. -/
def isMoment (s : List Char) : Bool :=
  match afterDate? s with
  | some [] => true
  | some ('T' :: rest) | some ('t' :: rest) | some (' ' :: rest) => isTime true rest
  | some _ => false
  | none => isTime false s

/-! ## All of them -/

/-- The value that a text without blanks is, or a moment with one between the date and the time. -/
def scalar? (s : List Char) : Option Value :=
  if s == ['t', 'r', 'u', 'e'] then some (.bool true)
  else if s == ['f', 'a', 'l', 's', 'e'] then some (.bool false)
  else if isMoment s then some (.moment (String.ofList s))
  else (special? s).or ((float? s).or ((markedInteger? s).or (decimalInteger? s)))

end PageEdit.Toml
