/-!
# UTF-8

Bytes are read one at a time. Inside a character the state holds the range that the next byte must
lie in, so overlong forms, surrogates and values beyond U+10FFFF fail at the first byte that shows
them. A fault names the index of the character it is in and how many of its bytes were sound.
-/

namespace PageEdit.Text.Utf8

/-- What is wrong with a sequence of bytes. -/
inductive Fault where
  /-- The `length` bytes from `index` on are no beginning of a character. -/
  | invalid (index length : Nat)
  /-- The bytes end inside the character that begins at `index`. -/
  | incomplete (index : Nat)
  deriving DecidableEq, Repr

/-- The wording of a fault. -/
def Fault.message : Fault → String
  | .invalid index length =>
    "invalid utf-8 sequence of " ++ toString length ++ " bytes from index " ++ toString index
  | .incomplete index => "incomplete utf-8 byte sequence from index " ++ toString index

/-- A character of which some bytes have been read. -/
structure Pending where
  /-- The index of its first byte. -/
  start : Nat
  /-- How many of its bytes have been read. -/
  seen : Nat
  /-- How many are to come, this one included. -/
  left : Nat
  /-- The range of the next byte. -/
  low : Nat
  high : Nat
  /-- The bits read so far. -/
  value : Nat
  deriving Repr

/-- What a first byte promises: how many bytes follow, the range of the next, and its own bits. -/
def lead (b : Nat) : Option (Nat × Nat × Nat × Nat) :=
  if 0xC2 ≤ b && b ≤ 0xDF then some (1, 0x80, 0xBF, b - 0xC0)
  else if b == 0xE0 then some (2, 0xA0, 0xBF, b - 0xE0)
  else if b == 0xED then some (2, 0x80, 0x9F, b - 0xE0)
  else if 0xE1 ≤ b && b ≤ 0xEF then some (2, 0x80, 0xBF, b - 0xE0)
  else if b == 0xF0 then some (3, 0x90, 0xBF, b - 0xF0)
  else if 0xF1 ≤ b && b ≤ 0xF3 then some (3, 0x80, 0xBF, b - 0xF0)
  else if b == 0xF4 then some (3, 0x80, 0x8F, b - 0xF0)
  else none

/-- The characters of the bytes from `index` on, inside the character `pending` if there is one. -/
def decodeFrom (index : Nat) (pending : Option Pending) : List UInt8 → Except Fault (List Char)
  | [] =>
    match pending with
    | none => .ok []
    | some p => .error (.incomplete p.start)
  | byte :: rest =>
    let b := byte.toNat
    match pending with
    | none =>
      if b < 0x80 then (decodeFrom (index + 1) none rest).map (Char.ofNat b :: ·)
      else match lead b with
        | none => .error (.invalid index 1)
        | some (left, low, high, value) =>
          decodeFrom (index + 1) (some ⟨index, 1, left, low, high, value⟩) rest
    | some p =>
      if p.low ≤ b && b ≤ p.high then
        let value := p.value * 64 + (b - 0x80)
        if p.left == 1 then (decodeFrom (index + 1) none rest).map (Char.ofNat value :: ·)
        else decodeFrom (index + 1) (some ⟨p.start, p.seen + 1, p.left - 1, 0x80, 0xBF, value⟩) rest
      else .error (.invalid p.start p.seen)

/-- The text that a sequence of bytes spells. -/
def decode (bytes : List UInt8) : Except Fault String :=
  (decodeFrom 0 none bytes).map String.ofList

/-- The bytes that spell a text. -/
def encode (s : String) : List UInt8 := s.toUTF8.toList

end PageEdit.Text.Utf8
