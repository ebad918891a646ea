import PageEdit.Json.Value
import PageEdit.Text.Quoted

/-!
# JSON text

Two forms: on one line without blanks, and with one item to a line, indented by two spaces. Strings
escape quotes, backslashes and control characters only.
-/

namespace PageEdit.Json

/-- Doubles are written by place from `1e-5` up to below `1e16`, always with a point or an exponent. -/
def floatLayout : Number.Layout := ⟨some (-5), some 15, true, true⟩

/-- A double as JSON shows it. -/
def floatText (x : Float) : String :=
  floatLayout.text PageEdit.Number.Binary.decimal64 (PageEdit.Number.Parts.ofFloat x)

/-- A number as JSON shows it. -/
def Number.render : Number → String
  | .natural n => toString n
  | .negative n => "-" ++ toString n
  | .float x => floatText x

/-- A character inside a JSON string. -/
def escapeChar (c : Char) : List Char :=
  if c == '"' then ['\\', '"']
  else if c == '\\' then ['\\', '\\']
  else if c == '\n' then ['\\', 'n']
  else if c == '\r' then ['\\', 'r']
  else if c == '\t' then ['\\', 't']
  else if c == '\x08' then ['\\', 'b']
  else if c == '\x0c' then ['\\', 'f']
  else if c.toNat < 0x20 then
    ['\\', 'u', '0', '0', Nat.digitChar (c.toNat / 16), Nat.digitChar (c.toNat % 16)]
  else [c]

/-- A JSON string. -/
def renderText (s : String) : String :=
  "\"" ++ String.ofList (s.toList.flatMap escapeChar) ++ "\""

/-- Texts with a separator between them. -/
def joinWith (sep : String) : List String → String
  | [] => ""
  | [s] => s
  | s :: rest => s ++ sep ++ joinWith sep rest

mutual

/-- A value on one line. -/
def Value.render : Value → String
  | .null => "null"
  | .bool true => "true"
  | .bool false => "false"
  | .number n => n.render
  | .text s => renderText s
  | .list items => "[" ++ joinWith "," (renderItems items) ++ "]"
  | .object members => "\x7b" ++ joinWith "," (renderMembers members) ++ "\x7d"

/-- The items of a list, each on one line. -/
def renderItems : List Value → List String
  | [] => []
  | v :: rest => v.render :: renderItems rest

/-- The members of an object, each on one line. -/
def renderMembers : List (String × Value) → List String
  | [] => []
  | (k, v) :: rest => (renderText k ++ ":" ++ v.render) :: renderMembers rest

end

/-- The blanks before a line at a depth. -/
def indent (depth : Nat) : String := String.ofList (List.replicate (2 * depth) ' ')

mutual

/-- A value over several lines, its first line being at `depth`. -/
def Value.renderLines (depth : Nat) : Value → String
  | .null => "null"
  | .bool true => "true"
  | .bool false => "false"
  | .number n => n.render
  | .text s => renderText s
  | .list [] => "[]"
  | .list items =>
    "[\n" ++ joinWith ",\n" (itemLines (depth + 1) items) ++ "\n" ++ indent depth ++ "]"
  | .object [] => "\x7b\x7d"
  | .object members =>
    "\x7b\n" ++ joinWith ",\n" (memberLines (depth + 1) members) ++ "\n" ++ indent depth ++ "\x7d"

/-- The items of a list, each beginning its own line. -/
def itemLines (depth : Nat) : List Value → List String
  | [] => []
  | v :: rest => (indent depth ++ v.renderLines depth) :: itemLines depth rest

/-- The members of an object, each beginning its own line. -/
def memberLines (depth : Nat) : List (String × Value) → List String
  | [] => []
  | (k, v) :: rest =>
    (indent depth ++ renderText k ++ ": " ++ v.renderLines depth) :: memberLines depth rest

end

/-- A value over several lines. -/
def Value.pretty (v : Value) : String := v.renderLines 0

end PageEdit.Json
