import PageEdit.Json.Reader
import PageEdit.Json.Printer
import PageEdit.Text.Blank

/-!
# Payloads

Attributes and style properties come as text in the form in which they are written in a page, or as an
object. Names are checked and put in lower case; of an object the names come in their order.

* `checkNames_ok`: names that pass are all well formed.
-/

namespace PageEdit

/-- What is wrong with a payload. -/
inductive PayloadFault where
  | badJson (fault : Json.Fault) (text : String)
  /-- A value of the object that is no text, number or truth value. -/
  | notText (key : String) (value : Json.Value)
  | noAttribute
  | badName (name : String)
  | noColon (declaration : String)
  | noDeclaration
  | badProperty (name : String)

/-- The wording of a fault. -/
def PayloadFault.message : PayloadFault → String
  | .badJson fault text => "invalid JSON object: " ++ fault.message text
  | .notText key value =>
    "value for '" ++ key ++ "' must be a string, got " ++ value.render
  | .noAttribute => "setAttribute payload names no attribute"
  | .badName name => "invalid attribute name '" ++ name ++ "'"
  | .noColon declaration => "style declaration '" ++ declaration ++ "' has no ':'"
  | .noDeclaration => "setStyle payload has no declarations"
  | .badProperty name => "invalid style property '" ++ name ++ "'"

namespace Payload

/-- Names with their values. -/
abbrev Pairs := List (String × String)

/-! ## Names -/

/-- Whether a character may stand in the name of an attribute. -/
def isNameChar (c : Char) : Bool :=
  !(Text.isBlank c || c == '"' || c == '\'' || c == '>' || c == '/' || c == '=' || c.toNat < 0x20)

/-- Whether a text is the name of an attribute. -/
def isAttrName (name : String) : Bool := !name.isEmpty && name.toList.all isNameChar

/-- Whether a letter is followed by nothing but letters, digits and dashes. -/
def isPropertyTail : List Char → Bool
  | c :: cs => c.isAlpha && cs.all fun d => d.isAlphanum || d == '-'
  | [] => false

/-- Whether a text is the name of a style property: one or two dashes may stand before it. -/
def isProperty (name : String) : Bool :=
  match name.toList with
  | '-' :: '-' :: cs => isPropertyTail cs
  | '-' :: cs => isPropertyTail cs
  | cs => isPropertyTail cs

/-- The pairs with their names in lower case, if all names are well formed. -/
def checkNames (good : String → Bool) (fault : String → PayloadFault) :
    Pairs → Except PayloadFault Pairs
  | [] => .ok []
  | (name, value) :: rest =>
    if good name then do return (Text.lowerAscii name, value) :: (← checkNames good fault rest)
    else .error (fault name)

theorem checkNames_ok {good : String → Bool} {fault : String → PayloadFault} {pairs out : Pairs}
    (h : checkNames good fault pairs = .ok out) :
    (∀ p ∈ pairs, good p.1 = true) ∧ out = pairs.map fun p => (Text.lowerAscii p.1, p.2) := by
  induction pairs generalizing out with
  | nil => simp only [checkNames, Except.ok.injEq] at h; simp [← h]
  | cons p rest ih =>
    obtain ⟨name, value⟩ := p
    simp only [checkNames] at h
    split at h
    · rename_i hg
      cases hr : checkNames good fault rest with
      | error e => rw [hr] at h; cases h
      | ok tail =>
        rw [hr] at h
        obtain ⟨hall, rfl⟩ := ih hr
        cases h
        exact ⟨by simpa [hg] using hall, rfl⟩
    · cases h

/-! ## Objects -/

/-- A member of the object as a pair. -/
def pairOf (key : String) (value : Json.Value) : Except PayloadFault (String × String) :=
  match value with
  | .text s => .ok (Text.trim key, s)
  | .number n => .ok (Text.trim key, n.render)
  | .bool b => .ok (Text.trim key, toString b)
  | other => .error (.notText key other)

/-- The pairs of an object. -/
def ofObject (text : String) : Except PayloadFault Pairs := do
  match Json.parseObject text with
  | .error fault => .error (.badJson fault text)
  | .ok members => members.mapM fun (k, v) => pairOf k v

/-! ## Written forms -/

/-- A text without the quotes around it. -/
def unquote (s : List Char) : List Char :=
  let inner := fun (quote : Char) =>
    match s with
    | q :: rest => if q == quote && rest.getLast? == some quote then some rest.dropLast else none
    | [] => none
  ((inner '"').or (inner '\'')).getD s

/-- A text without the blanks at its ends. -/
def trimmed (s : List Char) : String := String.ofList (Text.trimChars s)

/-- The attribute of a text `name=value` or `name`. -/
def ofAssignment (s : List Char) : String × String :=
  match Text.cutAt '=' s with
  | some (name, value) => (trimmed name, String.ofList (unquote (Text.trimChars value)))
  | none => (trimmed s, "")

/-- The attributes that a payload names. -/
def attributes (payload : String) : Except PayloadFault Pairs := do
  let s := Text.trimChars payload.toList
  let pairs ← if s.head? == some '\x7b' then ofObject (String.ofList s) else .ok [ofAssignment s]
  if pairs.isEmpty then .error .noAttribute
  else checkNames isAttrName .badName pairs

/-- One declaration of a style. -/
def ofDeclaration (s : List Char) : Except PayloadFault (String × String) :=
  match Text.cutAt ':' s with
  | some (name, value) => .ok (trimmed name, trimmed value)
  | none => .error (.noColon (String.ofList s))

/-- The declarations that a payload makes. -/
def styles (payload : String) : Except PayloadFault Pairs := do
  let s := Text.trimChars payload.toList
  let pairs ←
    if s.head? == some '\x7b' then ofObject (String.ofList s)
    else (((Text.pieces (· == ';') s).map Text.trimChars).filter (!·.isEmpty)).mapM ofDeclaration
  if pairs.isEmpty then .error .noDeclaration
  else checkNames isProperty .badProperty pairs

/-! ## Styles of an element -/

/-- The declaration of a part of a style attribute, if it is one. -/
def inlineDeclaration? (s : List Char) : Option (String × String) :=
  match Text.cutAt ':' s with
  | some (name, value) =>
    let name := Text.lowerAscii (trimmed name)
    if name.isEmpty then none else some (name, trimmed value)
  | none => none

/-- The declarations of a style attribute. Parts that are none are passed over. -/
def inlineStyle (style : String) : Pairs :=
  (Text.pieces (· == ';') style.toList).filterMap inlineDeclaration?

/-- Declarations as a style attribute. -/
def writeStyle (declarations : Pairs) : String :=
  String.intercalate " " (declarations.map fun (p, v) => p ++ ": " ++ v ++ ";")

end Payload

end PageEdit
