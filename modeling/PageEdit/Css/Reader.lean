import PageEdit.Css.Fault
import PageEdit.Css.Selector
import PageEdit.Css.Tree

/-!
# Reading selectors

A list of selectors is cut at its commas, and each part is read as tests with combinators between them.
The members of `:is` and `:where` that cannot be read are passed over, unless a token stands in them that
can stand nowhere.

* `Selector.parse`: the selectors of a text, or the first cause to refuse it.
-/

namespace PageEdit.Css

namespace Reader

/-- The outcome of reading the beginning of some trees: what has been read and what is left, or the cause
and what is left after it. -/
abbrev Result (α : Type) := Except (Fault × List Tree) (α × List Tree)

def isBlank : Tree → Bool
  | .leaf (.blank _) => true
  | _ => false

def skipBlanks (trees : List Tree) : List Tree := trees.dropWhile isBlank

/-- Text ends here. -/
def ended {α : Type} : Result α := .error (.ended, [])

/-- The cause if something is left. -/
def exhausted (trees : List Tree) : Except Fault Unit :=
  match skipBlanks trees with
  | [] => .ok ()
  | t :: _ => .error (.unexpected t.token)

mutual

/-- The first token in a tree that can stand nowhere. -/
def firstBad : Tree → Option Token
  | .leaf t => if t.isBad then some t else none
  | .block _ content => firstBadIn content

def firstBadIn : List Tree → Option Token
  | [] => none
  | t :: rest => (firstBad t).or (firstBadIn rest)

end

/-! ## Names -/

/-- The vocabulary that a name asks for. -/
inductive NameSpace where
  | unsaid
  | any
  | none

/-- A name with its vocabulary, or the token that begins no name. -/
inductive QName where
  | missing (t : Option Token)
  /-- A name; no label for a star. -/
  | named (space : NameSpace) (label : Option String)

/-- The name after a vocabulary and its bar. -/
def afterBar (inAttr : Bool) (space : NameSpace) : List Tree → Result QName
  | [] => ended
  | .leaf (.ident s) :: rest => .ok (.named space (some s), rest)
  | t :: rest =>
    match inAttr, t with
    | false, .leaf (.delim '*') => .ok (.named space Option.none, rest)
    | true, _ => .error (.noQualifiedAttr t.token, rest)
    | false, _ => .error (.noQualifiedName t.token, rest)

/-- A name with its vocabulary. -/
def qualifiedName (inAttr : Bool) (trees : List Tree) : Result QName :=
  match trees with
  | .leaf (.ident s) :: .leaf (.delim '|') :: rest => .error (.unknownSpace s, rest)
  | .leaf (.ident s) :: rest => .ok (.named .unsaid (some s), rest)
  | .leaf (.delim '*') :: .leaf (.delim '|') :: rest => afterBar inAttr .any rest
  | .leaf (.delim '*') :: rest =>
    if !inAttr then .ok (.named .unsaid Option.none, rest)
    else match rest with
      | [] => ended
      | t :: more => .error (.noBar t.token, more)
  | .leaf (.delim '|') :: rest => afterBar inAttr .none rest
  | [] => .ok (.missing Option.none, [])
  | t :: _ => .ok (.missing (some t.token), trees)

/-- The tests for the name of an element; none if no name is given. -/
def nameTests (trees : List Tree) : Result (List Test) :=
  match qualifiedName false trees with
  | .error (.ended, rest) => .ok ([], rest)
  | .error e => .error e
  | .ok (.missing _, rest) => .ok ([], rest)
  | .ok (.named space label, rest) =>
    let test := match label with
      | some s => Test.label s
      | Option.none => Test.any
    match space with
    | .none => .ok ([.noSpace, test], rest)
    | _ => .ok ([test], rest)

/-! ## Attributes -/

/-- Attributes of HTML elements whose values are compared without case. -/
def caselessAttrs : List String :=
  ["accept", "accept-charset", "align", "alink", "axis", "bgcolor", "charset", "checked", "clear",
   "codetype", "color", "compact", "declare", "defer", "dir", "direction", "disabled", "enctype",
   "face", "frame", "hreflang", "http-equiv", "lang", "language", "link", "media", "method",
   "multiple", "nohref", "noresize", "noshade", "nowrap", "readonly", "rel", "rev", "rules",
   "scope", "scrolling", "selected", "shape", "target", "text", "type", "valign", "valuetype",
   "vlink"]

/-- The comparison that an operator asks for. -/
def comparison? : Token → Option Comparison
  | .delim '=' => some .equal
  | .includes => some .word
  | .dashed => some .dashed
  | .starts => some .starts
  | .ends => some .ends
  | .substring => some .substring
  | _ => none

/-- The rule for letter case at the end of a test, `standard` if none is given. -/
def caseRule (standard : CaseRule) (trees : List Tree) : Except Fault (CaseRule × List Tree) :=
  match skipBlanks trees with
  | [] => .ok (standard, [])
  | .leaf (.ident s) :: rest =>
    match s.map Char.toLower with
    | "i" => .ok (.ignored, rest)
    | "s" => .ok (.exact, rest)
    | _ => .error (.unexpected (.ident s))
  | t :: _ => .error (.unexpected t.token)

/-- The value that an attribute is compared with. -/
def attrValue (trees : List Tree) : Except Fault (String × List Tree) :=
  match skipBlanks trees with
  | [] => .error .ended
  | .leaf (.ident s) :: rest | .leaf (.quoted s) :: rest => .ok (s, rest)
  | t :: _ => .error (.badValue t.token)

/-- What stands in the brackets of an attribute. -/
def attrTest (trees : List Tree) : Except Fault AttrTest :=
  match qualifiedName true (skipBlanks trees) with
  | .error (f, _) => .error f
  | .ok (.missing Option.none, _) => .error .ended
  | .ok (.missing (some t), _) => .error (.noAttrName t)
  | .ok (.named space label, rest) => do
    let label := label.getD ""
    let anySpace := match space with
      | .any => true
      | _ => false
    match skipBlanks rest with
    | [] => return ⟨label, anySpace, none⟩
    | t :: rest =>
      match comparison? t.token with
      | none => .error (.noOperator t.token)
      | some c =>
        let (value, rest) ← attrValue rest
        let caseless := !anySpace && caselessAttrs.contains (label.map Char.toLower)
        let (rule, rest) ← caseRule (if caseless then .ignoredInHtml else .exact) rest
        exhausted rest
        return ⟨label, anySpace, some (c, value, rule)⟩

/-! ## Positions -/

/-- The number of `n-` with digits after it. -/
def dashDigits? (s : String) : Option Int :=
  match s.toList with
  | c :: '-' :: d :: ds =>
    if (c == 'n' || c == 'N') && (d :: ds).all Char.isDigit then
      some (Lexer.saturate true ((d :: ds).foldl (fun n d => 10 * n + (d.toNat - 0x30)) 0))
    else none
  | _ => none

/-- The offset after a sign that stands alone. -/
def unsignedOffset (step : Int) (negative : Bool) (trees : List Tree) :
    Except Fault ((Int × Int) × List Tree) :=
  match skipBlanks trees with
  | [] => .error .ended
  | t :: rest =>
    match t.token with
    | .number ⟨false, _, some b⟩ => .ok ((step, if negative then -b else b), rest)
    | other => .error (.unexpected other)

/-- The offset after `n`, if there is one. -/
def offset (step : Int) (trees : List Tree) : Except Fault ((Int × Int) × List Tree) :=
  match skipBlanks trees with
  | .leaf (.delim '+') :: rest => unsignedOffset step false rest
  | .leaf (.delim '-') :: rest => unsignedOffset step true rest
  | .leaf (.number ⟨true, _, some b⟩) :: rest => .ok ((step, b), rest)
  | _ => .ok ((step, 0), trees)

/-- What `n` with something attached to it comes to; `whole` is the name that it ends. -/
def afterStep (step : Int) (unit whole : String) (trees : List Tree) :
    Except Fault ((Int × Int) × List Tree) :=
  match unit.map Char.toLower with
  | "n" => offset step trees
  | "n-" => unsignedOffset step true trees
  | _ =>
    match dashDigits? unit with
    | some b => .ok ((step, b), trees)
    | none => .error (.unexpected (.ident whole))

/-- The step and offset of a position. -/
def position (trees : List Tree) : Except Fault ((Int × Int) × List Tree) :=
  match skipBlanks trees with
  | [] => .error .ended
  | .leaf (.number ⟨_, _, some b⟩) :: rest => .ok ((0, b), rest)
  | .leaf (.dimension ⟨_, _, some a⟩ unit) :: rest => afterStep a unit unit rest
  | .leaf (.ident s) :: rest =>
    match s.map Char.toLower with
    | "even" => .ok ((2, 0), rest)
    | "odd" => .ok ((2, 1), rest)
    | _ =>
      match s.toList with
      | '-' :: cs => afterStep (-1) (String.ofList cs) s rest
      | _ => afterStep 1 s s rest
  | .leaf (.delim '+') :: rest =>
    match rest with
    | [] => .error .ended
    | .leaf (.ident s) :: rest => afterStep 1 s s rest
    | t :: _ => .error (.unexpected t.token)
  | t :: _ => .error (.unexpected t.token)

/-! ## Pseudo-classes -/

/-- Pseudo-elements that may be written with one colon. -/
def isOldPseudoElement (name : String) : Bool :=
  ["before", "after", "first-line", "first-letter"].contains name

/-- The first child, counted from either end. -/
def firstChild (ofType fromEnd : Bool) : Test := .nth ⟨0, 1, ofType, fromEnd⟩

/-- The tests that a pseudo-class without arguments stands for. -/
def plainPseudo? (name : String) : Option (List Test) :=
  match name.map Char.toLower with
  | "first-child" => some [firstChild false false]
  | "last-child" => some [firstChild false true]
  | "only-child" => some [firstChild false false, firstChild false true]
  | "first-of-type" => some [firstChild true false]
  | "last-of-type" => some [firstChild true true]
  | "only-of-type" => some [firstChild true false, firstChild true true]
  | "root" | "scope" => some [.root]
  | "empty" => some [.empty]
  | _ => none

/-- The kind of position that a pseudo-class asks for. -/
def positionKind? : String → Option (Bool × Bool)
  | "nth-child" => some (false, false)
  | "nth-last-child" => some (false, true)
  | "nth-of-type" => some (true, false)
  | "nth-last-of-type" => some (true, true)
  | _ => none

/-- What may not stand where a selector is read. -/
structure Limits where
  /-- Pseudo-elements may not. -/
  noPseudoElement : Bool
  /-- Relations may not. -/
  noRelation : Bool
  /-- Combinators may not. -/
  noCombinator : Bool

/-! ## Chains -/

/-- A combinator. Blanks are one unless another follows them. -/
def combinator? (trees : List Tree) : Option (Combinator × List Tree) :=
  let rest := skipBlanks trees
  match rest with
  | [] => none
  | .leaf (.delim '>') :: rest => some (.child, rest)
  | .leaf (.delim '+') :: rest => some (.next, rest)
  | .leaf (.delim '~') :: rest => some (.later, rest)
  | _ => if trees.head?.any isBlank then some (.descendant, rest) else none

/-- The parts between commas. -/
def splitCommas : List Tree → List (List Tree)
  | [] => [[]]
  | t :: rest =>
    match t, splitCommas rest with
    | .leaf .comma, parts => [] :: parts
    | _, part :: parts => (t :: part) :: parts
    | _, [] => [[t]]

mutual

/-- The selectors in some trees. -/
def readAll (fuel : Nat) (limits : Limits) (forgiving relative : Bool) :
    List (List Tree) → Except Fault (List Selector)
  | [] => .ok []
  | part :: parts =>
    match fuel with
    | 0 => .error .ended
    | fuel + 1 => do
      let selector ← match readSelector fuel limits relative part with
        | .ok (s, rest) =>
          match exhausted rest with
          | .ok () => .ok s
          | .error f => forgive forgiving f rest
        | .error (f, rest) => forgive forgiving f rest
      return selector :: (← readAll fuel limits forgiving relative parts)

/-- A selector that nothing matches in place of one that cannot be read, if that is allowed. -/
def forgive (forgiving : Bool) (f : Fault) (rest : List Tree) : Except Fault Selector :=
  if forgiving then
    match firstBadIn rest with
    | some t => .error (.unexpected t)
    | none => .ok (.tests [.never])
  else .error f

/-- The selector at the beginning of some trees. -/
def readSelector (fuel : Nat) (limits : Limits) (relative : Bool) (trees : List Tree) :
    Result Selector :=
  match fuel with
  | 0 => ended
  | fuel + 1 =>
    let trees := skipBlanks trees
    if relative then
      let (c, rest) := (combinator? trees).getD (.descendant, trees)
      readChain fuel limits (some (.anchor, c)) rest
    else readChain fuel limits none trees

/-- The rest of a chain after what has been read of it. -/
def readChain (fuel : Nat) (limits : Limits) (outer : Option (Selector × Combinator))
    (trees : List Tree) : Result Selector :=
  match fuel with
  | 0 => ended
  | fuel + 1 =>
    match readTests fuel limits (skipBlanks trees) with
    | .error e => .error e
    | .ok ([], rest) =>
      .error (if outer.isSome then .danglingCombinator else .emptySelector, rest)
    | .ok (tests, rest) =>
      let selector := match outer with
        | some (o, c) => Selector.chain o c tests
        | none => Selector.tests tests
      match combinator? rest with
      | some (c, rest) =>
        if limits.noCombinator then .error (.invalidState, rest)
        else readChain fuel limits (some (selector, c)) rest
      | none => .ok (selector, rest)

/-- The tests for one element. -/
def readTests (fuel : Nat) (limits : Limits) (trees : List Tree) : Result (List Test) :=
  match fuel with
  | 0 => ended
  | fuel + 1 =>
    match nameTests trees with
    | .error e => .error e
    | .ok (tests, rest) => readMore fuel limits tests rest

/-- The tests after those for the name. -/
def readMore (fuel : Nat) (limits : Limits) (done : List Test) (trees : List Tree) :
    Result (List Test) :=
  match fuel with
  | 0 => ended
  | fuel + 1 =>
    match trees with
    | [] => .ok (done, [])
    | .leaf (.idHash s) :: rest => readMore fuel limits (done ++ [.id s]) rest
    | .leaf (.delim '.') :: rest =>
      match rest with
      | [] => ended
      | .leaf (.ident s) :: rest => readMore fuel limits (done ++ [.cls s]) rest
      | t :: rest => .error (.noClassName t.token, rest)
    | .block .openSquare content :: rest =>
      match attrTest content with
      | .ok t => readMore fuel limits (done ++ [.attr t]) rest
      | .error f => .error (f, rest)
    | .leaf .colon :: rest =>
      match readPseudo fuel limits rest with
      | .ok (tests, rest) => readMore fuel limits (done ++ tests) rest
      | .error e => .error e
    | _ => .ok (done, trees)

/-- What follows a colon. -/
def readPseudo (fuel : Nat) (limits : Limits) (trees : List Tree) : Result (List Test) :=
  match fuel with
  | 0 => ended
  | fuel + 1 =>
    let (double, trees) := match trees with
      | .leaf .colon :: rest => (true, rest)
      | _ => (false, trees)
    match trees with
    | [] => ended
    | .leaf (.ident name) :: rest =>
      if double || isOldPseudoElement (name.map Char.toLower) then
        .error (if limits.noPseudoElement then .invalidState else .unknownPseudo name, rest)
      else match plainPseudo? name with
        | some tests => .ok (tests, rest)
        | none => .error (.unknownPseudo name, rest)
    | .block (.function name) content :: rest =>
      if double || isOldPseudoElement (name.map Char.toLower) then
        .error (if limits.noPseudoElement then .invalidState else .unknownPseudo name, rest)
      else match readFunction fuel limits name content with
        | .ok t => .ok ([t], rest)
        | .error f => .error (f, rest)
    | t :: rest => .error (.noPseudoName t.token, rest)

/-- A pseudo-class with arguments. -/
def readFunction (fuel : Nat) (limits : Limits) (name : String) (content : List Tree) :
    Except Fault Test :=
  match fuel with
  | 0 => .error .ended
  | fuel + 1 =>
    let lower := name.map Char.toLower
    match positionKind? lower with
    | some (ofType, fromEnd) => do
      let ((step, offset), rest) ← position content
      exhausted rest
      return .nth ⟨step, offset, ofType, fromEnd⟩
    | none =>
      let inner := { limits with noPseudoElement := true }
      let parts := splitCommas content
      match lower with
      | "is" | "where" => (readAll fuel inner true false parts).map .oneOf
      | "not" => (readAll fuel inner false false parts).map .noneOf
      | "has" =>
        if limits.noRelation then .error .invalidState
        else (readAll fuel { inner with noRelation := true } false true parts).map .has
      | "host" =>
        match readSelector fuel ⟨true, false, true⟩ false content with
        | .ok (_, rest) => do
          exhausted rest
          return .never
        | .error (f, _) => .error f
      | _ => .error (.unknownPseudo name)

end

/-- Enough fuel for some tokens: no step is taken more than a few times for a token. -/
def enough (tokens : List Token) : Nat := 8 * (tokens.length + 4)

end Reader

/-- The selectors of a text. -/
def Selector.parse (text : String) : Except Fault (List Selector) :=
  let tokens := Lexer.tokens text.toList
  Reader.readAll (Reader.enough tokens) ⟨false, false, false⟩ false false
    (Reader.splitCommas (Tree.ofTokens tokens))

end PageEdit.Css
