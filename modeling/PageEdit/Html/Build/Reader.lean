import PageEdit.Html.Build.Table

/-!
# Reading a document

Each token goes to the rules of the mode, or to those of foreign elements if it stands in one. A rule
may ask for the token to be read again; it has then closed an element or gone one step further towards
the body, so a bound by the number of open elements never cuts the reading short.

* `Document.ofHtml`: the document of a text. Every text has one.
-/

namespace PageEdit.Html.Build

namespace Builder

open Text (isAsciiBlank)

/-! ## After the body, and framesets -/

def inText (b : Builder) (token : Token) : Outcome :=
  match token with
  | .char c => (b.insertChar c).done
  | .endTag label => { b.pop with mode := b.home, skipMark := label == "script" }.done
  | _ => b.done

def inAfterBody (b : Builder) (token : Token) : Outcome :=
  match token with
  | .char c => if isAsciiBlank c then b.inBody token else b.again .inBody
  | .comment text => (b.appendComment b.outermost text).done
  | .startTag tag => if tag.name == "html" then b.mergeRoot tag else b.again .inBody
  | .endTag label => if label == "html" then { b with mode := .afterAfterBody }.done else b.again .inBody
  | _ => b.again .inBody

def inFrameset (b : Builder) (token : Token) : Outcome :=
  match token with
  | .char c => (if isAsciiBlank c then b.insertChar c else b).done
  | .comment text => (b.insertComment text).done
  | .startTag tag =>
    match tag.name with
    | "html" => b.mergeRoot tag
    | "frameset" => (b.openTag tag).done
    | "frame" => (b.addTag tag).done
    | "noframes" => b.onHeadTag tag
    | _ => b.done
  | .endTag label =>
    if label != "frameset" || b.stack.length == 1 then b.done
    else
      let b := b.pop
      (if b.currentIs "frameset" then b else { b with mode := .afterFrameset }).done
  | _ => b.done

def inAfterFrameset (b : Builder) (token : Token) : Outcome :=
  match token with
  | .char c => (if isAsciiBlank c then b.insertChar c else b).done
  | .comment text => (b.insertComment text).done
  | .startTag tag =>
    match tag.name with
    | "html" => b.mergeRoot tag
    | "noframes" => b.onHeadTag tag
    | _ => b.done
  | .endTag label => if label == "html" then { b with mode := .afterAfterFrameset }.done else b.done
  | _ => b.done

def inAfterAfterBody (b : Builder) (token : Token) : Outcome :=
  match token with
  | .char c => if isAsciiBlank c then b.inBody token else b.again .inBody
  | .comment text => (b.appendComment Arena.documentId text).done
  | .startTag tag => if tag.name == "html" then b.mergeRoot tag else b.again .inBody
  | _ => b.again .inBody

def inAfterAfterFrameset (b : Builder) (token : Token) : Outcome :=
  match token with
  | .char c => if isAsciiBlank c then b.inBody token else b.done
  | .comment text => (b.appendComment Arena.documentId text).done
  | .startTag tag =>
    match tag.name with
    | "html" => b.mergeRoot tag
    | "noframes" => b.onHeadTag tag
    | _ => b.done
  | _ => b.done

/-! ## All modes -/

/-- The rules of a mode. -/
def inMode (b : Builder) (mode : Mode) (token : Token) : Outcome :=
  match mode with
  | .initial => b.inInitial token
  | .beforeHtml => b.inBeforeHtml token
  | .beforeHead => b.inBeforeHead token
  | .inHead => b.inHead token
  | .afterHead => b.inAfterHead token
  | .inBody => b.inBody token
  | .text => b.inText token
  | .inTable => b.inTable token
  | .inTableText => b.inTableText token
  | .inCaption => b.inCaption token
  | .inColumnGroup => b.inColumnGroup token
  | .inTableBody => b.inTableBody token
  | .inRow => b.inRow token
  | .inCell => b.inCell token
  | .inSelect => b.inSelect token
  | .inSelectInTable => b.inSelectInTable token
  | .inTemplate => b.inTemplate token
  | .afterBody => b.inAfterBody token
  | .inFrameset => b.inFrameset token
  | .afterFrameset => b.inAfterFrameset token
  | .afterAfterBody => b.inAfterAfterBody token
  | .afterAfterFrameset => b.inAfterAfterFrameset token

/-! ## Foreign elements -/

/-- Whether text goes to a foreign element. -/
def currentIsForeign (b : Builder) : Bool := !b.stack.isEmpty && b.current.name.space != .html

/-- Whether a token is read by the rules of foreign elements. -/
def isForeign (b : Builder) (token : Token) : Bool :=
  let name := b.current.name
  if !b.currentIsForeign then false
  else match token with
    | .char _ | .null => !(ElementSet.mathText name || ElementSet.svgHtml name)
    | .startTag tag =>
      let asHtml :=
        ElementSet.mathText name && tag.name != "mglyph" && tag.name != "malignmark" ||
          ElementSet.svgHtml name ||
          name == ⟨.math, "annotation-xml"⟩ && tag.name == "svg"
      !asHtml
    | _ => true

/-- Closes foreign elements until HTML may go on. -/
def leaveForeign (b : Builder) : Builder :=
  b.popUntilCurrent fun name =>
    name.space == .html || ElementSet.mathText name || ElementSet.svgHtml name

/-- What an end tag in foreign elements comes to. -/
inductive ForeignEnd where
  | nothing
  /-- The open elements that are left. -/
  | close (stack : List Opened)
  /-- It is read as an end tag of HTML. -/
  | html

/-- Looks for the foreign element that an end tag closes; labels are compared in lower case. -/
def foreignEnd (label : String) (first : Bool) : List Opened → ForeignEnd
  | [] => .nothing
  | [_] => .nothing
  | o :: rest =>
    if !first && o.name.space == .html then .html
    else if Text.lowerAscii o.name.label == label then .close rest
    else foreignEnd label false rest

def inForeign (b : Builder) (token : Token) : Outcome :=
  match token with
  | .null => (b.insertChar '\uFFFD').done
  | .char c => ((if isAsciiBlank c then b else b.noFrameset).insertChar c).done
  | .comment text => (b.insertComment text).done
  | .startTag tag =>
    if Foreign.breaksOut tag then
      let b := b.leaveForeign
      b.inMode b.mode token
    else (b.addForeign b.current.name.space tag).done
  | .endTag label =>
    if label == "br" || label == "p" then
      let b := b.leaveForeign
      b.inMode b.mode token
    else match foreignEnd label true b.stack with
      | .nothing => b.done
      | .close stack => { b with stack }.done
      | .html => b.inMode b.mode token
  | _ => b.done

/-! ## Tokens -/

/-- Reads a token, at most `bound` times over. -/
def readWithin : Nat → Builder → Token → Builder × Option State
  | 0, b, _ => (b, none)
  | bound + 1, b, token =>
    let outcome := if b.isForeign token then b.inForeign token else b.inMode b.mode token
    match outcome with
    | (b, .done) => (b, none)
    | (b, .again) => readWithin bound b token
    | (b, .scan state) => (b, some state)

/-- How often a token may be read again. -/
def bound (b : Builder) : Nat := 4 * (b.stack.length + 8)

/-- Reads a token; gives a new state of the scanner if there is one. -/
def read (b : Builder) (token : Token) : Builder × Option State :=
  let skip := b.skipLine
  let b := { b with skipLine := false }
  match token with
  | .fault => (b, none)
  | .doctype doctype => (b.onDoctype doctype, none)
  | .char c => if skip && c == '\n' then (b, none) else readWithin b.bound b token
  | _ => readWithin b.bound b token

/-- One step at the end of the text: the rules of the mode have nothing more to read. -/
def stopOnce (b : Builder) : Outcome :=
  match b.mode with
  | .initial => { b with keepsTables := true }.again .beforeHtml
  | .beforeHtml => (b.openRoot []).again .beforeHead
  | .beforeHead => (b.openHead []).again .inHead
  | .inHead => b.pop.again .afterHead
  | .afterHead => (b.openBody []).again .inBody
  | .text => b.pop.again b.home
  | .inTableText => b.flushTableText.again b.home
  | .inTemplate => b.endTemplates
  | .inBody | .inTable | .inCaption | .inColumnGroup | .inTableBody | .inRow | .inCell | .inSelect
  | .inSelectInTable => b.atBodyStop
  | _ => b.done

/-- Steps at the end of the text, at most `bound`. -/
def stopWithin : Nat → Builder → Builder
  | 0, b => b
  | bound + 1, b =>
    match b.stopOnce with
    | (b, .again) => stopWithin bound b
    | (b, _) => b

end Builder

/-- A reader: the scanner and what has been built. -/
structure Reader where
  scanner : Scanner
  builder : Builder

namespace Reader

/-- A reader before the text. -/
def start : Reader := ⟨Scanner.start, Builder.start⟩

/-- Reads a token that the scanner has found. -/
def readToken (r : Reader) (token : Token) : Reader :=
  let (builder, state) := r.builder.read token
  ⟨{ r.scanner with state := state.getD r.scanner.state }, builder⟩

/-- Takes a character. A byte order mark is dropped at the beginning and just after a script. -/
def feed (r : Reader) (c : Char) : Reader :=
  let builder := { r.builder with skipMark := false }
  if r.builder.skipMark && c == '\uFEFF' then { r with builder }
  else
    let (scanner, tokens) := r.scanner.feed builder.currentIsForeign c
    tokens.foldl readToken ⟨scanner, builder⟩

/-- What has been built when the text ends. -/
def finish (r : Reader) : Builder :=
  let builder := (r.scanner.stop.foldl readToken r).builder
  builder.stopWithin builder.bound

end Reader

end PageEdit.Html.Build

namespace PageEdit.Html

/-- The document of a text. -/
def Document.ofHtml (html : String) : Document :=
  ((sourceChars html).foldl Build.Reader.feed Build.Reader.start).finish.arena.toDocument

end PageEdit.Html
