import PageEdit.Html.Build.Head

/-!
# Rules in the body

Start tags fall into a few kinds, by what they close and whether formatting elements are opened again
before them; end tags close up to the innermost element of their label that is in scope.
-/

namespace PageEdit.Html.Build

namespace Builder

open Text (isAsciiBlank)

/-! ## Start tags -/

/-- Blocks, which end a paragraph. -/
def blockLabels : List String :=
  ["address", "article", "aside", "blockquote", "center", "details", "dialog", "dir", "div", "dl",
   "fieldset", "figcaption", "figure", "footer", "header", "hgroup", "main", "menu", "nav", "ol",
   "p", "search", "section", "summary", "ul"]

/-- Elements whose end tag closes up to them. -/
def closableLabels : List String :=
  ["address", "article", "aside", "blockquote", "button", "center", "details", "dialog", "dir",
   "div", "dl", "fieldset", "figcaption", "figure", "footer", "header", "hgroup", "listing", "main",
   "menu", "nav", "ol", "pre", "search", "section", "summary", "ul"]

/-- Formatting elements other than links and `nobr`. -/
def formatLabels : List String :=
  ["b", "big", "code", "em", "font", "i", "s", "small", "strike", "strong", "tt", "u"]

def headingLabels : List String := ["h1", "h2", "h3", "h4", "h5", "h6"]

/-- Tags that make sense only in tables, framesets and pages as a whole. -/
def strayLabels : List String :=
  ["caption", "col", "colgroup", "frame", "head", "tbody", "td", "tfoot", "th", "thead", "tr"]

/-- Keeps a frameset from taking the place of the body. -/
def noFrameset (b : Builder) : Builder := { b with framesetOk := false }

/-- The open body, if it is the child of the root. -/
def body? (b : Builder) : Option Nat :=
  match b.stack.reverse with
  | _ :: o :: _ => if o.name.isHtml "body" then some o.id else none
  | _ => none

/-- Whether an input is hidden. -/
def isHiddenInput (tag : Tag) : Bool :=
  tag.attrs.any fun (name, value) => name == "type" && Text.sameAscii value "hidden"

/-- The innermost open element with one of the labels, unless a list barrier is inside it. -/
def openItem? (labels : List String) : List Opened → Option String
  | [] => none
  | o :: rest =>
    if o.name.space == .html && labels.contains o.name.label then some o.name.label
    else if ElementSet.listBarrier o.name then none
    else openItem? labels rest

/-- Closes elements up to and with the innermost with this label. -/
def closeItem (b : Builder) (label : String) : Builder :=
  (b.closeImpliedExcept label).popUntilNamed label

/-- A list item: closes the one before it. -/
def onItem (b : Builder) (tag : Tag) : Outcome :=
  let b := b.noFrameset
  let labels := if tag.name == "li" then ["li"] else ["dd", "dt"]
  let b := match openItem? labels b.stack with
    | some label => b.closeItem label
    | none => b
  (b.endParagraph.openTag tag).done

/-- A `body` tag in the body adds its attributes. -/
def mergeBody (b : Builder) (tag : Tag) : Outcome :=
  match b.body? with
  | some id =>
    if b.hasOpen "template" then b.done
    else { b.noFrameset with arena := b.arena.addAttrs id (Foreign.attrs .html tag) }.done
  | none => b.done

/-- A frameset takes the place of a body without content. -/
def onFrameset (b : Builder) (tag : Tag) : Outcome :=
  if !b.framesetOk then b.done
  else match b.body? with
    | none => b.done
    | some id =>
      let b := { b with
        arena := b.arena.detach id
        stack := b.stack.drop (b.stack.length - 1) }
      { b.openTag tag with mode := .inFrameset }.done

/-- Opens a foreign element, or adds it if its tag closes itself. -/
def addForeign (b : Builder) (space : Space) (tag : Tag) : Builder :=
  let b := (b.openNamed ⟨space, Foreign.label space tag.name⟩ (Foreign.attrs space tag)).1
  if tag.selfClosing then b.pop else b

/-- Inserts an element without content after opening formatting elements again. -/
def addInline (b : Builder) (tag : Tag) : Builder := b.reopen.addTag tag

/-- A start tag in the body. -/
def onBodyStart (b : Builder) (tag : Tag) : Outcome :=
  let label := tag.name
  if label == "html" then b.mergeRoot tag
  else if headLabels.contains label then b.onHeadTag tag
  else if label == "body" then b.mergeBody tag
  else if label == "frameset" then b.onFrameset tag
  else if blockLabels.contains label then (b.endParagraph.openTag tag).done
  else if headingLabels.contains label then
    let b := b.endParagraph
    let b := if b.currentIn ElementSet.headings then b.pop else b
    (b.openTag tag).done
  else if label == "pre" || label == "listing" then
    { (b.endParagraph.openTag tag).noFrameset with skipLine := true }.done
  else if label == "form" then
    if b.form.isSome && !b.hasOpen "template" then b.done
    else
      let inTemplate := b.hasOpen "template"
      let (b, id) := b.endParagraph.openNamed (.html label) (Foreign.attrs .html tag)
      (if inTemplate then b else { b with form := some id }).done
  else if label == "li" || label == "dd" || label == "dt" then b.onItem tag
  else if label == "plaintext" then (b.endParagraph.openTag tag, .scan .plaintext)
  else if label == "button" then
    let b := if b.hasIn ElementSet.scope "button" then
        (b.closeImplied ElementSet.impliedEnd).popUntilNamed "button"
      else b
    ((b.reopen.openTag tag).noFrameset).done
  else if label == "a" then (b.endOpenLink.reopen.openFormatting tag).done
  else if formatLabels.contains label then (b.reopen.openFormatting tag).done
  else if label == "nobr" then
    let b := b.reopen
    let b := if b.hasIn ElementSet.scope "nobr" then (b.endFormatting "nobr").reopen else b
    (b.openFormatting tag).done
  else if label == "applet" || label == "marquee" || label == "object" then
    (b.reopen.openTag tag).pushMark.noFrameset.done
  else if label == "table" then
    let b := if b.keepsTables then b else b.endParagraph
    { (b.openTag tag).noFrameset with mode := .inTable }.done
  else if label == "input" then
    let b := b.addInline tag
    (if isHiddenInput tag then b else b.noFrameset).done
  else if ["area", "br", "embed", "img", "keygen", "wbr"].contains label then
    (b.addInline tag).noFrameset.done
  else if label == "param" || label == "source" || label == "track" then (b.addTag tag).done
  else if label == "hr" then (b.endParagraph.addTag tag).noFrameset.done
  else if label == "image" then (b.addInline { tag with name := "img" }).noFrameset.done
  else if label == "textarea" then
    { b with skipLine := true, framesetOk := false }.openRaw tag .escapable
  else if label == "xmp" then b.endParagraph.reopen.noFrameset.openRaw tag .plain
  else if label == "iframe" then b.noFrameset.openRaw tag .plain
  else if label == "noembed" || label == "noscript" then b.openRaw tag .plain
  else if label == "select" then
    let inTable := [Mode.inTable, .inCaption, .inTableBody, .inRow, .inCell].contains b.mode
    let mode := if inTable then Mode.inSelectInTable else .inSelect
    { (b.reopen.openTag tag).noFrameset with mode }.done
  else if label == "optgroup" || label == "option" then
    let b := if b.currentIs "option" then b.pop else b
    (b.reopen.openTag tag).done
  else if label == "rb" || label == "rtc" then
    let b := if b.hasIn ElementSet.scope "ruby" then b.closeImplied ElementSet.impliedEnd else b
    (b.openTag tag).done
  else if label == "rp" || label == "rt" then
    let b := if b.hasIn ElementSet.scope "ruby" then b.closeImpliedExcept "rtc" else b
    (b.openTag tag).done
  else if label == "math" then (b.reopen.addForeign .math tag).done
  else if label == "svg" then (b.reopen.addForeign .svg tag).done
  else if strayLabels.contains label then b.done
  else (b.reopen.openTag tag).done

/-! ## End tags -/

/-- Closes up to the element with this label if it is in scope. -/
def closeNamed (b : Builder) (label : String) : Builder :=
  (b.closeImplied ElementSet.impliedEnd).popUntilNamed label

/-- The end tag of a form. -/
def endForm (b : Builder) : Outcome :=
  if b.hasOpen "template" then
    if b.hasIn ElementSet.scope "form" then (b.closeNamed "form").done else b.done
  else match b.form with
    | none => b.done
    | some id =>
      let b := { b with form := none }
      if inScope ElementSet.scope (·.id == id) b.stack then
        ((b.closeImplied ElementSet.impliedEnd).removeOpen id).done
      else b.done

/-- An end tag in the body. -/
def onBodyEnd (b : Builder) (label : String) : Outcome :=
  if label == "template" then b.onTemplateEnd
  else if label == "body" then
    (if b.hasIn ElementSet.scope "body" then { b with mode := .afterBody } else b).done
  else if label == "html" then
    if b.hasIn ElementSet.scope "body" then b.again .afterBody else b.done
  else if closableLabels.contains label then
    (if b.hasIn ElementSet.scope label then b.closeNamed label else b).done
  else if label == "form" then b.endForm
  else if label == "p" then
    (if b.hasIn ElementSet.buttonScope "p" then b else b.openPhantom "p").closeParagraph.done
  else if label == "li" then
    (if b.hasIn ElementSet.listScope label then b.closeItem label else b).done
  else if label == "dd" || label == "dt" then
    (if b.hasIn ElementSet.scope label then b.closeItem label else b).done
  else if headingLabels.contains label then
    (if inScope ElementSet.scope (ElementSet.headings ·.name) b.stack then
      (b.closeImplied ElementSet.impliedEnd).popUntil ElementSet.headings
    else b).done
  else if label == "a" || label == "nobr" || formatLabels.contains label then
    (b.endFormatting label).done
  else if label == "applet" || label == "marquee" || label == "object" then
    (if b.hasIn ElementSet.scope label then (b.closeNamed label).clearToMark else b).done
  else if label == "br" then (b.addInline ⟨"br", [], false⟩).noFrameset.done
  else (b.endPlain label).done

def inBody (b : Builder) (token : Token) : Outcome :=
  match token with
  | .char c =>
    let b := b.reopen
    ((if isAsciiBlank c then b else b.noFrameset).insertChar c).done
  | .comment text => (b.insertComment text).done
  | .startTag tag => b.onBodyStart tag
  | .endTag label => b.onBodyEnd label
  | _ => b.done

/-- The end of the text in the body. -/
def atBodyStop (b : Builder) : Outcome := if b.templates.isEmpty then b.done else b.endTemplates

end Builder

end PageEdit.Html.Build
