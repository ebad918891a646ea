import PageEdit.Html.Build.Formatting

/-!
# Rules before the body

Up to the body each rule that a token does not fit opens what is missing and reads the token again.
-/

namespace PageEdit.Html.Build

namespace Builder

open Text (isAsciiBlank)

/-- Whether a token is one of these start tags. -/
def isStart (labels : List String) : Token → Bool
  | .startTag tag => labels.contains tag.name
  | _ => false

/-- Whether a token is one of these end tags. -/
def isEnd (labels : List String) : Token → Bool
  | .endTag name => labels.contains name
  | _ => false

/-- Another `html` tag: its attributes are added to the root element, except inside a template. -/
def mergeRoot (b : Builder) (tag : Tag) : Outcome :=
  if b.hasOpen "template" then b.done
  else { b with arena := b.arena.addAttrs b.outermost (Foreign.attrs .html tag) }.done

/-- Closes the innermost template. -/
def closeTemplate (b : Builder) : Builder :=
  let b := (b.popUntilNamed "template").clearToMark
  let b := { b with templates := b.templates.tail }
  { b with mode := b.resetMode }

/-- The end of the text inside a template: the template is closed and the end read again. -/
def endTemplates (b : Builder) : Outcome :=
  if b.hasOpen "template" then
    let b := b.closeTemplate
    b.again b.mode
  else b.done

/-! ## Before the head -/

def inInitial (b : Builder) (token : Token) : Outcome :=
  match token with
  | .comment text => (b.appendComment Arena.documentId text).done
  | .char c =>
    if isAsciiBlank c then b.done else { b with keepsTables := true }.again .beforeHtml
  | _ => { b with keepsTables := true }.again .beforeHtml

/-- A document type, which counts only at the beginning. -/
def onDoctype (b : Builder) (doctype : Doctype) : Builder :=
  if b.mode == .initial then
    let (arena, id) := b.arena.make (.doctype (doctype.name.getD ""))
    { b with
      arena := arena.append Arena.documentId id
      keepsTables := doctype.keepsTables
      mode := .beforeHtml }
  else b

def inBeforeHtml (b : Builder) (token : Token) : Outcome :=
  let otherwise := (b.openRoot []).again .beforeHead
  match token with
  | .comment text => (b.appendComment Arena.documentId text).done
  | .char c => if isAsciiBlank c then b.done else otherwise
  | .startTag tag =>
    if tag.name == "html" then
      { b.openRoot (Foreign.attrs .html tag) with mode := .beforeHead }.done
    else otherwise
  | .endTag name => if ["head", "body", "html", "br"].contains name then otherwise else b.done
  | _ => otherwise

/-- Opens the head. -/
def openHead (b : Builder) (attrs : List Attr) : Builder :=
  let (b, id) := b.openNamed (.html "head") attrs
  { b with head := some id, mode := .inHead }

def inBeforeHead (b : Builder) (token : Token) : Outcome :=
  let otherwise := (b.openHead []).again .inHead
  match token with
  | .comment text => (b.insertComment text).done
  | .char c => if isAsciiBlank c then b.done else otherwise
  | .startTag tag =>
    if tag.name == "html" then b.mergeRoot tag
    else if tag.name == "head" then (b.openHead (Foreign.attrs .html tag)).done
    else otherwise
  | .endTag name => if ["head", "body", "html", "br"].contains name then otherwise else b.done
  | _ => otherwise

/-! ## In the head -/

/-- Tags that belong to the head wherever they stand. -/
def headLabels : List String :=
  ["base", "basefont", "bgsound", "link", "meta", "noframes", "script", "style", "template", "title"]

/-- Whether a template is the shadow tree of the element that it stands in. The root element has none. -/
def isShadowTree (b : Builder) (tag : Tag) : Bool :=
  b.current.id != b.outermost &&
    tag.attrs.any fun (name, value) =>
      name == "shadowrootmode" && (value == "open" || value == "close")

/-- A start tag that belongs to the head. What is in a shadow tree goes to the element around it. -/
def onHeadTag (b : Builder) (tag : Tag) : Outcome :=
  match tag.name with
  | "title" => b.openRaw tag .escapable
  | "noframes" | "style" | "noscript" => b.openRaw tag .plain
  | "script" => b.openRaw tag .script
  | "template" =>
    let b := (if b.isShadowTree tag then b else b.openTag tag).pushMark
    { b with
      framesetOk := false
      mode := .inTemplate
      templates := .inTemplate :: b.templates }.done
  | _ => (b.addTag tag).done

/-- The end tag of a template. -/
def onTemplateEnd (b : Builder) : Outcome :=
  if b.hasOpen "template" then (b.closeImplied ElementSet.thoroughEnd).closeTemplate.done else b.done

def inHead (b : Builder) (token : Token) : Outcome :=
  let otherwise := b.pop.again .afterHead
  match token with
  | .comment text => (b.insertComment text).done
  | .char c => if isAsciiBlank c then (b.insertChar c).done else otherwise
  | .startTag tag =>
    if tag.name == "html" then b.mergeRoot tag
    else if headLabels.contains tag.name || tag.name == "noscript" then b.onHeadTag tag
    else if tag.name == "head" then b.done
    else otherwise
  | .endTag name =>
    match name with
    | "head" => { b.pop with mode := .afterHead }.done
    | "body" | "html" | "br" => otherwise
    | "template" => b.onTemplateEnd
    | _ => b.done
  | _ => otherwise

/-! ## After the head -/

/-- Opens the body. -/
def openBody (b : Builder) (attrs : List Attr) : Builder :=
  { (b.openNamed (.html "body") attrs).1 with mode := .inBody }

/-- A tag of the head after its end: the head is opened for it once more. -/
def onLateHeadTag (b : Builder) (tag : Tag) : Outcome :=
  match b.head with
  | none => b.onHeadTag tag
  | some head =>
    let (b, next) := { b with stack := ⟨head, .html "head"⟩ :: b.stack }.onHeadTag tag
    (b.removeOpen head, next)

def inAfterHead (b : Builder) (token : Token) : Outcome :=
  let otherwise := (b.openBody []).again .inBody
  match token with
  | .comment text => (b.insertComment text).done
  | .char c => if isAsciiBlank c then (b.insertChar c).done else otherwise
  | .startTag tag =>
    if tag.name == "html" then b.mergeRoot tag
    else if tag.name == "body" then
      { b.openBody (Foreign.attrs .html tag) with framesetOk := false }.done
    else if tag.name == "frameset" then { b.openTag tag with mode := .inFrameset }.done
    else if headLabels.contains tag.name then b.onLateHeadTag tag
    else if tag.name == "head" then b.done
    else otherwise
  | .endTag name =>
    match name with
    | "body" | "html" | "br" => otherwise
    | "template" => b.onTemplateEnd
    | _ => b.done
  | _ => otherwise

end Builder

end PageEdit.Html.Build
