import PageEdit.Html.Build.Body

/-!
# Rules in tables and selections

A table keeps its parts in order: a tag that asks for a missing part opens it, one for an outer part
closes what is inside, and anything else goes before the table.
-/

namespace PageEdit.Html.Build

namespace Builder

open Text (isAsciiBlank)

/-- Reads a token by the rules of the body, putting its content before the table. -/
def fosterInBody (b : Builder) (token : Token) : Outcome :=
  let (b, next) := { b with fostering := true }.inBody token
  ({ b with fostering := false }, next)

/-- Whether the HTML element with this label is open in the table. -/
def hasInTable (b : Builder) (label : String) : Bool := b.hasIn ElementSet.tableScope label

/-! ## Between the parts of a table -/

/-- Text waits for what comes after it, as it goes before the table if any of it is not blank. -/
def onTableText (b : Builder) (token : Token) : Outcome :=
  if b.currentIn ElementSet.tableParts then { b with home := b.mode }.again .inTableText
  else b.fosterInBody token

def inTable (b : Builder) (token : Token) : Outcome :=
  match token with
  | .char _ | .null => b.onTableText token
  | .comment text => (b.insertComment text).done
  | .startTag tag =>
    let inside := b.popUntilCurrent ElementSet.tableScope
    match tag.name with
    | "caption" => { inside.pushMark.openTag tag with mode := .inCaption }.done
    | "colgroup" => { inside.openTag tag with mode := .inColumnGroup }.done
    | "col" => (inside.openPhantom "colgroup").again .inColumnGroup
    | "tbody" | "tfoot" | "thead" => { inside.openTag tag with mode := .inTableBody }.done
    | "td" | "th" | "tr" => (inside.openPhantom "tbody").again .inTableBody
    | "table" =>
      if b.hasInTable "table" then
        let b := b.popUntilNamed "table"
        b.again b.resetMode
      else b.done
    | "style" | "script" | "template" => b.onHeadTag tag
    | "input" => if isHiddenInput tag then (b.addTag tag).done else b.fosterInBody token
    | "form" =>
      if b.hasOpen "template" || b.form.isSome then b.done
      else
        let (b, id) := b.openNamed (.html "form") (Foreign.attrs .html tag)
        { b.pop with form := some id }.done
    | _ => b.fosterInBody token
  | .endTag label =>
    if label == "table" then
      if b.hasInTable "table" then
        let b := b.popUntilNamed "table"
        { b with mode := b.resetMode }.done
      else b.done
    else if label == "template" then b.onTemplateEnd
    else if ["body", "caption", "col", "colgroup", "html", "tbody", "td", "tfoot", "th", "thead",
        "tr"].contains label then b.done
    else b.fosterInBody token
  | _ => b.done

/-- Puts text that has waited in its place. -/
def flushTableText (b : Builder) : Builder :=
  let text := b.tableText
  let b := { b with tableText := [] }
  if text.all isAsciiBlank then text.foldl insertChar b
  else text.foldl (fun b c => (b.fosterInBody (.char c)).1) b

def inTableText (b : Builder) (token : Token) : Outcome :=
  match token with
  | .char c => { b with tableText := b.tableText ++ [c] }.done
  | .null => b.done
  | _ => b.flushTableText.again b.home

/-! ## Inside the parts -/

/-- Tags of the parts of a table. -/
def partLabels : List String :=
  ["caption", "col", "colgroup", "tbody", "td", "tfoot", "th", "thead", "tr"]

/-- Closes a caption. -/
def closeCaption (b : Builder) : Builder := (b.closeNamed "caption").clearToMark

def inCaption (b : Builder) (token : Token) : Outcome :=
  if isStart partLabels token || isEnd ["table", "caption"] token then
    if b.hasInTable "caption" then
      if isEnd ["caption"] token then { b.closeCaption with mode := .inTable }.done
      else b.closeCaption.again .inTable
    else b.done
  else if isEnd ["body", "col", "colgroup", "html", "tbody", "td", "tfoot", "th", "thead", "tr"] token
  then b.done
  else b.inBody token

def inColumnGroup (b : Builder) (token : Token) : Outcome :=
  let otherwise := if b.currentIs "colgroup" then b.pop.again .inTable else b.done
  match token with
  | .char c => if isAsciiBlank c then (b.insertChar c).done else otherwise
  | .comment text => (b.insertComment text).done
  | .startTag tag =>
    match tag.name with
    | "html" => b.mergeRoot tag
    | "col" => (b.addTag tag).done
    | "template" => b.onHeadTag tag
    | _ => otherwise
  | .endTag label =>
    match label with
    | "colgroup" =>
      if b.currentIs "colgroup" then { b.pop with mode := .inTable }.done else b.done
    | "col" => b.done
    | "template" => b.onTemplateEnd
    | _ => otherwise
  | _ => otherwise

/-- Closes the part of the table that rows stand in. -/
def closeRows (b : Builder) : Builder := (b.popUntilCurrent ElementSet.bodyContext).pop

def inTableBody (b : Builder) (token : Token) : Outcome :=
  if isStart ["tr"] token then
    match token with
    | .startTag tag =>
      { (b.popUntilCurrent ElementSet.bodyContext).openTag tag with mode := .inRow }.done
    | _ => b.done
  else if isStart ["th", "td"] token then
    ((b.popUntilCurrent ElementSet.bodyContext).openPhantom "tr").again .inRow
  else if isStart ["caption", "col", "colgroup", "tbody", "tfoot", "thead"] token ||
      isEnd ["table"] token then
    let parts := htmlSet ["table", "tbody", "tfoot"]
    if inScope ElementSet.tableScope (parts ·.name) b.stack then b.closeRows.again .inTable else b.done
  else match token with
    | .endTag label =>
      if ["tbody", "tfoot", "thead"].contains label then
        if b.hasInTable label then { b.closeRows with mode := .inTable }.done else b.done
      else if ["body", "caption", "col", "colgroup", "html", "td", "th", "tr"].contains label then
        b.done
      else b.inTable token
    | _ => b.inTable token

/-- Closes a row. -/
def closeRow (b : Builder) : Builder := (b.popUntilCurrent ElementSet.rowContext).pop

/-- Closes the row and reads the token again. -/
def leaveRow (b : Builder) : Outcome :=
  if b.hasInTable "tr" then b.closeRow.again .inTableBody else b.done

def inRow (b : Builder) (token : Token) : Outcome :=
  match token with
  | .startTag tag =>
    if tag.name == "th" || tag.name == "td" then
      { (b.popUntilCurrent ElementSet.rowContext).openTag tag with mode := .inCell }.pushMark.done
    else if ["caption", "col", "colgroup", "tbody", "tfoot", "thead", "tr"].contains tag.name then
      b.leaveRow
    else b.inTable token
  | .endTag label =>
    match label with
    | "tr" => if b.hasInTable "tr" then { b.closeRow with mode := .inTableBody }.done else b.done
    | "table" => b.leaveRow
    | "tbody" | "tfoot" | "thead" => if b.hasInTable label then b.leaveRow else b.done
    | "body" | "caption" | "col" | "colgroup" | "html" | "td" | "th" => b.done
    | _ => b.inTable token
  | _ => b.inTable token

/-- Closes a cell and reads the token again. -/
def leaveCell (b : Builder) : Outcome :=
  (((b.closeImplied ElementSet.impliedEnd).popUntil ElementSet.cells).clearToMark).again .inRow

def inCell (b : Builder) (token : Token) : Outcome :=
  match token with
  | .startTag tag =>
    if partLabels.contains tag.name then
      if inScope ElementSet.tableScope (ElementSet.cells ·.name) b.stack then b.leaveCell else b.done
    else b.inBody token
  | .endTag label =>
    match label with
    | "td" | "th" =>
      if b.hasInTable label then { (b.closeNamed label).clearToMark with mode := .inRow }.done
      else b.done
    | "body" | "caption" | "col" | "colgroup" | "html" => b.done
    | "table" | "tbody" | "tfoot" | "thead" | "tr" =>
      if b.hasInTable label then b.leaveCell else b.done
    | _ => b.inBody token
  | _ => b.inBody token

/-! ## Selections -/

/-- Closes the selection. -/
def closeSelect (b : Builder) : Builder :=
  let b := b.popUntilNamed "select"
  { b with mode := b.resetMode }

/-- Closes an option, and a group of options if it was the option's parent. -/
def closeOptions (b : Builder) : Builder :=
  let b := if b.currentIs "option" then b.pop else b
  if b.currentIs "optgroup" then b.pop else b

/-- Whether the innermost open elements are an option and its group. -/
def inGroupedOption (b : Builder) : Bool :=
  match b.stack with
  | o :: p :: _ => o.name.isHtml "option" && p.name.isHtml "optgroup"
  | _ => false

def inSelect (b : Builder) (token : Token) : Outcome :=
  let inSelection := b.hasIn ElementSet.selectScope "select"
  match token with
  | .char c => (b.insertChar c).done
  | .comment text => (b.insertComment text).done
  | .startTag tag =>
    match tag.name with
    | "html" => b.mergeRoot tag
    | "option" => ((if b.currentIs "option" then b.pop else b).openTag tag).done
    | "optgroup" => (b.closeOptions.openTag tag).done
    | "hr" => (b.closeOptions.addTag tag).done
    | "select" => (if inSelection then b.closeSelect else b).done
    | "input" | "keygen" | "textarea" =>
      if inSelection then
        let b := b.closeSelect
        b.again b.mode
      else b.done
    | "script" | "template" => b.onHeadTag tag
    | _ => b.done
  | .endTag label =>
    match label with
    | "optgroup" =>
      let b := if b.inGroupedOption then b.pop else b
      (if b.currentIs "optgroup" then b.pop else b).done
    | "option" => (if b.currentIs "option" then b.pop else b).done
    | "select" => (if inSelection then b.closeSelect else b).done
    | "template" => b.onTemplateEnd
    | _ => b.done
  | _ => b.done

def inSelectInTable (b : Builder) (token : Token) : Outcome :=
  let labels := ["caption", "table", "tbody", "tfoot", "thead", "tr", "td", "th"]
  match token with
  | .startTag tag =>
    if labels.contains tag.name then
      let b := b.closeSelect
      b.again b.mode
    else b.inSelect token
  | .endTag label =>
    if labels.contains label then
      if b.hasInTable label then
        let b := b.closeSelect
        b.again b.mode
      else b.done
    else b.inSelect token
  | _ => b.inSelect token

/-! ## Templates -/

/-- Reads the token again as in the content that it calls for. -/
def asTemplate (b : Builder) (mode : Mode) : Outcome :=
  { b with templates := mode :: b.templates.tail }.again mode

def inTemplate (b : Builder) (token : Token) : Outcome :=
  match token with
  | .char _ | .comment _ => b.inBody token
  | .startTag tag =>
    if headLabels.contains tag.name then b.onHeadTag tag
    else match tag.name with
      | "caption" | "colgroup" | "tbody" | "tfoot" | "thead" => b.asTemplate .inTable
      | "col" => b.asTemplate .inColumnGroup
      | "tr" => b.asTemplate .inTableBody
      | "td" | "th" => b.asTemplate .inRow
      | _ => b.asTemplate .inBody
  | .endTag label => if label == "template" then b.onTemplateEnd else b.done
  | _ => b.done

end Builder

end PageEdit.Html.Build
