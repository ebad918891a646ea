import PageEdit.Html.Document
import PageEdit.Html.Escape

/-!
# The markup of a node

The markup that describes a node as a browser without scripts would write it: text is escaped except
in elements whose text is raw, and elements without content have no end tag.
-/

namespace PageEdit.Html

/-- Labels of HTML elements whose text is written as it is. -/
def rawTextLabels : List String :=
  ["style", "script", "xmp", "iframe", "noembed", "noframes", "plaintext"]

/-- Labels of HTML elements that have no content in markup. -/
def markupVoidLabels : List String :=
  ["area", "base", "basefont", "bgsound", "br", "col", "embed", "frame", "hr", "img", "input",
   "keygen", "link", "meta", "param", "source", "track", "wbr"]

/-- An attribute in a start tag. -/
def Attr.markup (a : Attr) : String :=
  " " ++ a.name.markup ++ "=\"" ++ escape strictValueEscapes a.value ++ "\""

/-- The start tag of an element. -/
def Element.startMarkup (e : Element) : String :=
  "<" ++ e.label ++ String.join (e.attrs.map Attr.markup) ++ ">"

/-- The end tag of an element. -/
def Element.endMarkup (e : Element) : String := "</" ++ e.label ++ ">"

/-- Whether text of an element is written as it is. -/
def Element.hasRawText (e : Element) : Bool := htmlSet rawTextLabels e.name

/-- Whether an element has no content in markup. -/
def Element.isMarkupVoid (e : Element) : Bool := htmlSet markupVoidLabels e.name

namespace Node

mutual

/-- The markup of a node, given whether text is raw where it stands. -/
def markup (raw : Bool) : Node → String
  | .doctype name => "<!DOCTYPE " ++ name ++ ">"
  | .comment s => "<!--" ++ s ++ "-->"
  | .text s => if raw then s else escape strictTextEscapes s
  | .fragment children => markupAll raw children
  | .element e children =>
    if e.isMarkupVoid then e.startMarkup
    else e.startMarkup ++ markupAll e.hasRawText children ++ e.endMarkup

/-- The markup of some nodes. -/
def markupAll (raw : Bool) : List Node → String
  | [] => ""
  | n :: rest => markup raw n ++ markupAll raw rest

end

/-- The markup of an element and all that is in it. -/
def outerMarkup (n : Node) : String := n.markup false

/-- The markup of what is in an element. Its text is escaped in any case. -/
def innerMarkup (n : Node) : String := markupAll false n.children

end Node

end PageEdit.Html
