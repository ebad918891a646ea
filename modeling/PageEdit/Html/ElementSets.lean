import PageEdit.Html.Name

/-!
# Sets of elements

The sets that the rules for building a document ask about. A set holds elements of HTML unless its
comment says more.
-/

namespace PageEdit.Html

/-- A set of element names. -/
abbrev ElementSet := Name → Bool

/-- The elements of HTML with one of the given labels. -/
def htmlSet (labels : List String) : ElementSet := fun name =>
  name.space == .html && labels.contains name.label

namespace ElementSet

/-- Elements in which text of MathML is read as HTML. -/
def mathText : ElementSet := fun name =>
  name.space == .math && ["mi", "mo", "mn", "ms", "mtext"].contains name.label

/-- Elements of SVG whose content is HTML. -/
def svgHtml : ElementSet := fun name =>
  name.space == .svg && ["foreignObject", "desc", "title"].contains name.label

/-- Elements that bound the search for an open element. -/
def scope : ElementSet := fun name =>
  htmlSet ["applet", "caption", "html", "table", "td", "th", "marquee", "object", "template"] name ||
    mathText name || svgHtml name

/-- Elements that bound the search for a list item. -/
def listScope : ElementSet := fun name => scope name || htmlSet ["ol", "ul"] name

/-- Elements that bound the search for a paragraph. -/
def buttonScope : ElementSet := fun name => scope name || htmlSet ["button"] name

/-- Elements that bound the search inside a table. -/
def tableScope : ElementSet := htmlSet ["html", "table", "template"]

/-- Elements that bound the search inside a selection: all but options. -/
def selectScope : ElementSet := fun name => !htmlSet ["optgroup", "option"] name

/-- Elements that table rows stand in. -/
def bodyContext : ElementSet := htmlSet ["tbody", "tfoot", "thead", "template", "html"]

/-- Elements that table cells stand in. -/
def rowContext : ElementSet := htmlSet ["tr", "template", "html"]

/-- Table cells. -/
def cells : ElementSet := htmlSet ["td", "th"]

/-- Parts of a table that may not hold text. -/
def tableParts : ElementSet := htmlSet ["table", "tbody", "tfoot", "thead", "tr"]

/-- Headings. -/
def headings : ElementSet := htmlSet ["h1", "h2", "h3", "h4", "h5", "h6"]

/-- Elements whose end tags may be left out. -/
def impliedEnd : ElementSet :=
  htmlSet ["dd", "dt", "li", "option", "optgroup", "p", "rb", "rp", "rt", "rtc"]

/-- Elements whose end tags may be left out, those of tables included. -/
def thoroughEnd : ElementSet := fun name =>
  impliedEnd name ||
    htmlSet ["caption", "colgroup", "tbody", "td", "tfoot", "th", "thead", "tr"] name

/-- Elements with rules of their own. -/
def special : ElementSet :=
  htmlSet ["address", "applet", "area", "article", "aside", "base", "basefont", "bgsound",
    "blockquote", "body", "br", "button", "caption", "center", "col", "colgroup", "dd", "details",
    "dir", "div", "dl", "dt", "embed", "fieldset", "figcaption", "figure", "footer", "form",
    "frame", "frameset", "h1", "h2", "h3", "h4", "h5", "h6", "head", "header", "hgroup", "hr",
    "html", "iframe", "img", "input", "isindex", "li", "link", "listing", "main", "marquee", "menu",
    "meta", "nav", "noembed", "noframes", "noscript", "object", "ol", "p", "param", "plaintext",
    "pre", "script", "section", "select", "source", "style", "summary", "table", "tbody", "td",
    "template", "textarea", "tfoot", "th", "thead", "title", "tr", "track", "ul", "wbr", "xmp"]

/-- Elements that end the search for an open list item. -/
def listBarrier : ElementSet := fun name => special name && !htmlSet ["address", "div", "p"] name

end ElementSet

/-! ## Labels -/

/-- Elements that have no content, and take no end tag in a page. -/
def voidLabels : List String :=
  ["area", "base", "br", "col", "embed", "hr", "img", "input", "link", "meta", "param", "source",
   "track", "wbr"]

/-- Whether an element of this label has no content. -/
def isVoid (label : String) : Bool := voidLabels.contains label

/-- Whether an element of this label and all that is in it is left out of the outline of a page. -/
def isSkipped (label : String) : Bool := ["script", "style", "noscript"].contains label

end PageEdit.Html
