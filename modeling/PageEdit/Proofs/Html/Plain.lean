import PageEdit.Html.Build.Reader
import PageEdit.Proofs.Html.Growing
import PageEdit.Proofs.Html.Verbatim
import PageEdit.Proofs.Html.Writing

/-!
# Plain pages

A page is plain if each of its elements stands where reading opens it and nothing else: no paragraph is ended for
it, nothing goes before a table, no formatting element is opened again. What stands around an element is given by the
labels of the elements that are open there, innermost first.

What is left out is what does not come back as it was written: a line feed at the start of `pre` and `textarea`,
`plaintext`, templates, framesets, elements of SVG and MathML.

* `Build.modeIn`: the rules that read the content of an element.
* `Node.isPlain`: whether a tree comes back where it stands.
* `Document.isPlain`: whether a page does.
-/

namespace PageEdit.Html

open Text (isAsciiBlank)

namespace Build

open Builder (blockLabels headingLabels formatLabels inScope openItem?)

/-! ## Open elements -/

/-- Open elements of HTML with some labels. -/
def openedAs (path : List String) : List Opened := path.map fun label => ⟨0, .html label⟩

/-- The mode that reads the content of the innermost of some open elements, once the head has been opened. -/
def modeIn (path : List String) : Mode := { Builder.start with head := some 0 }.modeFor (openedAs path)

/-- Whether an element with a label is open within a scope. -/
def isOpenIn (scope : ElementSet) (label : String) (path : List String) : Bool :=
  inScope scope (·.name.isHtml label) (openedAs path)

/-- Whether a paragraph would be ended by a block. -/
def hasParagraph (path : List String) : Bool := isOpenIn ElementSet.buttonScope "p" path

/-- Elements that are opened again where they are closed too early. -/
def isFormat (label : String) : Bool := label == "a" || label == "nobr" || formatLabels.contains label

/-- Elements inside which no formatting element around them counts. -/
def isBound (label : String) : Bool := ["applet", "marquee", "object", "caption", "td", "th"].contains label

/-- The open formatting elements that count. -/
def formatsIn (path : List String) : List String := (path.takeWhile (!isBound ·)).filter isFormat

/-! ## Where elements may stand -/

/-- Elements that end something, go elsewhere or change how what follows is read. -/
def barredLabels : List String :=
  ["html", "head", "body", "frameset", "frame", "template", "basefont", "bgsound", "plaintext", "image", "keygen",
   "math", "svg", "caption", "col", "colgroup", "tbody", "td", "tfoot", "th", "thead", "tr"]

/-- The modes that read text with elements in it. -/
def flowModes : List Mode := [.inBody, .inCaption, .inCell]

/-- The modes that read the parts of a table down to its rows. -/
def rowModes : List Mode := [.inTable, .inTableBody, .inRow]

/-- Whether an element with content may stand among text. -/
def fitsInFlow (path : List String) (label : String) : Bool :=
  if blockLabels.contains label then !hasParagraph path
  else if headingLabels.contains label then !hasParagraph path && !path.head?.any headingLabels.contains
  else if ["pre", "listing", "table"].contains label then !hasParagraph path
  else if label == "form" then !hasParagraph path && !path.contains "form"
  else if label == "li" then !hasParagraph path && openItem? ["li"] (openedAs path) == none
  else if ["dd", "dt"].contains label then !hasParagraph path && openItem? ["dd", "dt"] (openedAs path) == none
  else if label == "button" then !isOpenIn ElementSet.scope "button" path
  else if label == "a" then !(formatsIn path).contains "a"
  else if label == "nobr" then !isOpenIn ElementSet.scope "nobr" path && (formatsIn path).count label < 3
  else if formatLabels.contains label then (formatsIn path).count label < 3
  else if label == "select" then path.contains "table" == (modeIn path != .inBody)
  else if ["optgroup", "option"].contains label then path.head? != some "option"
  else if ["rb", "rp", "rt", "rtc"].contains label then
    !isOpenIn ElementSet.scope "ruby" path || !path.head?.any (ElementSet.impliedEnd ∘ .html)
  else !barredLabels.contains label

/-- Whether an element with content may stand in some open elements. -/
def fitsIn (path : List String) (label : String) : Bool :=
  match modeIn path with
  | .inBody | .inCaption | .inCell => fitsInFlow path label
  | .inTable => path.head? == some "table" && ["caption", "colgroup", "tbody", "tfoot", "thead"].contains label
  | .inTableBody => path.head?.any ["tbody", "tfoot", "thead"].contains && label == "tr"
  | .inRow => path.head? == some "tr" && ["td", "th"].contains label
  | .inSelect | .inSelectInTable =>
    label == "option" && path.head? != some "option" || label == "optgroup" && path.head? == some "select"
  | _ => false

/-- Whether an element without content may stand in some open elements. -/
def voidFitsIn (path : List String) (label : String) : Bool :=
  match modeIn path with
  | .inHead => ["base", "link", "meta"].contains label
  | .inBody | .inCaption | .inCell => label != "col" && (label != "hr" || !hasParagraph path)
  | .inColumnGroup => label == "col"
  | .inSelect | .inSelectInTable => label == "hr" && path.head? == some "select"
  | _ => false

/-- How the text of an element is read in which only its end tag is markup. -/
def rawKind? (label : String) : Option RawKind :=
  if ["title", "textarea"].contains label then some .escapable
  else if label == "script" then some .script
  else if verbatimLabels.contains label then some .plain
  else none

/-- Whether an element with raw text may stand in some open elements. -/
def rawFitsIn (path : List String) (label : String) : Bool :=
  match modeIn path with
  | .inHead => ["title", "script", "style", "noscript", "noframes"].contains label
  | .inBody | .inCaption | .inCell => label != "xmp" || !hasParagraph path
  | .inTable | .inTableBody | .inRow => ["script", "style"].contains label
  | .inSelect | .inSelectInTable => label == "script"
  | _ => false

/-- Whether text may stand in some open elements: between the parts of a page and of a table only blanks may. -/
def charFitsIn (path : List String) (c : Char) : Bool :=
  match modeIn path with
  | .inBody | .inCaption | .inCell | .inSelect | .inSelectInTable => true
  | .inHead | .afterHead | .inColumnGroup => isAsciiBlank c
  | .inTable | .inTableBody | .inRow => path.head?.any (ElementSet.tableParts ∘ .html) && isAsciiBlank c
  | _ => false

end Build

/-! ## Plain trees -/

/-- The start tag of an element as it is written. -/
def Element.tag (e : Element) : Tag := ⟨e.label, e.attributes, false⟩

/-- Whether the start tag of an element is read back. -/
def Element.isPlain (e : Element) : Bool :=
  e.name == .html e.label && Scanner.keepsLabel e.label && e.attributes.all Scanner.keepsAttr &&
    decide (e.attributes.map (·.1)).Nodup && Foreign.attrs .html e.tag == e.attrs

namespace Node

open Build

/-- Whether a text is free of characters that reading leaves out or replaces. -/
def keepsText (text : String) : Bool :=
  text != "" && !text.toList.contains '\x00' && text.toList.head? != some '\uFEFF'

/-- Whether some nodes begin with a line feed. -/
def startsLine : List Node → Bool
  | .text s :: _ => s.toList.head? == some '\n'
  | _ => false

/-- Elements whose content loses a line feed at its start. -/
def dropsLine (label : String) : Bool := ["pre", "listing", "textarea"].contains label

/-- Whether raw text is read back as the content of an element. -/
def isRawContent (kind : RawKind) (label : String) : List Node → Bool
  | [] => true
  | [.text s] => keepsText s && (kind == .escapable || Scanner.keepsRaw kind label s)
  | _ => false

mutual

/-- Whether a tree is read back where it stands. -/
def isPlain (path : List String) : Node → Bool
  | .text s => keepsText s && s.toList.all (charFitsIn path)
  | .comment s => Scanner.keepsComment s
  | .doctype _ | .fragment _ => false
  | .element e children =>
    e.isPlain && !(dropsLine e.label && startsLine children) &&
      if isVoid e.label then voidFitsIn path e.label && children.isEmpty
      else match rawKind? e.label with
        | some kind => rawFitsIn path e.label && isRawContent kind e.label children
        | none => fitsIn path e.label && isPlainAll (e.label :: path) children

def isPlainAll (path : List String) : List Node → Bool
  | [] => true
  | n :: rest => isPlain path n && isPlainAll path rest

end

/-- Whether a node is a comment that is read back. -/
def isPlainComment : Node → Bool
  | .comment s => Scanner.keepsComment s
  | _ => false

/-- Whether nodes before the root element are read back: of document types only the first counts. -/
def isPlainOpening : List Node → Bool
  | [] => true
  | .doctype name :: rest => Scanner.keepsDoctype name && rest.all isPlainComment
  | n :: rest => n.isPlainComment && isPlainOpening rest

/-- Whether nodes after the head are read back: the body and, around it, blanks and comments. -/
def isPlainRest : List Node → Bool
  | .element e children :: rest =>
    e.label == "body" && e.isPlain && isPlainAll ["body", "html"] children && rest.all isPlainComment
  | n :: rest => n.isPlain ["html"] && isPlainRest rest
  | [] => false

/-- Whether the content of the root element is read back: a head after comments, and a body. -/
def isPlainRoot : List Node → Bool
  | .element e children :: rest =>
    e.label == "head" && e.isPlain && isPlainAll ["head", "html"] children && isPlainRest rest
  | n :: rest => n.isPlainComment && isPlainRoot rest
  | [] => false

end Node

/-- Whether a page is read back as it is written: it has a head and a body, all that is in it stands where it is
read, and its line ends are line feeds. -/
def Document.isPlain (doc : Document) : Bool :=
  Node.isWholeAll doc.nodes && Node.isPlainOpening doc.before && doc.rootElement.isPlain &&
    Node.isPlainRoot doc.children && doc.after.all Node.isPlainComment &&
    !(doc.write noRevisions).toList.contains '\r'

end PageEdit.Html
