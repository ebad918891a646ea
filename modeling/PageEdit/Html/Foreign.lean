import PageEdit.Html.Name
import PageEdit.Html.Token

/-!
# Foreign elements

Tags are read in lower case. The names of SVG and MathML that have capitals get them back, and the
attributes with a vocabulary of their own get it.
-/

namespace PageEdit.Html.Foreign

/-- Element names of SVG with capitals. -/
def svgLabels : List String :=
  ["altGlyph", "altGlyphDef", "altGlyphItem", "animateColor", "animateMotion", "animateTransform",
   "clipPath", "feBlend", "feColorMatrix", "feComponentTransfer", "feComposite",
   "feConvolveMatrix", "feDiffuseLighting", "feDisplacementMap", "feDistantLight", "feDropShadow",
   "feFlood", "feFuncA", "feFuncB", "feFuncG", "feFuncR", "feGaussianBlur", "feImage", "feMerge",
   "feMergeNode", "feMorphology", "feOffset", "fePointLight", "feSpecularLighting", "feSpotLight",
   "feTile", "feTurbulence", "foreignObject", "glyphRef", "linearGradient", "radialGradient",
   "textPath"]

/-- Attribute names of SVG with capitals. -/
def svgAttrs : List String :=
  ["attributeName", "attributeType", "baseFrequency", "baseProfile", "calcMode", "clipPathUnits",
   "diffuseConstant", "edgeMode", "filterUnits", "glyphRef", "gradientTransform", "gradientUnits",
   "kernelMatrix", "kernelUnitLength", "keyPoints", "keySplines", "keyTimes", "lengthAdjust",
   "limitingConeAngle", "markerHeight", "markerUnits", "markerWidth", "maskContentUnits",
   "maskUnits", "numOctaves", "pathLength", "patternContentUnits", "patternTransform",
   "patternUnits", "pointsAtX", "pointsAtY", "pointsAtZ", "preserveAlpha", "preserveAspectRatio",
   "primitiveUnits", "refX", "refY", "repeatCount", "repeatDur", "requiredExtensions",
   "requiredFeatures", "specularConstant", "specularExponent", "spreadMethod", "startOffset",
   "stdDeviation", "stitchTiles", "surfaceScale", "systemLanguage", "tableValues", "targetX",
   "targetY", "textLength", "viewBox", "viewTarget", "xChannelSelector", "yChannelSelector",
   "zoomAndPan"]

/-- The name among `names` that is `label` in lower case, or else `label`. -/
def capitalized (names : List String) (label : String) : String :=
  (names.find? fun name => name.map Char.toLower == label).getD label

/-- The label of an element in a vocabulary. -/
def label (space : Space) (label : String) : String :=
  if space == .svg then capitalized svgLabels label else label

/-- The labels of attributes that are written with `xlink:`. -/
def xlinkLabels : List String := ["actuate", "arcrole", "href", "role", "show", "title", "type"]

/-- The name of an attribute of an element in a vocabulary. -/
def attrName (space : Space) (name : String) : AttrName :=
  let name := match space with
    | .svg => capitalized svgAttrs name
    | .math => capitalized ["definitionURL"] name
    | .html => name
  if name == "xmlns" then ⟨.declaration, name⟩
  else if name == "xmlns:xlink" then ⟨.xmlns, "xlink"⟩
  else if name == "xml:lang" then ⟨.xml, "lang"⟩
  else if name == "xml:space" then ⟨.xml, "space"⟩
  else match xlinkLabels.find? fun label => name == "xlink:" ++ label with
    | some label => ⟨.xlink, label⟩
    | none => .plain name

/-- The attributes of a tag as those of an element in a vocabulary. -/
def attrs (space : Space) (tag : Tag) : List Attr :=
  sortAttrs (tag.attrs.map fun (name, value) =>
    ⟨if space == .html then .plain name else attrName space name, value⟩)

/-- Tags of HTML that end foreign elements. -/
def breakouts : List String :=
  ["b", "big", "blockquote", "body", "br", "center", "code", "dd", "div", "dl", "dt", "em", "embed",
   "h1", "h2", "h3", "h4", "h5", "h6", "head", "hr", "i", "img", "li", "listing", "menu", "meta",
   "nobr", "ol", "p", "pre", "ruby", "s", "small", "span", "strong", "strike", "sub", "sup",
   "table", "tt", "u", "ul", "var"]

/-- Whether a start tag ends the foreign elements it stands in. -/
def breaksOut (tag : Tag) : Bool :=
  breakouts.contains tag.name ||
    tag.name == "font" && tag.attrs.any fun (name, _) => ["color", "face", "size"].contains name

end PageEdit.Html.Foreign
