import PageEdit.Text.Blank
import PageEdit.Text.Word

/-!
# Keywords

What words of a request say of the markup it is about: which elements it names, and which parts of class
names go with it. English keywords count as whole words, in the plural too; Korean ones anywhere, as
particles are attached to them.
-/

namespace PageEdit.Relevance

/-- A keyword, in lower case, and the markup that it points at. -/
structure Keyword where
  text : String
  elements : List String
  /-- Parts of class names. -/
  classes : List String
  deriving Repr, DecidableEq

/-- Headings. -/
def headings : List String := ["h1", "h2", "h3", "h4", "h5", "h6"]

/-- Tables and their parts. -/
def tableParts : List String := ["table", "thead", "tbody", "tr", "td", "th"]

/-- Lists and their items. -/
def lists : List String := ["ul", "ol", "li"]

/-- Forms and what is filled in. -/
def formParts : List String := ["form", "input", "textarea", "select"]

/-- Parts of classes for colors. -/
def colors : List String := ["bg-", "text-", "color"]

/-- Parts of classes for fonts. -/
def fonts : List String := ["font-", "text-"]

/-- Korean words for elements. -/
def koreanElements : List Keyword :=
  [⟨"버튼", ["button"], ["btn", "button"]⟩,
   ⟨"헤더", ["header", "h1", "h2", "h3"], ["header", "heading"]⟩,
   ⟨"제목", headings, ["title", "heading"]⟩,
   ⟨"테이블", tableParts, ["table"]⟩,
   ⟨"표", tableParts, ["table"]⟩,
   ⟨"이미지", ["img"], ["image", "img"]⟩,
   ⟨"사진", ["img"], ["image", "img", "photo"]⟩,
   ⟨"링크", ["a"], ["link"]⟩,
   ⟨"입력", ["input", "textarea"], ["input", "form"]⟩,
   ⟨"폼", formParts, ["form"]⟩,
   ⟨"목록", lists, ["list"]⟩,
   ⟨"리스트", lists, ["list"]⟩,
   ⟨"네비게이션", ["nav"], ["nav", "navigation", "menu"]⟩,
   ⟨"메뉴", ["nav", "ul"], ["nav", "menu"]⟩,
   ⟨"푸터", ["footer"], ["footer"]⟩,
   ⟨"카드", ["div"], ["card"]⟩,
   ⟨"섹션", ["section", "div"], ["section"]⟩,
   ⟨"팝업", ["div"], ["popup", "modal", "overlay"]⟩,
   ⟨"아이콘", ["i", "svg", "img"], ["icon", "fa", "svg"]⟩,
   ⟨"텍스트", ["p", "span", "div"], ["text"]⟩,
   ⟨"문단", ["p"], ["paragraph"]⟩]

/-- Korean words for styles. -/
def koreanStyles : List Keyword :=
  [⟨"색", [], colors⟩,
   ⟨"색깔", [], colors⟩,
   ⟨"배경", [], ["bg-", "background"]⟩,
   ⟨"폰트", [], fonts⟩,
   ⟨"글자", [], fonts⟩,
   ⟨"크기", [], ["text-", "w-", "h-", "size"]⟩,
   ⟨"너비", [], ["w-", "width"]⟩,
   ⟨"높이", [], ["h-", "height"]⟩,
   ⟨"간격", [], ["gap-", "space-", "p-", "m-"]⟩,
   ⟨"패딩", [], ["p-", "padding"]⟩,
   ⟨"마진", [], ["m-", "margin"]⟩,
   ⟨"테두리", [], ["border", "rounded"]⟩,
   ⟨"둥글게", [], ["rounded"]⟩,
   ⟨"그림자", [], ["shadow"]⟩]

/-- English words for elements. -/
def englishElements : List Keyword :=
  [⟨"button", ["button"], ["btn", "button"]⟩,
   ⟨"header", ["header", "h1", "h2", "h3"], ["header", "heading"]⟩,
   ⟨"heading", headings, ["heading", "title"]⟩,
   ⟨"title", headings, ["title", "heading"]⟩,
   ⟨"table", tableParts, ["table"]⟩,
   ⟨"image", ["img", "picture"], ["image", "img"]⟩,
   ⟨"photo", ["img", "picture"], ["image", "img", "photo"]⟩,
   ⟨"link", ["a"], ["link"]⟩,
   ⟨"input", ["input", "textarea"], ["input", "form"]⟩,
   ⟨"form", formParts, ["form"]⟩,
   ⟨"list", lists, ["list"]⟩,
   ⟨"nav", ["nav"], ["nav", "navigation", "menu"]⟩,
   ⟨"navigation", ["nav"], ["nav", "navigation", "menu"]⟩,
   ⟨"menu", ["nav", "ul"], ["nav", "menu"]⟩,
   ⟨"footer", ["footer"], ["footer"]⟩,
   ⟨"card", ["div"], ["card"]⟩,
   ⟨"section", ["section", "div"], ["section"]⟩,
   ⟨"popup", ["div"], ["popup", "modal", "overlay"]⟩,
   ⟨"modal", ["div", "dialog"], ["modal", "popup", "overlay"]⟩,
   ⟨"icon", ["i", "svg", "img"], ["icon", "fa", "svg"]⟩,
   ⟨"text", ["p", "span", "div"], ["text"]⟩,
   ⟨"paragraph", ["p"], ["paragraph"]⟩]

/-- English words for styles. -/
def englishStyles : List Keyword :=
  [⟨"color", [], colors⟩,
   ⟨"colour", [], colors⟩,
   ⟨"background", [], ["bg-", "background"]⟩,
   ⟨"font", [], fonts⟩,
   ⟨"size", [], ["text-", "w-", "h-", "size"]⟩,
   ⟨"width", [], ["w-", "width"]⟩,
   ⟨"height", [], ["h-", "height"]⟩,
   ⟨"spacing", [], ["gap-", "space-", "p-", "m-"]⟩,
   ⟨"padding", [], ["p-", "padding"]⟩,
   ⟨"margin", [], ["m-", "margin"]⟩,
   ⟨"border", [], ["border", "rounded"]⟩,
   ⟨"rounded", [], ["rounded"]⟩,
   ⟨"shadow", [], ["shadow"]⟩]

/-- All keywords. -/
def keywords : List Keyword := koreanElements ++ koreanStyles ++ englishElements ++ englishStyles

/-- What is left after a text at the beginning. -/
def literal (text : String) : Text.Pattern := fun s =>
  let cs := text.toList
  if cs.isPrefixOf s then [s.drop cs.length] else []

/-- A keyword in the singular or plural. -/
def word (text : String) : Text.Pattern := fun s =>
  (literal text s).flatMap fun rest => rest :: (literal "s" rest ++ literal "es" rest)

/-- Whether a keyword stands in a request in lower case. -/
def Keyword.isIn (k : Keyword) (request : List Char) : Bool :=
  if k.text.toList.all (·.toNat < 0x80) then Text.occursAsWord (word k.text) false request
  else Text.containsChars k.text.toList request

/-- The keywords in a request in lower case. -/
def keywordsIn (request : String) : List Keyword := keywords.filter (·.isIn request.toList)

end PageEdit.Relevance
