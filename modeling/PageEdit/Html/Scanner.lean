import PageEdit.Html.Token
import PageEdit.Html.Reference
import PageEdit.Text.Blank

/-!
# Scanning HTML into tokens

The scanner is a machine that takes one character at a time. A state carries what has been read of the
token at hand, so no part of the text is read twice: where a character has to be looked at again, the
state it belongs to is asked at once.

* `Scanner.feed`: one character. Whether the element that text goes to is foreign decides only what
  `<![CDATA[` means.
* `Scanner.stop`: the end of the text.
* `scan_append`: scanning a text is scanning its parts in turn.
-/

namespace PageEdit.Html

/-- The kinds of text in which only an end tag counts as markup. -/
inductive RawKind where
  /-- Text with character references, as in a title. -/
  | escapable
  | plain
  | script
  /-- A script inside `<!--`. -/
  | hiddenScript
  /-- A script inside `<!--` and a `<script>` of its own. -/
  | nestedScript
  deriving Repr, DecidableEq

/-- How an attribute value is enclosed. -/
inductive Quote where
  | double
  | single
  | none
  deriving Repr, DecidableEq

/-- The identifiers of a document type. -/
inductive IdKind where
  | publicId
  | systemId
  deriving Repr, DecidableEq

/-- A tag of which some has been read. -/
structure Draft where
  closing : Bool
  name : String
  attrs : List (String × String)
  deriving Repr, DecidableEq

/-- Where a character reference stands. -/
inductive Site where
  | text
  | escapable
  | value (quote : Quote) (tag : Draft) (name value : String)
  deriving Repr, DecidableEq

/-- What has been read of a character reference after `&`. -/
inductive Progress where
  | named (seen : List Char)
  | hash
  | hashX (mark : Char)
  | number (base value : Nat)
  deriving Repr, DecidableEq

/-- Where the scanner is and what it holds. -/
inductive State where
  | text
  | plaintext
  | raw (kind : RawKind)
  | reference (site : Site) (seen : Progress)
  | tagOpen
  | endTagOpen
  | tagName (tag : Draft)
  | beforeAttr (tag : Draft)
  | attrName (tag : Draft) (name : String)
  | afterAttrName (tag : Draft) (name : String)
  | beforeValue (tag : Draft) (name : String)
  | value (quote : Quote) (tag : Draft) (name value : String)
  | selfClosing (tag : Draft)
  | rawLess (kind : RawKind)
  | rawEndOpen (kind : RawKind)
  | rawEndName (kind : RawKind) (seen : String)
  | hideStart
  | hideStartDash
  | hiddenDash (kind : RawKind)
  | hiddenDashDash (kind : RawKind)
  | nestStart (seen : String)
  | nestEnd (seen : String)
  | declaration (seen : List Char)
  | bogusComment (text : String)
  | commentStart
  | commentStartDash
  | comment (text : String)
  | commentLess (text : String)
  | commentLessBang (text : String)
  | commentLessBangDash (text : String)
  | commentLessBangDashDash (text : String)
  | commentEndDash (text : String)
  | commentEnd (text : String)
  | commentEndBang (text : String)
  | beforeDoctype
  | doctypeName (doctype : Doctype) (name : String)
  | afterDoctypeName (doctype : Doctype) (seen : List Char)
  | afterKeyword (kind : IdKind) (doctype : Doctype)
  | doctypeId (kind : IdKind) (mark : Char) (doctype : Doctype) (id : String)
  | afterDoctypeId (kind : IdKind) (doctype : Doctype)
  | bogusDoctype (doctype : Doctype)
  | cdata
  | cdataBracket
  | cdataEnd
  deriving Repr, DecidableEq

/-- A state and the name of the last start tag, which alone can be ended in raw text. -/
structure Scanner where
  state : State
  last : String
  deriving Repr, DecidableEq

namespace Scanner

open Text (isAsciiBlank)

/-- A state and the tokens that lead to it. -/
abbrev Step := State × List Token

/-- The character that stands for U+0000. -/
def visible (c : Char) : Char := if c == '\x00' then '\uFFFD' else c

/-- The tokens of a run of text. -/
def chars (s : String) : List Token := s.toList.map .char

/-- Tokens put before those of a step. -/
def after (tokens : List Token) (s : Step) : Step := (s.1, tokens ++ s.2)

/-! ## Text -/

def inText (c : Char) : Step :=
  if c == '&' then (.reference .text (.named []), [])
  else if c == '<' then (.tagOpen, [])
  else if c == '\x00' then (.text, [.null])
  else (.text, [.char c])

def inPlaintext (c : Char) : Step := (.plaintext, [.char (visible c)])

def inRaw (kind : RawKind) (c : Char) : Step :=
  match kind with
  | .escapable =>
    if c == '&' then (.reference .escapable (.named []), [])
    else if c == '<' then (.rawLess kind, [])
    else (.raw kind, [.char (visible c)])
  | .plain | .script =>
    if c == '<' then (.rawLess kind, []) else (.raw kind, [.char (visible c)])
  | .hiddenScript =>
    if c == '-' then (.hiddenDash kind, [.char c])
    else if c == '<' then (.rawLess kind, [])
    else (.raw kind, [.char (visible c)])
  | .nestedScript =>
    if c == '-' then (.hiddenDash kind, [.char c])
    else if c == '<' then (.rawLess kind, [.char c])
    else (.raw kind, [.char (visible c)])

def inHiddenDash (kind : RawKind) (c : Char) : Step :=
  if c == '-' then (.hiddenDashDash kind, [.char c])
  else if c == '<' then (.rawLess kind, if kind == .nestedScript then [.char c] else [])
  else (.raw kind, [.char (visible c)])

def inHiddenDashDash (kind : RawKind) (c : Char) : Step :=
  if c == '-' then (.hiddenDashDash kind, [.char c])
  else if c == '>' then (.raw .script, [.char c])
  else inHiddenDash kind c

/-- The end of a word that may begin or end a script inside a script. -/
def endsScriptWord (c : Char) : Bool := isAsciiBlank c || c == '/' || c == '>'

def inNestStart (seen : String) (c : Char) : Step :=
  if endsScriptWord c then
    (.raw (if seen == "script" then .nestedScript else .hiddenScript), [.char c])
  else if c.isAlpha then (.nestStart (seen.push c.toLower), [.char c])
  else inRaw .hiddenScript c

def inNestEnd (seen : String) (c : Char) : Step :=
  if endsScriptWord c then
    (.raw (if seen == "script" then .hiddenScript else .nestedScript), [.char c])
  else if c.isAlpha then (.nestEnd (seen.push c.toLower), [.char c])
  else inRaw .nestedScript c

def inRawLess (kind : RawKind) (c : Char) : Step :=
  match kind with
  | .nestedScript =>
    if c == '/' then (.nestEnd "", [.char c]) else inRaw kind c
  | .hiddenScript =>
    if c == '/' then (.rawEndOpen kind, [])
    else if c.isAlpha then (.nestStart (String.singleton c.toLower), chars "<" ++ [.char c])
    else after (chars "<") (inRaw kind c)
  | .script =>
    if c == '/' then (.rawEndOpen kind, [])
    else if c == '!' then (.hideStart, chars "<!")
    else after (chars "<") (inRaw kind c)
  | _ =>
    if c == '/' then (.rawEndOpen kind, []) else after (chars "<") (inRaw kind c)

def inHideStart (c : Char) : Step :=
  if c == '-' then (.hideStartDash, [.char c]) else inRaw .script c

def inHideStartDash (c : Char) : Step :=
  if c == '-' then (.hiddenDashDash .hiddenScript, [.char c]) else inRaw .script c

/-! ## Tags -/

/-- A tag as a token. The attributes of an end tag are dropped. -/
def finish (tag : Draft) (selfClosing : Bool) : Step :=
  (.text, [if tag.closing then .endTag tag.name else .startTag ⟨tag.name, tag.attrs, selfClosing⟩])

/-- A tag with one more attribute, unless it has one of that name. -/
def withAttr (tag : Draft) (name value : String) : Draft :=
  if tag.attrs.any (·.1 == name) then tag else { tag with attrs := tag.attrs ++ [(name, value)] }

/-- The first character of a tag or attribute name, or a further one. -/
def nameChar (c : Char) : Char := visible c.toLower

def inTagName (tag : Draft) (c : Char) : Step :=
  if isAsciiBlank c then (.beforeAttr tag, [])
  else if c == '/' then (.selfClosing tag, [])
  else if c == '>' then finish tag false
  else (.tagName { tag with name := tag.name.push (nameChar c) }, [])

def inBeforeAttr (tag : Draft) (c : Char) : Step :=
  if isAsciiBlank c then (.beforeAttr tag, [])
  else if c == '/' then (.selfClosing tag, [])
  else if c == '>' then finish tag false
  else (.attrName tag (String.singleton (nameChar c)), [])

def inAttrName (tag : Draft) (name : String) (c : Char) : Step :=
  if isAsciiBlank c then (.afterAttrName tag name, [])
  else if c == '/' then (.selfClosing (withAttr tag name ""), [])
  else if c == '=' then (.beforeValue tag name, [])
  else if c == '>' then finish (withAttr tag name "") false
  else (.attrName tag (name.push (nameChar c)), [])

def inAfterAttrName (tag : Draft) (name : String) (c : Char) : Step :=
  if isAsciiBlank c then (.afterAttrName tag name, [])
  else if c == '=' then (.beforeValue tag name, [])
  else inBeforeAttr (withAttr tag name "") c

def inValue (quote : Quote) (tag : Draft) (name value : String) (c : Char) : Step :=
  if c == '&' then (.reference (.value quote tag name value) (.named []), [])
  else if quote == .none && isAsciiBlank c then (.beforeAttr (withAttr tag name value), [])
  else if quote == .none && c == '>' then finish (withAttr tag name value) false
  else if quote == .double && c == '"' || quote == .single && c == '\'' then
    (.beforeAttr (withAttr tag name value), [])
  else (.value quote tag name (value.push (visible c)), [])

def inBeforeValue (tag : Draft) (name : String) (c : Char) : Step :=
  if isAsciiBlank c then (.beforeValue tag name, [])
  else if c == '"' then (.value .double tag name "", [])
  else if c == '\'' then (.value .single tag name "", [])
  else if c == '>' then finish (withAttr tag name "") false
  else inValue .none tag name "" c

def inSelfClosing (tag : Draft) (c : Char) : Step :=
  if c == '>' then finish tag true else inBeforeAttr tag c

/-! ## End tags in raw text -/

def inRawEndName (last : String) (kind : RawKind) (seen : String) (c : Char) : Step :=
  let name := Text.lowerAscii seen
  if name == last && isAsciiBlank c then (.beforeAttr ⟨true, name, []⟩, [])
  else if name == last && c == '/' then (.selfClosing ⟨true, name, []⟩, [])
  else if name == last && c == '>' then finish ⟨true, name, []⟩ false
  else if c.isAlpha then (.rawEndName kind (seen.push c), [])
  else after (chars "</" ++ chars seen) (inRaw kind c)

def inRawEndOpen (kind : RawKind) (c : Char) : Step :=
  if c.isAlpha then (.rawEndName kind (String.singleton c), [])
  else after (chars "</") (inRaw kind c)

/-! ## Comments -/

def inBogusComment (text : String) (c : Char) : Step :=
  if c == '>' then (.text, [.comment text]) else (.bogusComment (text.push (visible c)), [])

def inComment (text : String) (c : Char) : Step :=
  if c == '<' then (.commentLess (text.push c), [])
  else if c == '-' then (.commentEndDash text, [])
  else (.comment (text.push (visible c)), [])

def inCommentEndDash (text : String) (c : Char) : Step :=
  if c == '-' then (.commentEnd text, []) else inComment (text.push '-') c

def inCommentEnd (text : String) (c : Char) : Step :=
  if c == '>' then (.text, [.comment text])
  else if c == '!' then (.commentEndBang text, [])
  else if c == '-' then (.commentEnd (text.push '-'), [])
  else inComment (text ++ "--") c

def inCommentEndBang (text : String) (c : Char) : Step :=
  if c == '-' then (.commentEndDash (text ++ "--!"), [])
  else if c == '>' then (.text, [.comment text])
  else inComment (text ++ "--!") c

def inCommentStart (c : Char) : Step :=
  if c == '-' then (.commentStartDash, [])
  else if c == '>' then (.text, [.comment ""])
  else inComment "" c

def inCommentStartDash (c : Char) : Step :=
  if c == '-' then (.commentEnd "", [])
  else if c == '>' then (.text, [.comment ""])
  else inComment "-" c

def inCommentLess (text : String) (c : Char) : Step :=
  if c == '!' then (.commentLessBang (text.push c), [])
  else if c == '<' then (.commentLess (text.push c), [])
  else inComment text c

def inCommentLessBang (text : String) (c : Char) : Step :=
  if c == '-' then (.commentLessBangDash text, []) else inComment text c

def inCommentLessBangDash (text : String) (c : Char) : Step :=
  if c == '-' then (.commentLessBangDashDash text, []) else inCommentEndDash text c

/-! ## Document types -/

/-- A document type whose text breaks off. -/
def broken (doctype : Doctype) : Doctype := { doctype with broken := true }

def emitDoctype (doctype : Doctype) : Step := (.text, [.doctype doctype])

def inBeforeDoctype (c : Char) : Step :=
  if isAsciiBlank c then (.beforeDoctype, [])
  else if c == '>' then emitDoctype (broken .blank)
  else (.doctypeName .blank (String.singleton (nameChar c)), [])

def inDoctypeName (doctype : Doctype) (name : String) (c : Char) : Step :=
  let named := { doctype with name := some name }
  if isAsciiBlank c then (.afterDoctypeName named [], [])
  else if c == '>' then emitDoctype named
  else (.doctypeName doctype (name.push (nameChar c)), [])

def inBogusDoctype (doctype : Doctype) (c : Char) : Step :=
  if c == '>' then emitDoctype doctype else (.bogusDoctype doctype, [])

/-- After the name: `seen` is what has been read, in lower case, of one of the two keywords. -/
def inAfterDoctypeName (doctype : Doctype) (seen : List Char) (c : Char) : Step :=
  let next := seen ++ [c.toLower]
  if next == "public".toList then (.afterKeyword .publicId doctype, [])
  else if next == "system".toList then (.afterKeyword .systemId doctype, [])
  else if next.isPrefixOf "public".toList || next.isPrefixOf "system".toList then
    (.afterDoctypeName doctype next, [])
  else if !seen.isEmpty then inBogusDoctype (broken doctype) c
  else if isAsciiBlank c then (.afterDoctypeName doctype [], [])
  else if c == '>' then emitDoctype doctype
  else (.bogusDoctype (broken doctype), [])

def inAfterKeyword (kind : IdKind) (doctype : Doctype) (c : Char) : Step :=
  if isAsciiBlank c then (.afterKeyword kind doctype, [])
  else if c == '"' || c == '\'' then (.doctypeId kind c doctype "", [])
  else if c == '>' then emitDoctype (broken doctype)
  else (.bogusDoctype (broken doctype), [])

/-- A document type with an identifier. -/
def withId (kind : IdKind) (doctype : Doctype) (id : String) : Doctype :=
  match kind with
  | .publicId => { doctype with publicId := some id }
  | .systemId => { doctype with systemId := some id }

def inDoctypeId (kind : IdKind) (mark : Char) (doctype : Doctype) (id : String) (c : Char) : Step :=
  if c == mark then (.afterDoctypeId kind (withId kind doctype id), [])
  else if c == '>' then emitDoctype (broken (withId kind doctype id))
  else (.doctypeId kind mark doctype (id.push (visible c)), [])

def inAfterDoctypeId (kind : IdKind) (doctype : Doctype) (c : Char) : Step :=
  if isAsciiBlank c then (.afterDoctypeId kind doctype, [])
  else if c == '>' then emitDoctype doctype
  else match kind with
    | .publicId =>
      if c == '"' || c == '\'' then (.doctypeId .systemId c doctype "", [])
      else (.bogusDoctype (broken doctype), [])
    | .systemId => (.bogusDoctype doctype, [])

/-! ## Markup declarations -/

/-- After `<!`: `seen` is what has been read of one of the declarations. Letters of `doctype` have
either case, those of `[CDATA[` do not. -/
def inDeclaration (foreign : Bool) (seen : List Char) (c : Char) : Step :=
  let next := seen ++ [c]
  let lower := next.map Char.toLower
  if next == "--".toList then (.commentStart, [])
  else if lower == "doctype".toList then (.beforeDoctype, [])
  else if foreign && next == "[CDATA[".toList then (.cdata, [])
  else if next.isPrefixOf "--".toList || lower.isPrefixOf "doctype".toList ||
      foreign && next.isPrefixOf "[CDATA[".toList then
    (.declaration next, [])
  else inBogusComment (String.ofList seen) c

/-! ## Verbatim text in foreign elements -/

/-- A character of verbatim text. -/
def verbatim (c : Char) : Token := if c == '\x00' then .null else .char c

def inCdata (c : Char) : Step :=
  if c == ']' then (.cdataBracket, []) else (.cdata, [verbatim c])

def inCdataBracket (c : Char) : Step :=
  if c == ']' then (.cdataEnd, []) else after (chars "]") (.cdata, [verbatim c])

def inCdataEnd (c : Char) : Step :=
  if c == '>' then (.text, [])
  else if c == ']' then (.cdataEnd, chars "]")
  else after (chars "]]") (.cdata, [verbatim c])

/-! ## The openings of tags -/

def inEndTagOpen (c : Char) : Step :=
  if c == '>' then (.text, [.fault])
  else if c.isAlpha then (.tagName ⟨true, String.singleton c.toLower, []⟩, [])
  else inBogusComment "" c

def inTagOpen (c : Char) : Step :=
  if c == '!' then (.declaration [], [])
  else if c == '/' then (.endTagOpen, [])
  else if c == '?' then inBogusComment "" c
  else if c.isAlpha then (.tagName ⟨false, String.singleton c.toLower, []⟩, [])
  else after (chars "<") (inText c)

/-! ## Character references -/

/-- Text at the place of a reference. -/
def flush (site : Site) (text : List Char) : Step :=
  match site with
  | .text => (.text, text.map .char)
  | .escapable => (.raw .escapable, text.map .char)
  | .value quote tag name value => (.value quote tag name (value ++ String.ofList text), [])

/-- A character at the place of a reference that has ended. -/
def resume (s : Step) (c : Char) : Step :=
  after s.2 <| match s.1 with
    | .raw kind => inRaw kind c
    | .value quote tag name value => inValue quote tag name value c
    | _ => inText c

/-- Whether a reference stands in an attribute. -/
def inAttribute : Site → Bool
  | .value .. => true
  | _ => false

/-- The text that a reference comes to if it ends here, after the tokens of its fault. -/
def settle (site : Site) (seen : Progress) : Step :=
  match seen with
  | .named seen =>
    let (stands, rest) := Reference.named (inAttribute site) seen
    flush site (stands ++ rest)
  | .hash => flush site ['&', '#']
  | .hashX mark => flush site ['&', '#', mark]
  | .number _ value => after [.fault] (flush site [Reference.numbered value])

def inReference (site : Site) (seen : Progress) (c : Char) : Step :=
  match seen with
  | .named seen =>
    let next := seen ++ [c]
    if seen.isEmpty && c == '#' then (.reference site .hash, [])
    else if c != ';' && Reference.begins next then (.reference site (.named next), [])
    else
      let (stands, rest) := Reference.named (inAttribute site) next
      if rest.isEmpty then flush site stands
      else resume (flush site (stands ++ rest.dropLast)) c
  | .hash =>
    if c == 'x' || c == 'X' then (.reference site (.hashX c), [])
    else match Reference.digit? 10 c with
      | some d => (.reference site (.number 10 d), [])
      | none => resume (settle site seen) c
  | .hashX _ =>
    match Reference.digit? 16 c with
    | some d => (.reference site (.number 16 d), [])
    | none => resume (settle site seen) c
  | .number base value =>
    match Reference.digit? base c with
    | some d => (.reference site (.number base (value * base + d)), [])
    | none =>
      if c == ';' then flush site [Reference.numbered value] else resume (settle site seen) c

/-! ## All states -/

/-- What a character does in a state, given whether text goes to a foreign element and the name of
the last start tag. -/
def step (foreign : Bool) (last : String) (state : State) (c : Char) : Step :=
  match state with
  | .text => inText c
  | .plaintext => inPlaintext c
  | .raw kind => inRaw kind c
  | .reference site seen => inReference site seen c
  | .tagOpen => inTagOpen c
  | .endTagOpen => inEndTagOpen c
  | .tagName tag => inTagName tag c
  | .beforeAttr tag => inBeforeAttr tag c
  | .attrName tag name => inAttrName tag name c
  | .afterAttrName tag name => inAfterAttrName tag name c
  | .beforeValue tag name => inBeforeValue tag name c
  | .value quote tag name value => inValue quote tag name value c
  | .selfClosing tag => inSelfClosing tag c
  | .rawLess kind => inRawLess kind c
  | .rawEndOpen kind => inRawEndOpen kind c
  | .rawEndName kind seen => inRawEndName last kind seen c
  | .hideStart => inHideStart c
  | .hideStartDash => inHideStartDash c
  | .hiddenDash kind => inHiddenDash kind c
  | .hiddenDashDash kind => inHiddenDashDash kind c
  | .nestStart seen => inNestStart seen c
  | .nestEnd seen => inNestEnd seen c
  | .declaration seen => inDeclaration foreign seen c
  | .bogusComment text => inBogusComment text c
  | .commentStart => inCommentStart c
  | .commentStartDash => inCommentStartDash c
  | .comment text => inComment text c
  | .commentLess text => inCommentLess text c
  | .commentLessBang text => inCommentLessBang text c
  | .commentLessBangDash text => inCommentLessBangDash text c
  | .commentLessBangDashDash text => inCommentEnd text c
  | .commentEndDash text => inCommentEndDash text c
  | .commentEnd text => inCommentEnd text c
  | .commentEndBang text => inCommentEndBang text c
  | .beforeDoctype => inBeforeDoctype c
  | .doctypeName doctype name => inDoctypeName doctype name c
  | .afterDoctypeName doctype seen => inAfterDoctypeName doctype seen c
  | .afterKeyword kind doctype => inAfterKeyword kind doctype c
  | .doctypeId kind mark doctype id => inDoctypeId kind mark doctype id c
  | .afterDoctypeId kind doctype => inAfterDoctypeId kind doctype c
  | .bogusDoctype doctype => inBogusDoctype doctype c
  | .cdata => inCdata c
  | .cdataBracket => inCdataBracket c
  | .cdataEnd => inCdataEnd c

/-- The tokens of what is left when the text ends. Tags that are not finished are dropped. -/
def leftover : State → List Token
  | .reference .text seen => (settle .text seen).2
  | .reference .escapable seen => (settle .escapable seen).2
  | .tagOpen => chars "<"
  | .endTagOpen => chars "</"
  | .rawLess .nestedScript => []
  | .rawLess _ => chars "<"
  | .rawEndOpen _ => chars "</"
  | .rawEndName _ seen => chars "</" ++ chars seen
  | .declaration seen => [.comment (String.ofList seen)]
  | .bogusComment text | .comment text | .commentLess text | .commentLessBang text
  | .commentLessBangDash text | .commentLessBangDashDash text | .commentEndDash text
  | .commentEnd text | .commentEndBang text => [.comment text]
  | .commentStart | .commentStartDash => [.comment ""]
  | .beforeDoctype => [.doctype (broken .blank)]
  | .doctypeName doctype name => [.doctype (broken { doctype with name := some name })]
  | .afterDoctypeName doctype _ | .afterKeyword _ doctype => [.doctype (broken doctype)]
  | .doctypeId kind _ doctype id => [.doctype (broken (withId kind doctype id))]
  | .afterDoctypeId _ doctype => [.doctype (broken doctype)]
  | .bogusDoctype doctype => [.doctype doctype]
  | .cdataBracket => chars "]"
  | .cdataEnd => chars "]]"
  | _ => []

/-! ## The scanner -/

/-- A scanner at the beginning of a text. -/
def start : Scanner := ⟨.text, ""⟩

/-- The name of the last start tag after some tokens. -/
def lastName (last : String) (tokens : List Token) : String :=
  tokens.foldl (fun last token => match token with | .startTag tag => tag.name | _ => last) last

/-- Takes one character. -/
def feed (foreign : Bool) (scanner : Scanner) (c : Char) : Scanner × List Token :=
  let (state, tokens) := step foreign scanner.last scanner.state c
  (⟨state, lastName scanner.last tokens⟩, tokens)

/-- The tokens of what is left when the text ends. -/
def stop (scanner : Scanner) : List Token := leftover scanner.state

/-- The scanner after a text outside foreign elements, and the tokens of the text. -/
def scan (scanner : Scanner) : List Char → Scanner × List Token
  | [] => (scanner, [])
  | c :: cs =>
    let (next, tokens) := scanner.feed false c
    let (final, more) := scan next cs
    (final, tokens ++ more)

theorem scan_append (scanner : Scanner) (s t : List Char) :
    scanner.scan (s ++ t) =
      (((scanner.scan s).1.scan t).1, (scanner.scan s).2 ++ ((scanner.scan s).1.scan t).2) := by
  induction s generalizing scanner with
  | nil => simp [scan]
  | cons c cs ih => simp [scan, ih]

end Scanner

/-! ## The characters of a text -/

/-- A text with each line end as one line feed. -/
def unifyLines : List Char → List Char
  | '\r' :: '\n' :: rest => '\n' :: unifyLines rest
  | '\r' :: rest => '\n' :: unifyLines rest
  | c :: rest => c :: unifyLines rest
  | [] => []

/-- The characters that are scanned of a text. -/
def sourceChars (html : String) : List Char := unifyLines html.toList

end PageEdit.Html
