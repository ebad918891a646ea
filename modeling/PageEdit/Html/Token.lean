/-!
# Tokens of HTML

What an HTML text is cut into: characters, tags, comments and document types. A reader of tokens also
learns of some faults, as they end the place where a line feed is dropped.
-/

namespace PageEdit.Html

/-- A start tag. Its attributes are in the order of the text, each name once. -/
structure Tag where
  name : String
  attrs : List (String × String)
  selfClosing : Bool
  deriving Repr, DecidableEq, Inhabited

/-- A document type. `broken` holds if the text of the declaration breaks off or has foreign parts. -/
structure Doctype where
  name : Option String
  publicId : Option String
  systemId : Option String
  broken : Bool
  deriving Repr, DecidableEq, Inhabited

/-- The document type before anything of it is read. -/
def Doctype.blank : Doctype := ⟨none, none, none, false⟩

/-- A token. -/
inductive Token where
  /-- A character of text. -/
  | char (c : Char)
  /-- The character U+0000 where text may not have it. -/
  | null
  | startTag (tag : Tag)
  | endTag (name : String)
  | comment (text : String)
  | doctype (doctype : Doctype)
  /-- Something that stands for nothing. -/
  | fault
  deriving Repr, DecidableEq, Inhabited

end PageEdit.Html
