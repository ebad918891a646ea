import PageEdit.Html.Document
import PageEdit.Html.Escape

/-!
# Writing a document with revisions

A document is written back as it was read, except for the elements that a table of revisions changes.
Markup that a revision brings is written as it is. The content of templates is not written.

* `Document.write`: the text of a document under a table of revisions.
* `Node.writeAll_append`: what is written of some nodes is that of its parts.
-/

namespace PageEdit.Html

/-- What becomes of the content of an element. -/
inductive ContentRevision where
  | keep
  /-- Text in place of the content. -/
  | text (text : String)
  /-- Markup in place of the content. -/
  | markup (markup : String)
  /-- Markup after the content. -/
  | append (markup : String)
  /-- Markup before the content. -/
  | prepend (markup : String)
  deriving Repr, DecidableEq, Inhabited

/-- What becomes of an element. -/
structure Revision where
  /-- Whether the element and all that is in it goes. -/
  remove : Bool
  /-- The attributes that it has instead of its own. -/
  attributes : Option (List (String × String))
  content : ContentRevision
  deriving Repr, DecidableEq, Inhabited

/-- The revision that changes nothing. -/
def Revision.none : Revision := ⟨false, Option.none, .keep⟩

/-- The revisions of elements, by their numbers. -/
abbrev Revisions := Nat → Option Revision

/-- Labels of elements whose text is written as it is. -/
def verbatimLabels : List String :=
  ["script", "style", "xmp", "iframe", "noembed", "noframes", "noscript"]

/-- An attribute in a start tag. -/
def writeAttr (attr : String × String) : String :=
  " " ++ attr.1 ++ "=\"" ++ escape valueEscapes attr.2 ++ "\""

/-- A start tag. -/
def writeStart (label : String) (attrs : List (String × String)) : String :=
  "<" ++ label ++ String.join (attrs.map writeAttr) ++ ">"

/-- An end tag. -/
def writeEnd (label : String) : String := "</" ++ label ++ ">"

/-- Text in an element that has been given new text. -/
def writeText (text : String) : String := escape textEscapes text

/-- The content of an element under a revision, given how it is written without one. -/
def ContentRevision.write (kept : String) : ContentRevision → String
  | .keep => kept
  | .text s => writeText s
  | .markup m => m
  | .append m => kept ++ m
  | .prepend m => m ++ kept

/-- An element under its revision, given how its content is written without one. -/
def Element.write (e : Element) (revision : Option Revision) (kept : String) : String :=
  let r := revision.getD .none
  if r.remove then ""
  else
    let start := writeStart e.label (r.attributes.getD e.attributes)
    if isVoid e.label then start else start ++ r.content.write kept ++ writeEnd e.label

namespace Node

mutual

/-- A node under some revisions, given whether its text is written as it is. -/
def write (revisions : Revisions) (verbatim : Bool) : Node → String
  | .doctype name => "<!DOCTYPE " ++ name ++ ">"
  | .comment s => "<!--" ++ s ++ "-->"
  | .text s => if verbatim then s else writeText s
  | .fragment _ => ""
  | .element e children =>
    e.write (revisions e.id) (writeAll revisions (verbatimLabels.contains e.label) children)

/-- Some nodes under some revisions. -/
def writeAll (revisions : Revisions) (verbatim : Bool) : List Node → String
  | [] => ""
  | n :: rest => write revisions verbatim n ++ writeAll revisions verbatim rest

end

theorem writeAll_append (revisions : Revisions) (verbatim : Bool) (a b : List Node) :
    writeAll revisions verbatim (a ++ b) =
      writeAll revisions verbatim a ++ writeAll revisions verbatim b := by
  induction a with
  | nil => simp [writeAll]
  | cons n rest ih => simp [writeAll, ih, String.append_assoc]

end Node

/-- A document under some revisions. -/
def Document.write (revisions : Revisions) (doc : Document) : String :=
  Node.writeAll revisions false doc.nodes

end PageEdit.Html
