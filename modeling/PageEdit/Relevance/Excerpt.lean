import PageEdit.Html.Build.Reader
import PageEdit.Html.Markup
import PageEdit.Outline.Basic

/-!
# Sections taken out of a page

Every element that marks a section gives an excerpt, whether or not it stands in another section. Excerpts
come in the order in which reading made their elements.

* `excerpts_ids`: the identifiers of the excerpts are the marks of the elements in that order.
-/

namespace PageEdit.Relevance

/-- What one point of a score is worth. -/
inductive Worth where
  | whole
  | half
  /-- Three tenths. -/
  | slight
  deriving Repr, DecidableEq, Inhabited

/-- What a point is worth in tenths. -/
def Worth.tenths : Worth → Nat
  | .whole => 10
  | .half => 5
  | .slight => 3

/-- A score is counted in points. -/
structure Score where
  points : Nat
  worth : Worth
  deriving Repr, DecidableEq, Inhabited

namespace Score

/-- No points. -/
def zero : Score := ⟨0, .whole⟩

/-- A score in tenths. -/
def tenths (s : Score) : Nat := s.points * s.worth.tenths

/-- A score as a double: the points times the double nearest to what one is worth. -/
def toFloat (s : Score) : Float := Float.ofNat s.points * (Float.ofNat s.worth.tenths / 10)

end Score

/-- A section as it stands in a page, and what a request may find in it. -/
structure Excerpt where
  id : String
  markup : String
  /-- The labels of its elements, in their order. -/
  elements : List String
  /-- The beginning of its text. -/
  text : String
  /-- The classes of its elements, in their order. -/
  classes : List String
  score : Score
  deriving Repr, DecidableEq, Inhabited

/-- The excerpt of the section that a node marks. -/
def Excerpt.ofNode (id : String) (n : Html.Node) : Excerpt :=
  { id
    markup := n.outerMarkup
    elements := Order.sortedSet (n.elements.map (·.label))
    text := Text.cut textLimit n.textContent
    classes := Order.sortedSet (n.elements.flatMap (·.classes))
    score := .zero }

/-- The excerpt of the section that an element marks, if it does. -/
def Excerpt.ofPlace? (p : Html.Place) : Option Excerpt :=
  (p.element?.bind (·.section?)).map (.ofNode · p.node)

/-- The excerpts of a document. -/
def excerptsOf (doc : Html.Document) : List Excerpt := doc.elementPlaces.filterMap Excerpt.ofPlace?

/-- The excerpts of a page. -/
def excerpts (html : String) : List Excerpt := excerptsOf (.ofHtml html)

theorem excerpts_ids (doc : Html.Document) :
    (excerptsOf doc).map (·.id) =
      doc.elementPlaces.filterMap fun p => p.element?.bind (·.section?) := by
  simp only [excerptsOf, List.map_filterMap]
  congr 1
  funext p
  simp only [Excerpt.ofPlace?, Option.map_map]
  cases p.element?.bind (·.section?) <;> simp [Excerpt.ofNode]

/-! ## Listing -/

/-- An excerpt under a comment that names its section. -/
def Excerpt.listing (x : Excerpt) : String :=
  "<!-- section: " ++ x.id ++ " -->\n" ++ x.markup

/-- Excerpts one after the other, with empty lines between them. -/
def listing (excerpts : List Excerpt) : String :=
  String.intercalate "\n\n" (excerpts.map Excerpt.listing)

end PageEdit.Relevance
