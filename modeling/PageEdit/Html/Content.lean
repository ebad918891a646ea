import PageEdit.Html.Place
import PageEdit.Order.Distinct
import PageEdit.Text.Blank

/-!
# The text and classes of an element

The text of an element is made of the runs in it that are not all blank, each without the blanks at
its ends. Scripts, styles and what stands in for scripts are never read, nor is the content of
templates.

* `Element.classes_nodup`: a class is listed once.
-/

namespace PageEdit.Html

/-- The classes of an element, each once. -/
def Element.classes (e : Element) : List String :=
  Order.distinct (Text.splitAsciiBlanks ((e.attr? "class").getD ""))

theorem Element.classes_nodup (e : Element) : e.classes.Nodup :=
  Order.distinct_nodup _

namespace Node

mutual

/-- The runs of text in a node, trimmed and without those that are blank. -/
def runs : Node → List String
  | .text s => let s := Text.trim s; if s.isEmpty then [] else [s]
  | .element e children => if isSkipped e.label then [] else runsAll children
  | _ => []

/-- The runs of text in some nodes. -/
def runsAll : List Node → List String
  | [] => []
  | n :: rest => runs n ++ runsAll rest

end

/-- The text of an element: its runs with spaces between them. -/
def textContent (n : Node) : String := String.intercalate " " n.runs

end Node

end PageEdit.Html
