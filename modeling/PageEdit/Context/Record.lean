import PageEdit.Context.Assemble
import PageEdit.Outline.Record

/-!
# Contexts as JSON

The members of each record are written in a fixed order, the fragments in the order of their admission.
-/

namespace PageEdit

open Json (Value)
open Outline (optText count texts)

/-- A matched hit as JSON. -/
def MatchedHit.toJson (m : MatchedHit) : Value :=
  .object
    [("node_id", optText m.nodeId), ("section_id", .text m.sectionId),
     ("score", .number (.float m.score)), ("type", .text m.kind.name)]

/-- The members of a context. -/
def Context.members (c : Context) : List (String × Value) :=
  [("html_fragments", .object (c.fragments.map fun (id, markup) => (id, .text markup))),
   ("total_size", count c.size),
   ("sections_included", texts c.included),
   ("nodes_matched", .list (c.matched.map MatchedHit.toJson))]

/-- What is handed to a generator as JSON. -/
def Assembled.toJson : Assembled → Value
  | .fragments c => .object (("mode", .text "fragments") :: c.members)
  | .wholePage html reason =>
    .object [("mode", .text "full_document"), ("html", .text html), ("reason", .text reason.name)]

end PageEdit
