import PageEdit.Json.Decode
import PageEdit.Relevance.Excerpt

/-!
# Hits

A hit says where in a page something was found and how well it fits. Hits come from a ranking of sections
or from any other search.
-/

namespace PageEdit

/-- What a hit points at. -/
inductive HitKind where
  /-- A run of text. -/
  | run
  /-- An element. -/
  | element
  /-- A section. -/
  | wholeSection
  deriving Repr, DecidableEq, Inhabited

/-- The names of the kinds. -/
def HitKind.names : List (String × HitKind) :=
  [("text", .run), ("structure", .element), ("section", .wholeSection)]

/-- The name of a kind. -/
def HitKind.name : HitKind → String
  | .run => "text"
  | .element => "structure"
  | .wholeSection => "section"

/-- A hit. -/
structure Hit where
  /-- The entry that was hit. -/
  nodeId : Option String
  sectionId : Option String
  selector : Option String
  kind : HitKind
  /-- The text that was hit. -/
  content : String
  score : Float

namespace Hit

/-- A hit of which nothing is known. -/
def blank : Hit := ⟨none, none, none, .run, "", 0⟩

/-- The section of a hit, if it names one. -/
def section? (h : Hit) : Option String := h.sectionId.filter (!·.isEmpty)

/-- The hit of an excerpt. -/
def ofExcerpt (x : Relevance.Excerpt) : Hit :=
  { nodeId := none
    sectionId := some x.id
    selector := some (sectionSelector x.id)
    kind := .wholeSection
    content := x.text
    score := x.score.toFloat }

end Hit

/-! ## Reading -/

open Json (Decoder)

/-- Reads a hit. Everything may be absent. -/
def Hit.decode (score : Decoder Float) : Decoder Hit :=
  Decoder.record "SearchResult"
    [.mayHave "node_id" (.optional .text) fun v h => { h with nodeId := v },
     .mayHave "section_id" (.optional .text) fun v h => { h with sectionId := v },
     .mayHave "selector" (.optional .text) fun v h => { h with selector := v },
     .mayHave "type" (.variant HitKind.names) fun v h => { h with kind := v },
     .mayHave "content" .text fun v h => { h with content := v },
     .mayHave "score" score fun v h => { h with score := v }]
    .blank

end PageEdit
