import PageEdit.Outline.Basic
import PageEdit.Json.Printer
import PageEdit.Json.Decode

/-!
# Outlines as JSON

The members of each record are written in a fixed order. Entries can also be read; all that an entry
need have is its identifier and its tag.
-/

namespace PageEdit.Outline

open Json (Value Decoder)

/-- A text or null. -/
def optText : Option String → Value
  | some s => .text s
  | none => .null

/-- A list of texts. -/
def texts (items : List String) : Value := .list (items.map .text)

/-- A natural number. -/
def count (n : Nat) : Value := .number (.natural n)

def Entry.toJson (e : Entry) : Value :=
  .object
    [("node_id", .text e.id), ("section_id", optText e.sectionId), ("tag", .text e.tag),
     ("classes", texts e.classes), ("selector", .text e.selector), ("path", .text e.path),
     ("html", .text e.markup), ("text_content", .text e.text), ("children", texts e.children),
     ("parent", optText e.parent),
     ("attributes", .object (e.attributes.map fun (k, v) => (k, .text v)))]

def Run.toJson (r : Run) : Value :=
  .object
    [("node_id", .text r.id), ("selector", .text r.selector), ("path", .text r.path),
     ("text", .text r.text), ("section_id", optText r.sectionId),
     ("parent_node_id", .text r.parent)]

def Section.toJson (s : Section) : Value :=
  .object
    [("section_id", .text s.id), ("description", .text s.description),
     ("node_ids", texts s.entries), ("html_size", count s.size), ("text_preview", .text s.preview)]

/-- An outline with its counts. -/
def toJson (o : Outline) : Value :=
  .object
    [("nodes", .list (o.entries.map Entry.toJson)),
     ("text_nodes", .list (o.runs.map Run.toJson)),
     ("section_index", .object (o.sectionIndex.map fun (id, ids) => (id, texts ids))),
     ("sections", .list (o.sections.map Section.toJson)),
     ("total_nodes", count o.entries.length),
     ("total_text_nodes", count o.runs.length),
     ("total_sections", count o.sectionIndex.length),
     ("html_size", count o.size)]

/-- Reads an entry. -/
def Entry.decode : Decoder Entry :=
  Decoder.record "AstNode"
    [.need "node_id" .text fun v e => { e with id := v },
     .mayHave "section_id" (.optional .text) fun v e => { e with sectionId := v },
     .need "tag" .text fun v e => { e with tag := v },
     .mayHave "classes" (.list .text) fun v e => { e with classes := v },
     .mayHave "selector" .text fun v e => { e with selector := v },
     .mayHave "path" .text fun v e => { e with path := v },
     .mayHave "html" .text fun v e => { e with markup := v },
     .mayHave "text_content" .text fun v e => { e with text := v },
     .mayHave "children" (.list .text) fun v e => { e with children := v },
     .mayHave "parent" (.optional .text) fun v e => { e with parent := v },
     .mayHave "attributes" (.members .text) fun v e => { e with attributes := v }]
    default

end PageEdit.Outline
