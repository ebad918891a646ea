import PageEdit.Settings.Basic
import PageEdit.Toml.Reader

/-!
# Settings as text

Settings are kept as TOML with a table for each part. What the text leaves out has its default, and what
it gives beyond them is passed over.

* `Settings.load_eq_ok_iff`: a text can be loaded if it is read as settings that can be used.
-/

namespace PageEdit

open Toml (Value)

/-- Reads the limits of a context. -/
def ContextLimits.ofToml? (v : Value) : Option ContextLimits := do
  let standing := ContextLimits.standard
  let budget ← v.readField "max_context_size" 0 Value.asNatural? standing.budget
  let withParents ← v.readField "include_parents" 1 Value.asBool? standing.withParents
  let withSiblings ← v.readField "include_siblings" 2 Value.asBool? standing.withSiblings
  return { budget, withParents, withSiblings }

namespace Settings

/-- Reads settings. -/
def ofToml? (v : Value) : Option Settings := do
  let context ← v.readField "context" 0 ContextLimits.ofToml? .standard
  let sectionLimit ← v.readField "relevance" 1
    (·.readField "max_sections" 0 Value.asNatural? standard.sectionLimit) standard.sectionLimit
  let hitLimit ← v.readField "search" 2
    (·.readField "max_results" 0 Value.asNatural? standard.hitLimit) standard.hitLimit
  return { context, sectionLimit, hitLimit }

/-- The settings that a text gives. -/
def ofText? (text : String) : Option Settings := Value.ofText? text >>= ofToml?

/-- A truth value as text. -/
def boolText (b : Bool) : String := if b then "true" else "false"

/-- Settings as text. -/
def toText (s : Settings) : String :=
  "[context]\nmax_context_size = " ++ toString s.context.budget ++
    "\ninclude_parents = " ++ boolText s.context.withParents ++
    "\ninclude_siblings = " ++ boolText s.context.withSiblings ++
    "\n\n[relevance]\nmax_sections = " ++ toString s.sectionLimit ++
    "\n\n[search]\nmax_results = " ++ toString s.hitLimit ++ "\n"

/-- Why settings cannot be had from a text. -/
inductive TextFault where
  /-- The text is not TOML or gives values of the wrong kind. -/
  | unreadable
  | unusable (fault : SettingsFault)
  deriving Repr, DecidableEq

/-- The settings of a text, if they can be used. -/
def load (text : String) : Except TextFault Settings :=
  match ofText? text with
  | none => .error .unreadable
  | some s => s.check.mapError .unusable

theorem load_eq_ok_iff {text : String} {s : Settings} :
    load text = .ok s ↔ ofText? text = some s ∧ s.check = .ok s := by
  unfold load
  cases ofText? text with
  | none => simp
  | some t =>
    have hok : t.check.mapError TextFault.unusable = .ok s ↔ t.check = .ok s := by
      cases t.check with
      | error fault => exact iff_of_false nofun nofun
      | ok u => exact ⟨fun h => by cases h; rfl, fun h => by cases h; rfl⟩
    rw [hok]
    constructor
    · intro h
      obtain rfl := (check_eq_ok_iff.mp h).1
      exact ⟨rfl, h⟩
    · rintro ⟨⟨⟩, h⟩
      exact h

/-- The wording of a fault of the settings in a file. -/
def TextFault.message (path : String) : TextFault → String
  | .unreadable => "config error: failed to parse " ++ path
  | .unusable fault => "config error: " ++ fault.message

end Settings

end PageEdit
