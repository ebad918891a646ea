import PageEdit.Json.Decode
import PageEdit.Json.Value

/-!
# Settings

What a user can set: the budget of a context and what it draws in, how many sections a ranking has, and how
many hits a search gives. All of it has defaults.

* `Settings.check_eq_ok_iff`: settings pass exactly if neither the budget nor the section limit is zero.
-/

namespace PageEdit

/-- What may go into a context. -/
structure ContextLimits where
  /-- The most bytes of markup. -/
  budget : Nat
  /-- Whether the sections around those that were hit are drawn in. -/
  withParents : Bool
  /-- Whether the sections beside those that were hit are drawn in. -/
  withSiblings : Bool
  deriving Repr, DecidableEq

/-- Settings. -/
structure Settings where
  context : ContextLimits
  /-- The most sections in a ranking. -/
  sectionLimit : Nat
  /-- The most hits of a search. -/
  hitLimit : Nat
  deriving Repr, DecidableEq

/-- The limits where none are set. -/
def ContextLimits.standard : ContextLimits := ⟨8000, true, false⟩

/-- The settings where none are made. -/
def Settings.standard : Settings := ⟨.standard, 5, 10⟩

/-- Why settings cannot be used. -/
inductive SettingsFault where
  | noBudget
  | noSections
  deriving Repr, DecidableEq

/-- The wording of a fault. -/
def SettingsFault.message : SettingsFault → String
  | .noBudget => "context.max_context_size must be greater than zero"
  | .noSections => "relevance.max_sections must be greater than zero"

namespace Settings

/-- The settings, if they can be used. -/
def check (s : Settings) : Except SettingsFault Settings :=
  if s.context.budget = 0 then .error .noBudget
  else if s.sectionLimit = 0 then .error .noSections
  else .ok s

theorem check_eq_ok_iff {s t : Settings} :
    s.check = .ok t ↔ t = s ∧ 0 < s.context.budget ∧ 0 < s.sectionLimit := by
  unfold check
  split
  · simp_all
  · split
    · simp_all
    · rename_i hb hs
      simp only [Except.ok.injEq, Nat.pos_of_ne_zero hb, Nat.pos_of_ne_zero hs, and_self, and_true]
      exact eq_comm

end Settings

/-! ## Reading -/

open Json (Decoder)

/-- Reads the limits of a context, in the place of standing ones. -/
def ContextLimits.decode : Decoder ContextLimits :=
  Decoder.record "ContextConfig"
    [.mayHave "max_context_size" .natural fun n l => { l with budget := n },
     .mayHave "include_parents" .bool fun b l => { l with withParents := b },
     .mayHave "include_siblings" .bool fun b l => { l with withSiblings := b }]
    .standard

/-- Reads settings. What is not there has its default. -/
def Settings.decode : Decoder Settings :=
  Decoder.record "AppConfig"
    [.mayHave "context" ContextLimits.decode fun l s => { s with context := l },
     .mayHave "relevance"
        (Decoder.record "RelevanceConfig" [.mayHave "max_sections" .natural fun n _ => n]
          Settings.standard.sectionLimit)
        fun n s => { s with sectionLimit := n },
     .mayHave "search"
        (Decoder.record "SearchConfig" [.mayHave "max_results" .natural fun n _ => n]
          Settings.standard.hitLimit)
        fun n s => { s with hitLimit := n }]
    .standard

end PageEdit
