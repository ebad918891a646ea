import PageEdit.Proofs.Toml.Integers
import PageEdit.Proofs.Toml.Lines
import PageEdit.Shell.Disk
import PageEdit.Shell.Run

/-!
# Settings that are shown

Settings are read back from the text that they are written as, if their numbers are less than `2^63`. The
numbers of settings that were read are, so what is shown of them can be read again and means the same.

* `ofText?_fits`: the numbers of settings that are read are less than `2^63`.
* `ofText?_toText`: settings are read as they are written.
* `shown_settings_are_loaded`: what is shown of settings gives these settings.
-/

namespace PageEdit.Settings

open Toml Shell

/-! ## Numbers in a text -/

/-- The numbers of settings are such as an integer in a text can be. -/
structure Fits (s : Settings) : Prop where
  budget : s.context.budget < Nat.pow 2 63
  sectionLimit : s.sectionLimit < Nat.pow 2 63
  hitLimit : s.hitLimit < Nat.pow 2 63

theorem limits_ofToml?_fits {v : Value} (hv : v.Fits) :
    Gives (ContextLimits.ofToml? v) fun limits => limits.budget < Nat.pow 2 63 := by
  refine gives_bind (readNatural_lt hv (by decide)) fun budget hbudget => ?_
  refine gives_bind (gives_true _) fun withParents _ => ?_
  exact gives_bind (gives_true _) fun withSiblings _ => gives_some hbudget

theorem ofToml?_fits {v : Value} (hv : v.Fits) : Gives (ofToml? v) Fits := by
  refine gives_bind (readField_gives hv (fun _ => limits_ofToml?_fits) (by decide)) fun context hcontext => ?_
  have hnumber (part : String) (partPlace : Nat) (name : String) {standing : Nat} (h : standing < Nat.pow 2 63) :
      Gives (v.readField part partPlace (·.readField name 0 Value.asNatural? standing) standing)
        fun n => n < Nat.pow 2 63 :=
    readField_gives hv (fun _ hw => readNatural_lt hw h) h
  refine gives_bind (hnumber "relevance" 1 "max_sections" (by decide)) fun sectionLimit hsection => ?_
  refine gives_bind (hnumber "search" 2 "max_results" (by decide)) fun hitLimit hhit => ?_
  exact gives_some ⟨hcontext, hsection, hhit⟩

theorem ofText?_fits (text : String) : Gives (ofText? text) Fits :=
  gives_bind (Value.ofText?_fits text) fun _ => ofToml?_fits

/-! ## Settings as lines -/

theorem isWord_boolText (b : Bool) : IsWord (boolText b) (.bool b) := by
  cases b with
  | false => exact ⟨by decide, by simp [boolText, scalar?]⟩
  | true => exact ⟨by decide, by simp [boolText, scalar?]⟩

variable {s : Settings}

theorem toText_eq_lines (s : Settings) :
    s.toText = headerLine "context" ++ (valueLine "max_context_size" (toString s.context.budget) ++
      (valueLine "include_parents" (boolText s.context.withParents) ++
      (valueLine "include_siblings" (boolText s.context.withSiblings) ++ ("\n" ++
      (headerLine "relevance" ++ (valueLine "max_sections" (toString s.sectionLimit) ++ ("\n" ++
      (headerLine "search" ++ valueLine "max_results" (toString s.hitLimit))))))))) := by
  unfold toText headerLine valueLine
  rw [← String.toList_inj]
  simp

/-- What settings are written as. -/
def statements (s : Settings) : List Statement :=
  [.header [] "context", .assign [] "max_context_size" (.integer s.context.budget),
    .assign [] "include_parents" (.bool s.context.withParents),
    .assign [] "include_siblings" (.bool s.context.withSiblings), .header [] "relevance",
    .assign [] "max_sections" (.integer s.sectionLimit), .header [] "search",
    .assign [] "max_results" (.integer s.hitLimit)]

theorem reads_toText (h : s.Fits) {more : String} (hmore : Reads more []) :
    Reads (s.toText ++ more) s.statements := by
  rw [toText_eq_lines]
  simp only [String.append_assoc]
  refine .header (by decide) (.assignment (by decide) (isWord_toString h.budget) ?_)
  refine .assignment (by decide) (isWord_boolText _) ?_
  refine .assignment (by decide) (isWord_boolText _) (.lineEnd ?_)
  refine .header (by decide) (.assignment (by decide) (isWord_toString h.sectionLimit) (.lineEnd ?_))
  exact .header (by decide) (.assignment (by decide) (isWord_toString h.hitLimit) hmore)

theorem ofToml?_statements (s : Settings) : (Value.ofStatements? s.statements >>= ofToml?) = some s := by
  rfl

/-- Settings are read as they are written, with or without an empty line behind them. -/
theorem ofText?_toText (h : s.Fits) {more : String} (hmore : Reads more []) :
    ofText? (s.toText ++ more) = some s := by
  rw [ofText?, Value.ofText?_of_reads (reads_toText h hmore), ofToml?_statements]

/-- A number from `2^63` on is no integer of a text, so the bound is needed. -/
theorem ofText?_toText_iff : ofText? s.toText = some s ↔ s.Fits := by
  refine ⟨ofText?_fits s.toText s, fun h => ?_⟩
  rw [← String.append_empty (s := s.toText)]
  exact ofText?_toText h reads_empty

/-! ## The command that shows settings -/

section

variable {σ α β : Type} {p p' : Printed} {d d' : σ}

/-- Work goes on from where its first part has left off. -/
theorem run_bind_of_ok {x : Work (StateM σ) α} {f : α → Work (StateM σ) β} {a : α}
    (h : x.run.run p d = ((.ok a, p'), d')) : (x >>= f).run.run p d = (f a).run.run p' d' := by
  simp only [ExceptT.run, StateT.run, bind, ExceptT.bind, ExceptT.mk, StateT.bind] at h ⊢
  rw [h]
  rfl

/-- What the machine does prints nothing. -/
theorem run_lift {x : StateM σ α} {a : α} (h : x d = (a, d')) :
    (liftM x : Work (StateM σ) α).run.run p d = ((.ok a, p), d') := by
  change ((Except.ok (x d).1, p), (x d).2) = _
  rw [h]

variable {host : Host (StateM σ)} {text : String}

theorem run_readSettings (hread : host.readText host.settingsPath d = (.ok text, d'))
    (hload : load text = .ok s) : (readSettings host).run.run p d = ((.ok s, p), d') := by
  rw [readSettings, run_bind_of_ok (run_lift hread)]
  simp only [hload]
  rfl

/-- The settings of a file are shown as their text and an empty line. -/
theorem run_show (hread : host.readText host.settingsPath d = (.ok text, d')) (hload : load text = .ok s) :
    run host ["config", "show"] d = (.done ⟨s.toText ++ "\n", ""⟩, d') := by
  have hcommand : Command.ofArguments ["config", "show"] = .ok .showSettings := by rfl
  have hwork : (work host .showSettings).run.run ⟨"", ""⟩ d =
      ((.ok (), ⟨s.toText ++ "\n", ""⟩), d') := by
    rw [work, run_bind_of_ok (run_readSettings hread hload),
      ← String.empty_append (s := s.toText ++ "\n")]
    rfl
  rw [run, hcommand]
  simp only [bind, StateT.bind, hwork]
  rfl

end

/-- A file on a disk is read as the text that its bytes spell. -/
theorem readText_of_read {disk : Disk} {home path text : String} {bytes : List UInt8}
    (hbytes : disk.read home path = .ok bytes) (htext : Text.Utf8.decode bytes = .ok text) :
    (Disk.host home).readText path disk = (.ok text, disk) := by
  simp only [Host.readText, Disk.host, bind, StateT.bind, hbytes, htext]
  rfl

/-- Settings that can be used are loaded from their text if their numbers are at most `2^63 - 1`, and what is
shown of the settings in a file, on any machine, is loaded as these settings. -/
theorem shown_settings_are_loaded :
    (∀ s : Settings, s.check = .ok s → s.Fits → load s.toText = .ok s) ∧
    ∀ (σ : Type) (host : Host (StateM σ)) (text : String) (s : Settings) (d d' : σ),
      host.readText host.settingsPath d = (.ok text, d') → load text = .ok s →
        ∃ shown, run host ["config", "show"] d = (.done ⟨shown, ""⟩, d') ∧ load shown = .ok s := by
  constructor
  · intro s hcheck hfits
    exact load_eq_ok_iff.mpr ⟨ofText?_toText_iff.mpr hfits, hcheck⟩
  · intro σ host text s d d' hread hload
    obtain ⟨htext, hcheck⟩ := load_eq_ok_iff.mp hload
    have hfits : s.Fits := ofText?_fits text s htext
    have hempty : Reads "\n" [] := reads_empty.lineEnd
    have hagain : ofText? (s.toText ++ "\n") = some s := ofText?_toText hfits hempty
    exact ⟨s.toText ++ "\n", run_show hread hload, load_eq_ok_iff.mpr ⟨hagain, hcheck⟩⟩

/-- A file with dotted keys, a comment and the greatest number. -/
theorem shown_settings_are_loaded_of_file :
    let s : Settings := ⟨⟨8000, true, true⟩, 5, 9223372036854775807⟩
    let text := "context.include_siblings = true\nsearch.max_results = 9223372036854775807 # most\n"
    let disk := Disk.empty.put [".pagewright", "pagewright.toml"] (Text.Utf8.encode text)
    load s.toText = .ok s ∧
      ∃ shown, run (Disk.host "home") ["config", "show"] disk = (.done ⟨shown, ""⟩, disk) ∧
        load shown = .ok s := by
  intro s text disk
  have hload : load text = .ok s := load_eq_ok_iff.mpr ⟨by decide +kernel, rfl⟩
  have hread : (Disk.host "home").readText (Disk.host "home").settingsPath disk = (.ok text, disk) := by
    have hbytes : disk.read "home" (Disk.host "home").settingsPath = .ok (Text.Utf8.encode text) := by
      decide +kernel
    have htext : Text.Utf8.decode (Text.Utf8.encode text) = .ok text := by decide +kernel
    exact readText_of_read hbytes htext
  exact ⟨shown_settings_are_loaded.1 s rfl ⟨by decide, by decide, by decide⟩,
    shown_settings_are_loaded.2 Disk (Disk.host "home") text s disk disk hread hload⟩

end PageEdit.Settings
