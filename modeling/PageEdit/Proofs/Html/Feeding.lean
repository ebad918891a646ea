import PageEdit.Html.Build.Reader
import PageEdit.Proofs.Html.Leaving

/-!
# From characters to rules

Between the characters of a text and the rules for its tokens stand the scanner, the dropping of a byte order mark or
a line feed, and the reading of a token over again. None of these shows where the scanner finds one token at a time
and the builder is settled among its open elements.

* `Reader.foldl_feed_emits`, `Reader.foldl_feed_takes`: a tag or comment, and text.
* `Builder.Settled`: a builder that has nothing left to do but for text of a table that has no place yet.
* `Builder.Settled.read_eq`, `Builder.Settled.takes_text`: what is read of them.
-/

namespace PageEdit.Html.Build

open Scanner (Passes Emits)
open Text (isAsciiBlank)

variable {b c : Builder} {s t : Scanner} {token : Token} {tokens : List Token} {cs : List Char}

/-- What a rule asks of the scanner. -/
def Next.state? : Next → Option State
  | .scan state => some state
  | _ => none

theorem Next.done_ne_again : Next.done ≠ .again := by decide

theorem Next.scan_ne_again (state : State) : Next.scan state ≠ .again := by
  intro h
  cases h

/-! ## Characters -/

namespace Builder

/-- A builder that drops no byte order mark. -/
def unmarked (b : Builder) : Builder := { b with skipMark := false }

theorem unmarked_of_skipMark (h : b.skipMark = false) : b.unmarked = b := by
  cases b
  obtain rfl := h
  rfl

/-- Tokens that a builder reads one after the other, with text that is not foreign all the way. -/
inductive Takes : Builder → List Token → Builder → Prop
  | nil {b : Builder} (hforeign : b.currentIsForeign = false) (hmark : b.skipMark = false) : Takes b [] b
  | cons {b c d : Builder} {token : Token} {rest : List Token} (hforeign : b.currentIsForeign = false)
      (hmark : b.skipMark = false) (hread : b.read token = (c, none)) (hrest : Takes c rest d) :
      Takes b (token :: rest) d

namespace Takes

theorem before (h : Takes b tokens c) : b.currentIsForeign = false ∧ b.skipMark = false := by
  cases h with
  | nil hforeign hmark | cons hforeign hmark => exact ⟨hforeign, hmark⟩

theorem of_append {front rest : List Token} (h : Takes b (front ++ rest) c) :
    ∃ m, Takes b front m ∧ Takes m rest c := by
  induction front generalizing b with
  | nil => exact ⟨b, .nil h.before.1 h.before.2, h⟩
  | cons token front ih =>
    cases h with
    | cons hforeign hmark hread hrest =>
      obtain ⟨m, hfront, hrest⟩ := ih hrest
      exact ⟨m, .cons hforeign hmark hread hfront, hrest⟩

end Takes

end Builder

namespace Reader

open Builder (Takes)

theorem feed_of_unmarked (h : b.skipMark = false) (ch : Char) :
    feed ⟨s, b⟩ ch =
      (s.feed b.currentIsForeign ch).2.foldl readToken ⟨(s.feed b.currentIsForeign ch).1, b⟩ := by
  have hfeed : feed ⟨s, b⟩ ch =
      if b.skipMark && ch == '\uFEFF' then ⟨s, b.unmarked⟩
      else (s.feed b.currentIsForeign ch).2.foldl readToken ⟨(s.feed b.currentIsForeign ch).1, b.unmarked⟩ := rfl
  rw [hfeed, h, Bool.false_and, if_neg Bool.false_ne_true, Builder.unmarked_of_skipMark h]

/-- Text that does not begin with a byte order mark is read as if none were dropped. -/
theorem foldl_feed_unmarked (hne : cs ≠ []) (hmark : cs.head? ≠ some '\uFEFF') :
    cs.foldl feed ⟨s, b⟩ = cs.foldl feed ⟨s, b.unmarked⟩ := by
  obtain ⟨ch, rest, rfl⟩ := List.exists_cons_of_ne_nil hne
  have hch : (ch == '\uFEFF') = false := by simpa using hmark
  have hfeed : feed ⟨s, b⟩ ch =
      if b.skipMark && ch == '\uFEFF' then ⟨s, b.unmarked⟩
      else (s.feed b.currentIsForeign ch).2.foldl readToken ⟨(s.feed b.currentIsForeign ch).1, b.unmarked⟩ := rfl
  rw [List.foldl_cons, List.foldl_cons, hfeed, hch, Bool.and_false, if_neg Bool.false_ne_true,
    feed_of_unmarked (b := b.unmarked) rfl]
  rfl

theorem foldl_feed_passes (hmark : b.skipMark = false) (h : Passes s cs t) : cs.foldl feed ⟨s, b⟩ = ⟨t, b⟩ := by
  induction h with
  | nil => rfl
  | cons hc _ ih => rw [List.foldl_cons, feed_of_unmarked hmark, hc, List.foldl_nil, ih]

/-- A token that the scanner finds is read once. -/
theorem foldl_feed_emits (h : Emits s cs token t) (hmark : cs.head? ≠ some '\uFEFF') :
    cs.foldl feed ⟨s, b⟩ = readToken ⟨t, b.unmarked⟩ token := by
  obtain ⟨front, ch, m, rfl, hpass, hch⟩ := h
  rw [foldl_feed_unmarked (by simp) hmark, List.foldl_append, foldl_feed_passes rfl hpass, List.foldl_cons,
    feed_of_unmarked rfl, hch]
  rfl

theorem foldl_readToken_takes (h : Takes b tokens c) : tokens.foldl readToken ⟨s, b⟩ = ⟨s, c⟩ := by
  induction h with
  | nil => rfl
  | cons _ _ hread _ ih =>
    rw [List.foldl_cons, readToken]
    simp only [hread, Option.getD_none]
    exact ih

/-- Text from which the scanner finds some tokens is read as these tokens. -/
theorem foldl_feed_takes (h : Takes b tokens c) (hscan : s.scan cs = (t, tokens)) :
    cs.foldl feed ⟨s, b⟩ = ⟨t, c⟩ := by
  induction cs generalizing s b tokens with
  | nil =>
    obtain ⟨rfl, rfl⟩ := Prod.mk.inj hscan
    cases h
    rfl
  | cons ch rest ih =>
    have hparts : ((s.feed false ch).1.scan rest).1 = t ∧
        (s.feed false ch).2 ++ ((s.feed false ch).1.scan rest).2 = tokens := Prod.mk.inj hscan
    obtain ⟨rfl, rfl⟩ := hparts
    obtain ⟨m, hfirst, hrest⟩ := h.of_append
    rw [List.foldl_cons, feed_of_unmarked h.before.2, h.before.1, foldl_readToken_takes hfirst]
    exact ih hrest rfl

end Reader

/-! ## Tokens -/

namespace Builder

variable {path : List String}

/-- A builder that drops no line feed. -/
def unlined (b : Builder) : Builder := { b with skipLine := false }

/-- A table with text put last in a node. -/
def layText (arena : Arena) (parent : Nat) (text : List Char) : Arena :=
  text.foldl (fun arena c => arena.appendChar parent c) arena

/-- A builder as the rules for the next tag or comment find it: text of a table has been put in its place. -/
def ready (b : Builder) : Builder :=
  if b.mode = .inTableText then
    { b.unlined with arena := layText b.arena b.current.id b.tableText, tableText := [], mode := b.home }
  else b.unlined

/-- A builder among certain open elements that has nothing left to do but for text of a table. -/
structure Settled (path : List String) (b : Builder) : Prop where
  steady : Steady path b.ready
  waiting : b.mode = .inTableText → b.tableText.all isAsciiBlank = true ∧ modeIn path ∈ rowModes

theorem ready_of_ne (h : b.mode ≠ .inTableText) : b.ready = b.unlined := if_neg h

theorem ready_stack (b : Builder) : b.ready.stack = b.stack := by
  rw [ready]
  split <;> rfl

theorem ready_current (b : Builder) : b.ready.current = b.current := by rw [current, ready_stack, current]

theorem ready_skipLine (b : Builder) : b.ready.skipLine = false := by
  rw [ready]
  split <;> rfl

theorem ready_fostering (b : Builder) : b.ready.fostering = b.fostering := by
  rw [ready]
  split <;> rfl

theorem ready_unmarked (b : Builder) : b.unmarked.ready = b.ready.unmarked := by
  have hsame : b.unmarked.mode = b.mode := rfl
  by_cases hmode : b.mode = .inTableText
  · rw [ready, ready, if_pos hmode, if_pos (hsame.trans hmode)]
    rfl
  · rw [ready, ready, if_neg hmode, if_neg (hsame ▸ hmode)]
    rfl

theorem core_withArena (h : b.core = c.core) (arena : Arena) : { b with arena }.core = { c with arena }.core := by
  obtain ⟨-, hrest⟩ := core_eq_iff.mp h
  exact core_eq_iff.mpr ⟨rfl, hrest⟩

theorem current_of_core {arena : Arena} (h : c.ready.core = { b.ready with arena }.core) : c.current = b.current := by
  have hstack : c.ready.stack = b.ready.stack := (core_eq_iff.mp h).2.1
  rw [current, current, ← ready_stack c, hstack, ready_stack]

theorem ready_unlined (b : Builder) : b.unlined.ready = b.ready := rfl

theorem modeIn_ne_tableText (path : List String) : modeIn path ≠ .inTableText := by
  intro heq
  have hmem := modeIn_mem path
  rw [heq] at hmem
  exact absurd hmem (by decide)

theorem Steady.mode_ne (h : Steady path b) : b.mode ≠ .inTableText := h.mode ▸ modeIn_ne_tableText path

theorem Steady.settled (h : Steady path b) : Settled path b := by
  refine ⟨?_, fun hmode => absurd hmode h.mode_ne⟩
  rw [ready_of_ne h.mode_ne]
  exact h.of_core rfl

theorem Steady.core_ready (h : Steady path b) : b.ready.core = b.core := by
  rw [ready_of_ne h.mode_ne]
  rfl

theorem Steady.not_foreign (h : Steady path b) : b.currentIsForeign = false := by
  rw [currentIsForeign, h.current_name]
  simp [Name.html]

theorem isForeign_of_not (h : b.currentIsForeign = false) (token : Token) : b.isForeign token = false := by
  have hnot : (!b.currentIsForeign) = true := by rw [h]; rfl
  exact if_pos hnot

theorem IsDirect.foldl_insertChar (h : b.IsDirect) (text : List Char) :
    text.foldl Builder.insertChar b = { b with arena := layText b.arena b.current.id text } := by
  induction text generalizing b with
  | nil => rfl
  | cons c rest ih =>
    have hnext : { b with arena := b.arena.appendChar b.current.id c }.IsDirect := ⟨h.fostering, h.current⟩
    rw [List.foldl_cons, h.insertChar, ih hnext]
    rfl

namespace Settled

theorem unmarked (h : Settled path b) : Settled path b.unmarked :=
  ⟨by rw [ready_unmarked]; exact h.steady.of_core rfl, h.waiting⟩

theorem unlined (h : Settled path b) : Settled path b.unlined :=
  ⟨by rw [ready_unlined]; exact h.steady, h.waiting⟩

theorem not_foreign (h : Settled path b) : b.currentIsForeign = false := by
  have hready := h.steady.not_foreign
  rwa [currentIsForeign, ready_stack, ready_current] at hready

theorem isDirect (h : Settled path b) : b.IsDirect := by
  obtain ⟨hfostering, hcurrent⟩ := h.steady.isDirect
  rw [ready_fostering] at hfostering
  rw [ready_current] at hcurrent
  exact ⟨hfostering, hcurrent⟩

theorem flush (h : Settled path b) (hmode : b.mode = .inTableText) :
    { b.unlined.flushTableText with mode := b.home } = b.ready := by
  have hdirect : { b.unlined with tableText := [] }.IsDirect := ⟨h.isDirect.fostering, h.isDirect.current⟩
  have hflush : b.unlined.flushTableText =
      if b.tableText.all isAsciiBlank then b.tableText.foldl insertChar { b.unlined with tableText := [] }
      else b.tableText.foldl (fun b c => (b.fosterInBody (.char c)).1) { b.unlined with tableText := [] } := rfl
  rw [hflush, if_pos (h.waiting hmode).1, hdirect.foldl_insertChar, ready, if_pos hmode]
  rfl

end Settled

/-! ## Markup -/

theorem readWithin_succ {next : Next} (hforeign : b.currentIsForeign = false)
    (hrule : b.inMode b.mode token = (c, next)) (hnext : next ≠ .again) (bound : Nat) :
    readWithin (bound + 1) b token = (c, next.state?) := by
  simp only [readWithin, isForeign_of_not hforeign, Bool.false_eq_true, if_false, hrule]
  cases next with
  | again => exact absurd rfl hnext
  | _ => rfl

theorem readWithin_succ_again (hforeign : b.currentIsForeign = false) (hrule : b.inMode b.mode token = (c, .again))
    (bound : Nat) : readWithin (bound + 1) b token = readWithin bound c token := by
  simp only [readWithin, isForeign_of_not hforeign, Bool.false_eq_true, if_false, hrule]

theorem exists_bound (b : Builder) : ∃ bound, b.bound = bound + 1 + 1 := ⟨4 * (b.stack.length + 7) + 2, rfl⟩

/-- Whether a token is a tag or a comment. -/
def isMarkup : Token → Bool
  | .startTag _ | .endTag _ | .comment _ => true
  | _ => false

namespace Settled

theorem read_eq (h : Settled path b) (hmarkup : isMarkup token = true) {next : Next}
    (hrule : b.ready.inMode b.ready.mode token = (c, next)) (hnext : next ≠ .again) :
    b.read token = (c, next.state?) := by
  have hforeign : b.unlined.currentIsForeign = false := h.not_foreign
  obtain ⟨bound, hbound⟩ := exists_bound b.unlined
  have hread : b.read token = readWithin (bound + 1 + 1) b.unlined token := by
    rw [← hbound]
    cases token with
    | startTag | endTag | comment => rfl
    | _ => cases hmarkup
  rw [hread]
  by_cases hmode : b.mode = .inTableText
  · have hagain : b.unlined.inMode b.unlined.mode token = (b.ready, .again) := by
      have hcurrent : b.unlined.mode = .inTableText := hmode
      rw [← h.flush hmode, hcurrent]
      cases token with
      | startTag | endTag | comment => rfl
      | _ => cases hmarkup
    rw [readWithin_succ_again hforeign hagain, readWithin_succ h.steady.not_foreign hrule hnext]
  · rw [ready_of_ne hmode] at hrule
    rw [readWithin_succ hforeign hrule hnext]

end Settled

/-! ## Text -/

/-- What reading a character of text comes to. -/
def Puts (path : List String) (b : Builder) (ch : Char) (c : Builder) : Prop :=
  Settled path c ∧ c.skipLine = b.skipLine ∧ c.skipMark = b.skipMark ∧
    c.ready.core = { b.ready with arena := b.ready.arena.appendChar b.current.id ch }.core

/-- The text of a table goes on. -/
theorem Settled.puts_waiting (h : Settled path b) (hmode : b.mode = .inTableText) {ch : Char}
    (hfits : charFitsIn path ch = true) : Puts path b ch { b with tableText := b.tableText ++ [ch] } := by
  obtain ⟨hblank, hrows⟩ := h.waiting hmode
  have hch : isAsciiBlank ch = true := (h.steady.inMode_char_rows hfits hrows).2
  have hready : { b with tableText := b.tableText ++ [ch] }.ready =
      { b.ready with arena := b.ready.arena.appendChar b.current.id ch } := by
    have hcurrent : { b with tableText := b.tableText ++ [ch] }.mode = .inTableText := hmode
    rw [ready, ready, if_pos hcurrent, if_pos hmode, layText, List.foldl_append]
    rfl
  refine ⟨⟨?_, fun _ => ⟨?_, hrows⟩⟩, rfl, rfl, by rw [hready]⟩
  · rw [hready]
    exact h.steady.withArena _
  · simp [hblank, hch]

/-- The text of a table begins. -/
theorem Steady.puts_waiting (h : Steady path b) (hrows : modeIn path ∈ rowModes) {ch : Char}
    (hch : isAsciiBlank ch = true) :
    Puts path b ch { b with home := b.mode, mode := .inTableText, tableText := [ch] } := by
  have hready : { b with home := b.mode, mode := .inTableText, tableText := [ch] }.ready =
      { b.unlined with home := b.mode, tableText := [], arena := b.arena.appendChar b.current.id ch } := rfl
  have hcore : { b with arena := b.arena.appendChar b.current.id ch }.core =
      { b.unlined with home := b.mode, tableText := [], arena := b.arena.appendChar b.current.id ch }.core := by
    rw [core_eq_iff]
    simp [unlined, h.tableText]
  refine ⟨⟨?_, fun _ => ⟨by simp [hch], hrows⟩⟩, rfl, rfl, ?_⟩
  · rw [hready]
    exact (h.withArena _).of_core hcore
  · rw [hready, ready_of_ne h.mode_ne]
    exact hcore.symm

theorem Steady.puts_of_adds (h : Steady path b) {ch : Char} {outcome : Outcome}
    (hadds : Adds b (b.arena.appendChar b.current.id ch) outcome) : Puts path b ch outcome.1 := by
  obtain ⟨-, hcore, hline, hmark⟩ := hadds
  have hafter := (h.withArena _).of_core hcore.symm
  refine ⟨hafter.settled, hline, hmark, ?_⟩
  rw [hafter.core_ready, hcore, ready_of_ne h.mode_ne]
  rfl

theorem read_char_eq {ch : Char} (hline : b.skipLine = true → ch ≠ '\n') :
    b.read (.char ch) = readWithin b.unlined.bound b.unlined (.char ch) := by
  have hskip : (b.skipLine && ch == '\n') = false := by
    cases hb : b.skipLine with
    | false => rfl
    | true => simpa using hline hb
  simp only [read, hskip, Bool.false_eq_true, if_false]
  rfl

namespace Settled

/-- A character of text goes into the innermost open element, at once or with the text of a table. -/
theorem read_char (h : Settled path b) {ch : Char} (hfits : charFitsIn path ch = true)
    (hline : b.skipLine = true → ch ≠ '\n') :
    ∃ c, b.read (.char ch) = (c, none) ∧ Puts path b.unlined ch c := by
  have hforeign : b.unlined.currentIsForeign = false := h.not_foreign
  obtain ⟨bound, hbound⟩ := exists_bound b.unlined
  rw [read_char_eq hline, hbound]
  by_cases hmode : b.mode = .inTableText
  · have hrule : b.unlined.inMode b.unlined.mode (.char ch) =
        ({ b.unlined with tableText := b.unlined.tableText ++ [ch] }, .done) := by
      have hcurrent : b.unlined.mode = .inTableText := hmode
      rw [hcurrent]
      rfl
    have hsettled : Settled path b.unlined := h.unlined
    exact ⟨_, readWithin_succ hforeign hrule Next.done_ne_again _, hsettled.puts_waiting hmode hfits⟩
  · have hsteady : Steady path b.unlined := ready_of_ne hmode ▸ h.steady
    by_cases hrows : modeIn path ∈ rowModes
    · obtain ⟨hwait, hch⟩ := hsteady.inMode_char_rows hfits hrows
      have hrule : { b.unlined with home := b.mode, mode := .inTableText }.inMode .inTableText (.char ch) =
          ({ b.unlined with home := b.mode, mode := .inTableText, tableText := b.unlined.tableText ++ [ch] },
            .done) := rfl
      rw [hsteady.tableText] at hrule
      have hwaiting : { b.unlined with home := b.mode, mode := .inTableText }.currentIsForeign = false := hforeign
      refine ⟨_, ?_, hsteady.puts_waiting hrows hch⟩
      rw [readWithin_succ_again hforeign hwait]
      exact readWithin_succ hwaiting hrule Next.done_ne_again _
    · have hadds := hsteady.adds_char hfits hrows
      generalize hrule : b.unlined.inMode b.unlined.mode (.char ch) = outcome at hadds
      obtain ⟨c, next⟩ := outcome
      obtain rfl : next = .done := hadds.1
      exact ⟨c, readWithin_succ hforeign hrule Next.done_ne_again _, hsteady.puts_of_adds hadds⟩

/-- Text goes into the innermost open element, where it fits and no line feed is dropped. -/
theorem takes_text (h : Settled path b) (hmark : b.skipMark = false) {text : List Char}
    (hfits : ∀ ch ∈ text, charFitsIn path ch = true) (hline : b.skipLine = true → text.head? ≠ some '\n') :
    ∃ c, Takes b (text.map .char) c ∧ Settled path c ∧ (c.skipLine = true → b.skipLine = true ∧ text = []) ∧
      c.ready.core = { b.ready with arena := layText b.ready.arena b.current.id text }.core := by
  induction text generalizing b with
  | nil => exact ⟨b, .nil h.not_foreign hmark, h, fun hskip => ⟨hskip, rfl⟩, rfl⟩
  | cons ch rest ih =>
    have hfirst : b.skipLine = true → ch ≠ '\n' := fun hskip => by simpa using hline hskip
    obtain ⟨m, hread, hm, hskip, hmark', hcore⟩ := h.read_char (hfits ch (.head _)) hfirst
    have hno : m.skipLine = false := hskip
    obtain ⟨c, htakes, hc, hend, hrest⟩ := ih hm (hmark'.trans hmark) (fun d hd => hfits d (.tail _ hd))
      fun heq => by rw [hno] at heq; cases heq
    refine ⟨c, .cons h.not_foreign hmark hread htakes, hc, fun heq => ?_, ?_⟩
    · rw [(hend heq).1] at hno
      cases hno
    · have harena : m.ready.arena = b.ready.arena.appendChar b.current.id ch := (core_eq_iff.mp hcore).1
      rw [hrest, core_withArena hcore, harena, current_of_core hcore]
      rfl

/-- A tag or comment is read by the rules of the mode, after text of a table has been put in its place. -/
theorem foldl_feed_markup (h : Settled path b) (hemits : Emits s cs token t) (hmark : cs.head? ≠ some '\uFEFF')
    (hmarkup : isMarkup token = true) {next : Next}
    (hrule : b.ready.unmarked.inMode b.ready.mode token = (c, next)) (hnext : next ≠ .again) :
    cs.foldl Reader.feed ⟨s, b⟩ = ⟨{ t with state := next.state?.getD t.state }, c⟩ := by
  have hread : b.unmarked.read token = (c, next.state?) := by
    refine h.unmarked.read_eq hmarkup ?_ hnext
    rw [ready_unmarked]
    exact hrule
  rw [Reader.foldl_feed_emits hemits hmark, Reader.readToken]
  simp only [hread]

end Settled

/-! ## Raw text -/

/-- Where text is raw all of it goes into the innermost open element. -/
theorem takes_raw (hdirect : b.IsDirect) (hmode : b.mode = .text) (hforeign : b.currentIsForeign = false)
    (hmark : b.skipMark = false) {text : List Char} (hline : b.skipLine = true → text.head? ≠ some '\n') :
    ∃ line, Takes b (text.map .char) { b with arena := layText b.arena b.current.id text, skipLine := line } := by
  induction text generalizing b with
  | nil => exact ⟨b.skipLine, .nil hforeign hmark⟩
  | cons ch rest ih =>
    have hread : b.read (.char ch) =
        ({ b.unlined with arena := b.arena.appendChar b.current.id ch }, none) := by
      have hfirst : b.skipLine = true → ch ≠ '\n' := fun hskip => by simpa using hline hskip
      obtain ⟨bound, hbound⟩ := exists_bound b.unlined
      rw [read_char_eq hfirst, hbound]
      have hquiet : b.unlined.IsDirect := ⟨hdirect.fostering, hdirect.current⟩
      have hforeign : b.unlined.currentIsForeign = false := hforeign
      have hrule : b.unlined.inMode b.unlined.mode (.char ch) =
          ({ b.unlined with arena := b.arena.appendChar b.current.id ch }, .done) := by
        have hcurrent : b.unlined.mode = .text := hmode
        have hinsert : b.unlined.inMode .text (.char ch) = (b.unlined.insertChar ch).done := rfl
        rw [hcurrent, hinsert, hquiet.insertChar]
        rfl
      exact readWithin_succ hforeign hrule Next.done_ne_again _
    have hnext : { b.unlined with arena := b.arena.appendChar b.current.id ch }.IsDirect :=
      ⟨hdirect.fostering, hdirect.current⟩
    obtain ⟨line, hrest⟩ := ih hnext hmode hforeign hmark nofun
    exact ⟨line, .cons hforeign hmark hread hrest⟩

end Builder

end PageEdit.Html.Build
