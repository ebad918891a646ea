import PageEdit.Proofs.Html.Feeding
import PageEdit.Proofs.Html.Ordering

/-!
# What is written is read back

A plain tree that is written and read again where it stood is put in the table as it was: the scanner finds its tags,
comments and text, the rules do nothing but open and close its elements, and the builder is left as it was but for
the table.

* `Builder.Yields`: reading some characters among certain open elements.
* `Builder.yieldsAll`: the induction on the trees.
-/

namespace PageEdit.Html

open Scanner (Emits)

/-! ## Tags -/

namespace Element

variable {e : Element} {last : String}

theorem isPlain_of_isSpelled (h : e.isSpelled = true) : e.ordered.isPlain = true :=
  (Bool.and_eq_true_iff.mp h).1

theorem emits_start (h : e.isSpelled = true) :
    Emits ⟨.text, last⟩ (writeStart e.label e.attributes).toList (.startTag e.tag) ⟨.text, e.label⟩ := by
  obtain ⟨hplain, hnames⟩ := Bool.and_eq_true_iff.mp h
  simp only [isPlain, Bool.and_eq_true, List.all_eq_true] at hplain
  -- putting the attributes in order has lost none of them
  have hattrs : ∀ a ∈ e.attributes, Scanner.keepsAttr a = true := fun a ha =>
    hplain.1.1.2 a ((attributes_ordered_perm hnames).mem_iff.mpr ha)
  exact Scanner.emits_writeStart hplain.1.1.1.2 hattrs (of_decide_eq_true hnames)

theorem emits_end (h : e.isSpelled = true) :
    Emits ⟨.text, last⟩ (writeEnd e.label).toList (.endTag e.label) ⟨.text, last⟩ := by
  have hplain := isPlain_of_isSpelled h
  simp only [isPlain, Bool.and_eq_true] at hplain
  exact Scanner.emits_writeEnd hplain.1.1.1.2

theorem name_of_isSpelled (h : e.isSpelled = true) : e.name = .html e.label := by
  have hplain := isPlain_of_isSpelled h
  simp only [isPlain, Bool.and_eq_true, beq_iff_eq] at hplain
  exact hplain.1.1.1.1

theorem head?_writeStart (label : String) (attrs : List (String × String)) :
    (writeStart label attrs).toList.head? = some '<' := by
  simp [Scanner.toList_writeStart]

theorem head?_writeEnd (label : String) : (writeEnd label).toList.head? = some '<' := by
  simp [writeEnd]

end Element

namespace Build

namespace Builder

variable {path : List String} {b c : Builder} {cs ds : List Char} {arena arena' : Arena}

/-! ## Reading among open elements -/

/-- What reading some characters among certain open elements comes to: all is as before but for the table. -/
def Yields (path : List String) (b : Builder) (cs : List Char) (arena : Arena) : Prop :=
  ∀ last, ∃ last' c, cs.foldl Reader.feed ⟨⟨.text, last⟩, b⟩ = ⟨⟨.text, last'⟩, c⟩ ∧ Settled path c ∧
    c.ready.core = { b.ready with arena }.core ∧ (c.skipLine = true → b.skipLine = true ∧ cs = [])

theorem Settled.yields_nil (h : Settled path b) : Yields path b [] b.ready.arena :=
  fun last => ⟨last, b, rfl, h, rfl, fun hskip => ⟨hskip, rfl⟩⟩

theorem Yields.append (h : Yields path b cs arena)
    (h' : ∀ c, Settled path c → c.ready.core = { b.ready with arena }.core →
      (c.skipLine = true → b.skipLine = true ∧ cs = []) → Yields path c ds arena') :
    Yields path b (cs ++ ds) arena' := by
  intro last
  obtain ⟨middle, m, hfirst, hm, hcore, hskip⟩ := h last
  obtain ⟨last', c, hrest, hc, hcore', hskip'⟩ := h' m hm hcore hskip middle
  refine ⟨last', c, by rw [List.foldl_append, hfirst, hrest], hc, ?_, fun hline => ?_⟩
  · rw [hcore', core_withArena hcore]
  · obtain ⟨hm, rfl⟩ := hskip' hline
    obtain ⟨hb, rfl⟩ := hskip hm
    exact ⟨hb, rfl⟩

/-! ## Text and comments -/

theorem head?_escapeChars (text : List Char) (h : text.head? ≠ some '\uFEFF') :
    (escapeChars textEscapes text).head? ≠ some '\uFEFF' := by
  cases text with
  | nil => exact h
  | cons c cs =>
    have happend : escapeChars textEscapes (c :: cs) = escapeChars textEscapes [c] ++ escapeChars textEscapes cs :=
      escapeChars_append textEscapes [c] cs
    rcases Scanner.escapeChars_text c with ⟨heq, -⟩ | ⟨name, -, heq⟩
    · rw [happend, heq]
      exact h
    · rw [happend, heq]
      simp

theorem escapeChars_ne_nil {text : List Char} (h : text ≠ []) : escapeChars textEscapes text ≠ [] := by
  obtain ⟨c, cs, rfl⟩ := List.exists_cons_of_ne_nil h
  have happend : escapeChars textEscapes (c :: cs) = escapeChars textEscapes [c] ++ escapeChars textEscapes cs :=
    escapeChars_append textEscapes [c] cs
  rcases Scanner.escapeChars_text c with ⟨heq, -⟩ | ⟨name, -, heq⟩ <;> rw [happend, heq] <;> simp

theorem Settled.yields_text (h : Settled path b) {text : String} (hkeeps : Node.keepsText text = true)
    (hfits : ∀ ch ∈ text.toList, charFitsIn path ch = true)
    (hline : b.skipLine = true → text.toList.head? ≠ some '\n') :
    Yields path b (writeText text).toList (b.ready.arena.lay b.current.id (.text text)) := by
  simp only [Node.keepsText, Bool.and_eq_true, bne_iff_ne, Bool.not_eq_true', List.contains_eq_mem,
    decide_eq_false_iff_not] at hkeeps
  obtain ⟨⟨hne, hnul⟩, hmark⟩ := hkeeps
  have hchars : text.toList ≠ [] := by simpa using hne
  have hwritten : (writeText text).toList = escapeChars textEscapes text.toList := by simp [writeText, escape]
  intro last
  obtain ⟨c, htakes, hc, hskip, hcore⟩ := h.unmarked.takes_text rfl hfits hline
  refine ⟨last, c, ?_, hc, ?_, fun heq => absurd (hskip heq).2 hchars⟩
  · rw [hwritten, Reader.foldl_feed_unmarked (escapeChars_ne_nil hchars) (head?_escapeChars _ hmark)]
    exact Reader.foldl_feed_takes htakes (Scanner.scan_escaped _ hnul)
  · rw [hcore, ready_unmarked]
    rfl

theorem Settled.yields_of_adds (h : Settled path b) {token : Token} (hmarkup : isMarkup token = true)
    (hemits : ∀ last, ∃ last', Emits ⟨.text, last⟩ cs token ⟨.text, last'⟩) (hhead : cs.head? = some '<')
    (hadds : Adds b.ready.unmarked arena (b.ready.unmarked.inMode b.ready.mode token)) : Yields path b cs arena := by
  intro last
  obtain ⟨last', hemits⟩ := hemits last
  obtain ⟨hdone, hcore, hline, -⟩ := hadds
  generalize hrule : b.ready.unmarked.inMode b.ready.mode token = outcome at hdone hcore hline
  obtain ⟨c, next⟩ := outcome
  obtain rfl : next = .done := hdone
  have hsteady : Steady path c := (h.steady.withArena arena).of_core hcore.symm
  have hnone : c.skipLine = false := hline.trans (ready_skipLine b)
  refine ⟨last', c, ?_, hsteady.settled, hsteady.core_ready.trans hcore, fun heq => ?_⟩
  · exact h.foldl_feed_markup hemits (by rw [hhead]; decide) hmarkup hrule Next.done_ne_again
  · rw [hnone] at heq
    cases heq

theorem Settled.yields_comment (h : Settled path b) {text : String} (hkeeps : Scanner.keepsComment text = true) :
    Yields path b ("<!--" ++ text ++ "-->").toList (b.ready.arena.lay b.current.id (.comment text)) := by
  have hsteady : Steady path b.ready.unmarked := h.steady.of_core rfl
  have hadds := hsteady.adds_comment text
  have hcurrent : b.ready.unmarked.current = b.current := ready_current b
  rw [hcurrent] at hadds
  exact h.yields_of_adds rfl (fun last => ⟨last, Scanner.emits_comment hkeeps⟩) (by simp) hadds

/-! ## Elements -/

variable {e : Element} {children : List Node}

theorem core_unmarked_withArena (b : Builder) (arena : Arena) : { b.unmarked with arena }.core = { b with arena }.core :=
  rfl

/-- The table with the element of a written start tag last in the innermost open element. -/
theorem opened_ready (he : e.isSpelled = true) (b : Builder) :
    b.ready.unmarked.opened e.tag =
      (b.ready.arena.makeElement e.name e.ordered.attrs).1.append b.current.id b.ready.arena.size := by
  have hname : Name.html e.tag.name = e.name := (Element.name_of_isSpelled he).symm
  rw [opened, hname, ← ready_current b]
  rfl

theorem Settled.yields_void (h : Settled path b) (he : e.isSpelled = true) (hvoid : isVoid e.label = true)
    (hfits : voidFitsIn path e.label = true) :
    Yields path b (writeStart e.label e.attributes).toList (b.ready.arena.lay b.current.id (.element e.ordered [])) := by
  have hsteady : Steady path b.ready.unmarked := h.steady.of_core rfl
  have hadds : Adds b.ready.unmarked (b.ready.unmarked.opened e.tag)
      (b.ready.unmarked.inMode b.ready.mode (.startTag e.tag)) := hsteady.adds_void hfits hvoid
  have hopened : b.ready.unmarked.opened e.tag = b.ready.arena.lay b.current.id (.element e.ordered []) := by
    rw [opened_ready he, Arena.lay]
    rfl
  rw [hopened] at hadds
  exact h.yields_of_adds rfl (fun last => ⟨_, Element.emits_start he⟩) (Element.head?_writeStart _ _) hadds

/-- Content that is put in an element whose start tag has been read makes it the whole element. -/
theorem layAll_opened (he : e.isSpelled = true) {inside : Builder}
    (harena : inside.arena = b.ready.unmarked.opened e.tag) (hid : inside.current.id = b.ready.arena.size) :
    inside.arena.layAll inside.current.id children = b.ready.arena.lay b.current.id (.element e.ordered children) := by
  rw [harena, hid, opened_ready he, Arena.lay]
  rfl

/-- The start tag of an element with content goes into it. -/
theorem Settled.foldl_feed_start (h : Settled path b) (he : e.isSpelled = true) (hvoid : isVoid e.label = false)
    (hraw : rawKind? e.label = none) (hfits : fitsIn path e.label = true) (last : String) :
    ∃ inside, (writeStart e.label e.attributes).toList.foldl Reader.feed ⟨⟨.text, last⟩, b⟩ =
        ⟨⟨.text, e.label⟩, inside⟩ ∧
      Steady (e.label :: path) inside ∧
      inside.core = ({ b.ready.unmarked with arena := b.ready.unmarked.opened e.tag }.enter b.ready.arena.size e.tag).core ∧
      (inside.skipLine = true → Node.dropsLine e.label = true) := by
  have hsteady : Steady path b.ready.unmarked := h.steady.of_core rfl
  have henters : Enters b.ready.unmarked e.tag (b.ready.unmarked.inMode b.ready.mode (.startTag e.tag)) :=
    hsteady.enters hfits hvoid hraw
  generalize hstart : b.ready.unmarked.inMode b.ready.mode (.startTag e.tag) = outcome at henters
  obtain ⟨inside, next⟩ := outcome
  obtain ⟨hdone, hinside, hdrops⟩ := henters
  obtain rfl : next = .done := hdone
  have hin : Steady (e.label :: path) inside :=
    ((hsteady.withArena _).entered _ (ne_template_of_fitsIn hfits)).of_core hinside.symm
  have hnodrop : b.ready.unmarked.skipLine = false := ready_skipLine b
  refine ⟨inside, ?_, hin, hinside, fun hskip => (hdrops hskip).resolve_left ?_⟩
  · exact h.foldl_feed_markup (Element.emits_start he) (by rw [Element.head?_writeStart]; decide) rfl hstart
      Next.done_ne_again
  · rw [hnodrop]
    exact Bool.false_ne_true

/-- The end tag of an element with content goes out of it again. -/
theorem Settled.foldl_feed_end {s filled : Builder} {id : Nat} (h : Settled (e.label :: path) filled)
    (hs : Steady path s) (hin : filled.ready.core = (s.enter id e.tag).core) (he : e.isSpelled = true)
    (hvoid : isVoid e.label = false) (hfits : fitsIn path e.label = true) (last : String) :
    ∃ c, (writeEnd e.label).toList.foldl Reader.feed ⟨⟨.text, last⟩, filled⟩ = ⟨⟨.text, last⟩, c⟩ ∧ Steady path c ∧
      c.core = s.core ∧ c.skipLine = false := by
  have hinside : filled.ready.unmarked.core = (s.enter id e.tag).core := hin
  have hleaves : Leaves s filled.ready.unmarked (filled.ready.unmarked.inMode filled.ready.mode (.endTag e.tag.name)) :=
    hs.leaves hinside hfits hvoid
  generalize hend : filled.ready.unmarked.inMode filled.ready.mode (.endTag e.tag.name) = outcome at hleaves
  obtain ⟨c, next⟩ := outcome
  obtain ⟨hdone, hc, hskip⟩ := hleaves
  obtain rfl : next = .done := hdone
  have hnodrop : filled.ready.unmarked.skipLine = false := ready_skipLine filled
  refine ⟨c, ?_, hs.of_core hc.symm, hc, ?_⟩
  · exact h.foldl_feed_markup (Element.emits_end he) (by rw [Element.head?_writeEnd]; decide) rfl hend
      Next.done_ne_again
  · by_contra hline
    rw [hskip (by simpa using hline)] at hnodrop
    cases hnodrop

/-- An element with content is read back if its content is. -/
theorem Settled.yields_element (h : Settled path b) (he : e.isSpelled = true) (hvoid : isVoid e.label = false)
    (hraw : rawKind? e.label = none) (hfits : fitsIn path e.label = true)
    (hcontent : ∀ c, Settled (e.label :: path) c → (c.skipLine = true → Node.dropsLine e.label = true) →
      Yields (e.label :: path) c cs (c.ready.arena.layAll c.current.id children)) :
    Yields path b ((writeStart e.label e.attributes).toList ++ cs ++ (writeEnd e.label).toList)
      (b.ready.arena.lay b.current.id (.element e.ordered children)) := by
  intro last
  have hsteady : Steady path b.ready.unmarked := h.steady.of_core rfl
  obtain ⟨inside, hopen, hin, hinside, hline⟩ := h.foldl_feed_start he hvoid hraw hfits last
  obtain ⟨last', filled, hfold, hfilled, hcore, -⟩ := hcontent inside hin.settled hline e.label
  have htable : inside.ready.arena.layAll inside.current.id children =
      b.ready.arena.lay b.current.id (.element e.ordered children) := by
    have hready : inside.ready.arena = inside.arena := by rw [ready_of_ne hin.mode_ne]; rfl
    obtain ⟨harena, hstack, -⟩ := core_eq_iff.mp hinside
    dsimp only [enter] at harena hstack
    rw [hready, layAll_opened he harena (by rw [current, hstack]; rfl)]
  have hout : filled.ready.core =
      ({ b.ready.unmarked with arena := b.ready.arena.lay b.current.id (.element e.ordered children) }.enter
        b.ready.arena.size e.tag).core := by
    rw [hcore, htable, core_withArena hin.core_ready, core_withArena hinside]
    rfl
  obtain ⟨c, hclose, hc, hafter, hskip⟩ :=
    hfilled.foldl_feed_end (hsteady.withArena _) hout he hvoid hfits last'
  have hcore' : c.ready.core = { b.ready with arena := b.ready.arena.lay b.current.id (.element e.ordered children) }.core := by
    rw [hc.core_ready, hafter, core_unmarked_withArena]
  refine ⟨last', c, ?_, hc.settled, hcore', fun heq => ?_⟩
  · rw [List.foldl_append, List.foldl_append, hopen, hfold, hclose]
  · rw [hskip] at heq
    cases heq

/-! ## Raw text -/

theorem facts_of_rawKind? {label : String} {kind : RawKind} (h : rawKind? label = some kind) :
    kind ≠ .nestedScript ∧ Scanner.endsRaw label = true ∧ label ≠ "template" ∧
      verbatimLabels.contains label = (kind != .escapable) := by
  have hall : ∀ l ∈ "title" :: "textarea" :: verbatimLabels, Scanner.endsRaw l = true ∧ l ≠ "template" ∧
      (rawKind? l).all (fun kind => kind != .nestedScript && verbatimLabels.contains l == (kind != .escapable)) := by
    decide +kernel
  obtain ⟨hends, htemplate, hkind⟩ := hall label (mem_of_rawKind? h)
  rw [h, Option.all_some, Bool.and_eq_true, bne_iff_ne, beq_iff_eq] at hkind
  exact ⟨hkind.1, hends, htemplate, hkind.2⟩

/-- The content of an element with raw text. -/
theorem foldl_feed_rawContent (hdirect : b.IsDirect) (hmode : b.mode = .text) (hforeign : b.currentIsForeign = false)
    {kind : RawKind} {label : String} (hkind : rawKind? label = some kind)
    (hcontent : Node.isRawContent kind label children = true)
    (hline : b.skipLine = true → Node.startsLine children = false) :
    ∃ final line mark, final ≠ .nestedScript ∧
      (Node.writeAll noRevisions (verbatimLabels.contains label) children).toList.foldl Reader.feed
          ⟨⟨.raw kind, label⟩, b⟩ =
        ⟨⟨.raw final, label⟩, { b with
          arena := b.arena.layAll b.current.id children, skipLine := line, skipMark := mark }⟩ := by
  obtain ⟨hnested, -, -, hverbatim⟩ := facts_of_rawKind? hkind
  unfold Node.isRawContent at hcontent
  split at hcontent
  · exact ⟨kind, b.skipLine, b.skipMark, hnested, rfl⟩
  · next text =>
    simp only [Node.keepsText, Bool.and_eq_true, bne_iff_ne, Bool.not_eq_true', List.contains_eq_mem,
      decide_eq_false_iff_not] at hcontent
    obtain ⟨⟨⟨hne, hnul⟩, hmark⟩, hraw⟩ := hcontent
    have hchars : text.toList ≠ [] := by simpa using hne
    have hstart : b.skipLine = true → text.toList.head? ≠ some '\n' := fun hskip => by
      simpa [Node.startsLine] using hline hskip
    have hquiet : b.unmarked.IsDirect := ⟨hdirect.fostering, hdirect.current⟩
    obtain ⟨line, htakes⟩ := takes_raw hquiet hmode hforeign rfl hstart
    by_cases hescapable : kind = .escapable
    · subst hescapable
      have hwritten : (Node.writeAll noRevisions (verbatimLabels.contains label) [.text text]).toList =
          escapeChars textEscapes text.toList := by
        rw [hverbatim]
        simp [Node.writeAll, Node.write, writeText, escape]
      refine ⟨.escapable, line, false, hnested, ?_⟩
      rw [hwritten, Reader.foldl_feed_unmarked (escapeChars_ne_nil hchars) (head?_escapeChars _ hmark),
        Reader.foldl_feed_takes htakes (Scanner.scan_escapable _ hnul)]
      rfl
    · have hkeeps : Scanner.keepsRaw kind label text = true := by simpa [hescapable] using hraw
      obtain ⟨final, hfinal, hscan⟩ := Scanner.scan_of_keepsRaw hkeeps
      have hwritten : (Node.writeAll noRevisions (verbatimLabels.contains label) [.text text]).toList =
          text.toList := by
        rw [hverbatim, bne_iff_ne.mpr hescapable]
        simp [Node.writeAll, Node.write]
      refine ⟨final, line, false, hfinal, ?_⟩
      rw [hwritten, Reader.foldl_feed_unmarked hchars hmark, Reader.foldl_feed_takes htakes hscan]
      rfl
  · cases hcontent

theorem read_rawEnd (hmode : b.mode = .text) (hforeign : b.currentIsForeign = false) (label : String) :
    b.read (.endTag label) =
      ({ b.unlined.pop with mode := b.home, skipMark := label == "script" }, none) := by
  obtain ⟨bound, hbound⟩ := exists_bound b.unlined
  have hread : b.read (.endTag label) = readWithin b.unlined.bound b.unlined (.endTag label) := rfl
  have hquiet : b.unlined.currentIsForeign = false := hforeign
  have hrule : b.unlined.inMode b.unlined.mode (.endTag label) =
      ({ b.unlined.pop with mode := b.home, skipMark := label == "script" }, .done) := by
    have hcurrent : b.unlined.mode = .text := hmode
    rw [hcurrent]
    rfl
  rw [hread, hbound]
  exact readWithin_succ hquiet hrule Next.done_ne_again _

/-- The start tag of an element with raw text opens it, and its text comes next. -/
theorem Settled.foldl_feed_rawStart (h : Settled path b) (he : e.isSpelled = true) {kind : RawKind}
    (hkind : rawKind? e.label = some kind) (hfits : rawFitsIn path e.label = true) (last : String) :
    ∃ inside, (writeStart e.label e.attributes).toList.foldl Reader.feed ⟨⟨.text, last⟩, b⟩ =
        ⟨⟨.raw kind, e.label⟩, inside⟩ ∧
      inside.core = { b.ready.unmarked with
        arena := b.ready.unmarked.opened e.tag
        stack := ⟨b.ready.arena.size, .html e.label⟩ :: b.ready.stack
        mode := .text }.core ∧
      inside.home = b.ready.mode ∧ (inside.skipLine = true → Node.dropsLine e.label = true) := by
  have hsteady : Steady path b.ready.unmarked := h.steady.of_core rfl
  have hopens : OpensRaw b.ready.unmarked e.tag kind (b.ready.unmarked.inMode b.ready.mode (.startTag e.tag)) :=
    hsteady.opens_raw hkind hfits
  generalize hstart : b.ready.unmarked.inMode b.ready.mode (.startTag e.tag) = outcome at hopens
  obtain ⟨inside, next⟩ := outcome
  obtain ⟨hscan, hinside, hhome, hdrops⟩ := hopens
  obtain rfl : next = .scan (.raw kind) := hscan
  have hnodrop : b.ready.unmarked.skipLine = false := ready_skipLine b
  refine ⟨inside, ?_, hinside, hhome, fun hskip => (hdrops hskip).resolve_left ?_⟩
  · exact h.foldl_feed_markup (Element.emits_start he) (by rw [Element.head?_writeStart]; decide) rfl hstart
      (Next.scan_ne_again _)
  · rw [hnodrop]
    exact Bool.false_ne_true

/-- The end tag that raw text ends with goes out of the element. -/
theorem foldl_feed_rawEnd {label : String} {final : RawKind} (hmode : b.mode = .text)
    (hforeign : b.currentIsForeign = false) (hfinal : final ≠ .nestedScript) (hends : Scanner.endsRaw label = true) :
    (writeEnd label).toList.foldl Reader.feed ⟨⟨.raw final, label⟩, b⟩ =
      ⟨⟨.text, label⟩, { b.unmarked.unlined.pop with mode := b.home, skipMark := label == "script" }⟩ := by
  have hown : b.unmarked.currentIsForeign = false := hforeign
  have htext : b.unmarked.mode = .text := hmode
  have hread : b.unmarked.read (.endTag label) =
      ({ b.unmarked.unlined.pop with mode := b.home, skipMark := label == "script" }, none) :=
    read_rawEnd htext hown label
  rw [Reader.foldl_feed_emits (Scanner.emits_rawEnd hfinal hends) (by rw [Element.head?_writeEnd]; decide),
    Reader.readToken]
  simp only [hread]
  rfl

/-- An element with raw text is read back if its text is. -/
theorem Settled.yields_raw (h : Settled path b) (he : e.isSpelled = true) {kind : RawKind}
    (hkind : rawKind? e.label = some kind) (hfits : rawFitsIn path e.label = true)
    (hcontent : Node.isRawContent kind e.label children = true)
    (hdrops : Node.dropsLine e.label = true → Node.startsLine children = false) :
    Yields path b ((writeStart e.label e.attributes).toList ++
        (Node.writeAll noRevisions (verbatimLabels.contains e.label) children).toList ++ (writeEnd e.label).toList)
      (b.ready.arena.lay b.current.id (.element e.ordered children)) := by
  intro last
  obtain ⟨-, hends, htemplate, -⟩ := facts_of_rawKind? hkind
  obtain ⟨inside, hopen, hinside, hhome, hskip⟩ := h.foldl_feed_rawStart he hkind hfits last
  obtain ⟨harena, hstack, hformatting, hmode, htemplates, hhead, hform, hfostering, hkeeps, hwaiting⟩ :=
    core_eq_iff.mp hinside
  dsimp only at harena hstack
  have hcurrent : inside.current = ⟨b.ready.arena.size, .html e.label⟩ := by
    rw [current, hstack]
    rfl
  have hdirect : inside.IsDirect := by
    refine ⟨hfostering.trans h.steady.fostering, ?_⟩
    rw [hcurrent]
    simpa [Name.isHtml, Name.html] using htemplate
  have hforeign : inside.currentIsForeign = false := by
    rw [currentIsForeign, hcurrent]
    simp [Name.html]
  obtain ⟨final, line, mark, hfinal, hfold⟩ :=
    foldl_feed_rawContent hdirect hmode hforeign hkind hcontent fun heq => hdrops (hskip heq)
  rw [layAll_opened he harena (by rw [hcurrent])] at hfold
  generalize hfilled : { inside with
    arena := b.ready.arena.lay b.current.id (.element e.ordered children), skipLine := line, skipMark := mark } = filled
    at hfold
  have htext : filled.mode = .text := by rw [← hfilled]; exact hmode
  have hown : filled.currentIsForeign = false := by rw [← hfilled]; exact hforeign
  have hclose := foldl_feed_rawEnd htext hown hfinal hends
  have hcore : { filled.unmarked.unlined.pop with mode := filled.home, skipMark := e.label == "script" }.core =
      { b.ready with arena := b.ready.arena.lay b.current.id (.element e.ordered children) }.core := by
    rw [← hfilled, core_eq_iff]
    exact ⟨rfl, congrArg List.tail hstack, hformatting, hhome, htemplates, hhead, hform, hfostering, hkeeps,
      hwaiting⟩
  have hafter := (h.steady.withArena _).of_core hcore.symm
  refine ⟨e.label, _, ?_, hafter.settled, hafter.core_ready.trans hcore, fun heq => absurd heq Bool.false_ne_true⟩
  rw [List.foldl_append, List.foldl_append, hopen, hfold, hclose]

/-! ## Trees -/

theorem toList_write_element (hvoid : isVoid e.label = false) :
    ((Node.element e children).write noRevisions false).toList =
      (writeStart e.label e.attributes).toList ++
        (Node.writeAll noRevisions (verbatimLabels.contains e.label) children).toList ++ (writeEnd e.label).toList := by
  have hnone : noRevisions e.id = none := rfl
  simp [Node.write, hnone, Element.write, Revision.none, hvoid, ContentRevision.write]

theorem write_ne_nil {n : Node} (h : n.ordered.isPlain path = true) : (n.write noRevisions false).toList ≠ [] := by
  cases n with
  | doctype | fragment => cases h
  | comment s => simp [Node.write]
  | text s =>
    have hne : s ≠ "" := by
      simp only [Node.ordered, Node.isPlain, Node.keepsText, Bool.and_eq_true, bne_iff_ne] at h
      exact h.1.1.1
    simpa [Node.write, writeText, escape] using escapeChars_ne_nil (by simpa using hne)
  | element e children =>
    have hnone : noRevisions e.id = none := rfl
    by_cases hvoid : isVoid e.label = true <;>
      simp [Node.write, hnone, Element.write, Revision.none, hvoid, writeStart]

/-- Labels of elements whose text is written as it is are those of elements with raw text. -/
theorem verbatim_of_not_raw {label : String} (h : rawKind? label = none) : verbatimLabels.contains label = false := by
  have hall : ∀ l ∈ verbatimLabels, (rawKind? l).isSome := by decide
  by_contra hmem
  have hsome := hall label (by simpa using hmem)
  rw [h] at hsome
  cases hsome

mutual

/-- A tree that is plain but for the order of attributes is written, and read back in order where it stands. -/
theorem yields : ∀ (n : Node) {path : List String} {b : Builder}, Settled path b →
    n.ordered.isPlain path = true → Node.haveDistinctNames [n] = true →
    (b.skipLine = true → Node.startsLine [n] = false) →
    Yields path b (n.write noRevisions false).toList (b.ready.arena.lay b.current.id n.ordered)
  | .text s, path, b, h, hplain, _, hline => by
    simp only [Node.ordered, Node.isPlain, Bool.and_eq_true, List.all_eq_true] at hplain
    refine h.yields_text hplain.1 hplain.2 fun hskip => ?_
    simpa [Node.startsLine] using hline hskip
  | .comment s, path, b, h, hplain, _, _ => h.yields_comment hplain
  | .doctype _, _, _, _, hplain, _, _ => nomatch hplain
  | .fragment _, _, _, _, hplain, _, _ => nomatch hplain
  | .element e children, path, b, h, hplain, hnames, _ => by
    obtain ⟨hdistinct, hchildren⟩ := Node.haveDistinctNames_element.mp hnames
    simp only [Node.ordered, Node.isPlain, Node.startsLine_orderedAll, Bool.and_eq_true, Bool.not_eq_true',
      Bool.and_eq_false_iff] at hplain
    obtain ⟨⟨hordered, hstarts⟩, hrest⟩ := hplain
    have he : e.isSpelled = true := Bool.and_eq_true_iff.mpr ⟨hordered, hdistinct⟩
    have hdrops : Node.dropsLine e.label = true → Node.startsLine children = false := fun heq =>
      hstarts.resolve_left fun hfalse => absurd (heq.symm.trans hfalse) (by decide)
    have hnone : noRevisions e.id = none := rfl
    rw [Node.ordered]
    split at hrest
    · next hvoid =>
      have hvoid : isVoid e.label = true := hvoid
      rw [Bool.and_eq_true, List.isEmpty_iff, Node.orderedAll_eq_nil_iff] at hrest
      obtain ⟨hfits, rfl⟩ := hrest
      have hwritten : ((Node.element e []).write noRevisions false).toList =
          (writeStart e.label e.attributes).toList := by
        simp [Node.write, hnone, Element.write, Revision.none, hvoid]
      rw [hwritten]
      exact h.yields_void he hvoid hfits
    next hvoid =>
    have hvoid : isVoid e.label = false := Bool.eq_false_iff.mpr hvoid
    rw [toList_write_element hvoid]
    split at hrest
    · next kind hraw =>
      rw [Bool.and_eq_true] at hrest
      have hsame := Node.orderedAll_of_isRawContent hrest.2
      rw [hsame] at hrest ⊢
      exact h.yields_raw he hraw hrest.1 hrest.2 hdrops
    · next hraw =>
      rw [Bool.and_eq_true] at hrest
      have hverbatim : verbatimLabels.contains e.label = false := verbatim_of_not_raw hraw
      rw [hverbatim]
      exact h.yields_element he hvoid hraw hrest.1 fun c hc hskip =>
        yieldsAll children hc hrest.2 hchildren fun heq => hdrops (hskip heq)

/-- So it is with trees side by side. -/
theorem yieldsAll : ∀ (nodes : List Node) {path : List String} {b : Builder}, Settled path b →
    Node.isPlainAll path (Node.orderedAll nodes) = true → Node.haveDistinctNames nodes = true →
    (b.skipLine = true → Node.startsLine nodes = false) →
    Yields path b (Node.writeAll noRevisions false nodes).toList
      (b.ready.arena.layAll b.current.id (Node.orderedAll nodes))
  | [], _, _, h, _, _, _ => h.yields_nil
  | n :: rest, path, b, h, hplain, hnames, hline => by
    simp only [Node.orderedAll, Node.isPlainAll, Bool.and_eq_true] at hplain
    obtain ⟨hfirstNames, hrestNames⟩ := Node.haveDistinctNames_cons.mp hnames
    have hfirst : b.skipLine = true → Node.startsLine [n] = false := fun hskip => by
      have hall := hline hskip
      cases n <;> first | rfl | exact hall
    rw [Node.writeAll, String.toList_append, Node.orderedAll, Arena.layAll]
    refine (yields n h hplain.1 hfirstNames hfirst).append fun c hc hcore hskip => ?_
    have harena : c.ready.arena = b.ready.arena.lay b.current.id n.ordered := (core_eq_iff.mp hcore).1
    rw [← harena, ← current_of_core hcore]
    exact yieldsAll rest hc hplain.2 hrestNames fun heq => absurd (hskip heq).2 (write_ne_nil hplain.1)

end

end Builder

end Build

end PageEdit.Html
