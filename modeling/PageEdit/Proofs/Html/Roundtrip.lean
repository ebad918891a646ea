import PageEdit.Proofs.Html.Rereading

/-!
# Pages that are written and read back

A page is read in phases: what stands before the root element, its start tag, the head, what stands around the body,
the body, and what stands after them. Each phase of a plain page puts its nodes in the table as they are, so the page
that comes out of reading what was written is the one that was written, but for the numbers of its elements. If its
attributes are in another order, they are put in order.

* `Build.Stands`: a builder between two phases.
* `Build.leads_document`: reading a whole plain page.
* `nodes_ofHtml_write`: the nodes of what is read.
* `written_pages_are_stable`: a plain page is written, read and written again as it is.
-/

namespace PageEdit.Html

open Scanner (Emits)

namespace Build

open Builder (Settled Steady Yields isMarkup)

variable {b c : Builder} {path : List String} {cs ds : List Char} {P Q : Builder → Prop} {arena : Arena}
  {stack : List Opened} {mode : Mode} {head : Option Nat}

/-! ## From phase to phase -/

/-- Whether reading some characters between tags leads to a builder with a property. -/
def Leads (b : Builder) (cs : List Char) (P : Builder → Prop) : Prop :=
  ∀ last, ∃ last' c, cs.foldl Reader.feed ⟨⟨.text, last⟩, b⟩ = ⟨⟨.text, last'⟩, c⟩ ∧ P c

theorem Leads.nil (h : P b) : Leads b [] P := fun last => ⟨last, b, rfl, h⟩

theorem Leads.append (h : Leads b cs P) (h' : ∀ c, P c → Leads c ds Q) : Leads b (cs ++ ds) Q := by
  intro last
  obtain ⟨middle, m, hfirst, hm⟩ := h last
  obtain ⟨last', c, hrest, hc⟩ := h' m hm middle
  exact ⟨last', c, by rw [List.foldl_append, hfirst, hrest], hc⟩

theorem Leads.mono (h : Leads b cs P) (h' : ∀ c, P c → Q c) : Leads b cs Q := by
  intro last
  obtain ⟨last', c, hfold, hc⟩ := h last
  exact ⟨last', c, hfold, h' c hc⟩

/-- A builder between two phases, with certain elements open and nothing else to remember but the head. -/
structure Stands (arena : Arena) (stack : List Opened) (mode : Mode) (head : Option Nat) (b : Builder) : Prop where
  arena : b.arena = arena
  stack : b.stack = stack
  mode : b.mode = mode
  head : b.head = head
  formatting : b.formatting = []
  templates : b.templates = []
  form : b.form = none
  fostering : b.fostering = false
  tableText : b.tableText = []
  skipLine : b.skipLine = false

namespace Stands

/-- Nothing else changes where only the table, the open elements, the mode and the head do. -/
theorem moved (h : Stands arena stack mode head b) {arena' : Arena} {stack' : List Opened} {mode' : Mode}
    {head' opened : Option Nat} {framesetOk : Bool} (hopened : opened = head') :
    Stands arena' stack' mode' head'
      { b with arena := arena', stack := stack', mode := mode', head := opened, framesetOk } :=
  ⟨rfl, rfl, rfl, hopened, h.formatting, h.templates, h.form, h.fostering, h.tableText, h.skipLine⟩

theorem of_core (h : Stands arena stack mode head b) {arena' : Arena} (hcore : c.core = { b with arena := arena' }.core)
    (hline : c.skipLine = false) : Stands arena' stack mode head c := by
  obtain ⟨harena, hstack, hformatting, hmode, htemplates, hhead, hform, hfostering, -, htext⟩ :=
    Builder.core_eq_iff.mp hcore
  exact ⟨harena, hstack.trans h.stack, hmode.trans h.mode, hhead.trans h.head, hformatting.trans h.formatting,
    htemplates.trans h.templates, hform.trans h.form, hfostering.trans h.fostering, htext.trans h.tableText, hline⟩

theorem quiet (h : Stands arena stack mode head b) : Stands arena stack mode head b.unmarked.unlined :=
  ⟨h.arena, h.stack, h.mode, h.head, h.formatting, h.templates, h.form, h.fostering, h.tableText, rfl⟩

theorem not_foreign (h : Stands arena stack mode head b) (hhtml : ∀ o ∈ stack, o.name.space = .html) :
    b.currentIsForeign = false := by
  rw [Builder.currentIsForeign, Builder.current, h.stack]
  cases stack with
  | nil => rfl
  | cons o rest => simp [hhtml o (.head _)]

theorem isDirect (h : Stands arena stack mode head b) (hnot : ∀ o ∈ stack, o.name.isHtml "template" = false) :
    b.IsDirect := by
  refine ⟨h.fostering, ?_⟩
  rw [Builder.current, h.stack]
  cases stack with
  | nil => rfl
  | cons o rest => exact hnot o (.head _)

end Stands

theorem leads_of_read {token : Token} (hemits : ∀ last, ∃ last', Emits ⟨.text, last⟩ cs token ⟨.text, last'⟩)
    (hhead : cs.head? = some '<') (hread : ∃ c, b.unmarked.read token = (c, none) ∧ P c) : Leads b cs P := by
  obtain ⟨c, hread, hc⟩ := hread
  intro last
  obtain ⟨last', hemits⟩ := hemits last
  refine ⟨last', c, ?_, hc⟩
  rw [Reader.foldl_feed_emits hemits (by rw [hhead]; decide), Reader.readToken]
  simp only [hread]
  rfl

theorem read_markup {token : Token} (hmarkup : isMarkup token = true) (b : Builder) :
    b.read token = Builder.readWithin b.unlined.bound b.unlined token := by
  cases token with
  | startTag | endTag | comment => rfl
  | _ => cases hmarkup

/-- A token that the rules of the mode read at once. -/
theorem Stands.leads_rule {token : Token} (hhtml : ∀ o ∈ stack, o.name.space = .html)
    (hemits : ∀ last, ∃ last', Emits ⟨.text, last⟩ cs token ⟨.text, last'⟩) (hhead : cs.head? = some '<')
    (hmarkup : isMarkup token = true)
    (hrule : ∀ {m : Builder}, Stands arena stack mode head m → ∃ c, m.inMode mode token = (c, .done) ∧ P c)
    (h : Stands arena stack mode head b) : Leads b cs P := by
  obtain ⟨c, hc, hP⟩ := hrule h.quiet
  rw [← h.quiet.mode] at hc
  obtain ⟨bound, hbound⟩ := Builder.exists_bound b.unmarked.unlined
  refine leads_of_read hemits hhead ⟨c, ?_, hP⟩
  rw [read_markup hmarkup, hbound]
  exact Builder.readWithin_succ (h.quiet.not_foreign hhtml) hc Next.done_ne_again _

/-! ## Comments outside the head and the body -/

/-- Whether the rules of a mode put comments last in a certain node. -/
structure Collects (stack : List Opened) (mode : Mode) (head : Option Nat) (parent : Nat) : Prop where
  html : ∀ o ∈ stack, o.name.space = .html
  rule : ∀ {arena : Arena} {b : Builder} (text : String), Stands arena stack mode head b →
    b.inMode mode (.comment text) = ({ b with arena := b.arena.lay parent (.comment text) }, .done)

namespace Collects

variable {parent : Nat} {text : String} {nodes : List Node}

theorem leads_comment (hmode : Collects stack mode head parent) (h : Stands arena stack mode head b)
    (hkeeps : Scanner.keepsComment text = true) :
    Leads b ((Node.comment text).write noRevisions false).toList
      (Stands (arena.lay parent (.comment text)) stack mode head) := by
  refine h.leads_rule hmode.html (fun last => ⟨last, Scanner.emits_comment hkeeps⟩) (by simp [Node.write]) rfl
    fun {m} hm => ⟨_, hmode.rule text hm, ?_⟩
  rw [← hm.arena]
  exact hm.of_core rfl hm.skipLine

theorem leads_comments (hmode : Collects stack mode head parent) (hnodes : nodes.all Node.isPlainComment = true)
    (h : Stands arena stack mode head b) :
    Leads b (Node.writeAll noRevisions false nodes).toList (Stands (arena.layAll parent nodes) stack mode head) := by
  induction nodes generalizing arena b with
  | nil => exact .nil h
  | cons n rest ih =>
    simp only [List.all_cons, Bool.and_eq_true] at hnodes
    rw [Node.writeAll, String.toList_append]
    cases n with
    | comment text => exact (hmode.leads_comment h hnodes.1).append fun c hc => ih hnodes.2 hc
    | _ => cases hnodes.1

theorem opening (h : mode = .initial ∨ mode = .beforeHtml) : Collects [] mode none Arena.documentId where
  html := by simp
  rule := by
    intro arena b text _
    rcases h with rfl | rfl <;> rfl

theorem beforeHead {root : Opened} (hroot : root.name = .html "html") : Collects [root] .beforeHead none root.id where
  html := by simp [hroot, Name.html]
  rule := by
    intro arena b text h
    have hcurrent : b.current = root := by
      rw [Builder.current, h.stack]
      rfl
    have hrule : b.inMode .beforeHead (.comment text) = (b.insertComment text).done := rfl
    have hdirect : b.IsDirect := h.isDirect (by simp [hroot, Name.html, Name.isHtml])
    rw [hrule, hdirect.insertComment, hcurrent]
    rfl

theorem afterBody {body root : Opened} (hbody : body.name = .html "body") (hroot : root.name = .html "html") :
    Collects [body, root] .afterBody head root.id where
  html := by simp [hbody, hroot, Name.html]
  rule := by
    intro arena b text h
    have houtermost : b.outermost = root.id := by
      rw [Builder.outermost, h.stack]
      rfl
    have hrule : b.inMode .afterBody (.comment text) =
        ({ b with arena := b.arena.lay b.outermost (.comment text) }, .done) := rfl
    rw [hrule, houtermost]

theorem afterAfterBody (hhtml : ∀ o ∈ stack, o.name.space = .html) :
    Collects stack .afterAfterBody head Arena.documentId where
  html := hhtml
  rule := fun _ _ => rfl

end Collects

/-! ## Before the head -/

theorem Stands.leads_doctype {name : String} (hkeeps : Scanner.keepsDoctype name = true)
    (h : Stands arena [] .initial none b) :
    Leads b ((Node.doctype name).write noRevisions false).toList
      (Stands (arena.lay Arena.documentId (.doctype name)) [] .beforeHtml none) := by
  intro last
  obtain ⟨doctype, hname, hemits⟩ := Scanner.emits_doctype hkeeps
  have hrule : b.unmarked.read (.doctype doctype) =
      ({ b.unmarked.unlined with
        arena := b.arena.lay Arena.documentId (.doctype name)
        keepsTables := doctype.keepsTables
        mode := .beforeHtml }, none) := by
    have hread : b.unmarked.read (.doctype doctype) =
        (if b.mode == .initial then { b.unmarked.unlined with
          arena := b.arena.lay Arena.documentId (.doctype (doctype.name.getD ""))
          keepsTables := doctype.keepsTables
          mode := .beforeHtml } else b.unmarked.unlined, none) := rfl
    rw [hread, h.mode, hname]
    rfl
  have hafter : Stands (arena.lay Arena.documentId (.doctype name)) [] .beforeHtml none { b.unmarked.unlined with
      arena := b.arena.lay Arena.documentId (.doctype name)
      keepsTables := doctype.keepsTables
      mode := .beforeHtml } :=
    ⟨congrArg (Arena.lay · Arena.documentId (.doctype name)) h.arena, h.stack, rfl, h.head, h.formatting, h.templates,
      h.form, h.fostering, h.tableText, rfl⟩
  refine ⟨last, _, ?_, hafter⟩
  have hwritten : ((Node.doctype name).write noRevisions false).toList = ("<!DOCTYPE " ++ name ++ ">").toList := by
    rw [Node.write]
  rw [hwritten, Reader.foldl_feed_emits hemits (by simp), Reader.readToken]
  simp only [hrule]
  rfl

theorem Stands.leads_before {nodes : List Node} (hnodes : Node.isPlainOpening nodes = true)
    (h : Stands arena [] .initial none b) :
    Leads b (Node.writeAll noRevisions false nodes).toList fun c =>
      ∃ mode, (mode = .initial ∨ mode = .beforeHtml) ∧
        Stands (arena.layAll Arena.documentId nodes) [] mode none c := by
  induction nodes generalizing arena b with
  | nil => exact .nil ⟨_, .inl rfl, h⟩
  | cons n rest ih =>
    rw [Node.writeAll, String.toList_append]
    cases n with
    | comment text =>
      simp only [Node.isPlainOpening, Bool.and_eq_true] at hnodes
      exact ((Collects.opening (.inl rfl)).leads_comment h hnodes.1).append fun c hc => ih hnodes.2 hc
    | doctype name =>
      simp only [Node.isPlainOpening, Bool.and_eq_true] at hnodes
      refine (h.leads_doctype hnodes.1).append fun c hc => ?_
      exact ((Collects.opening (.inr rfl)).leads_comments hnodes.2 hc).mono fun d hd => ⟨_, .inr rfl, hd⟩
    | text | fragment | element => simp [Node.isPlainOpening, Node.isPlainComment] at hnodes

/-! ## The root element and the head -/

section

variable {e : Element} {children nodes : List Node} {x : Nat}

theorem Stands.leads_root (he : e.isSpelled = true) (hlabel : e.label = "html")
    (hmode : mode = .initial ∨ mode = .beforeHtml) (h : Stands arena [] mode none b) :
    Leads b (writeStart e.label e.attributes).toList
      (Stands ((arena.makeElement e.name e.ordered.attrs).1.append Arena.documentId arena.size)
        [⟨arena.size, .html "html"⟩] .beforeHead none) := by
  have hname : e.name = .html "html" := hlabel ▸ Element.name_of_isSpelled he
  have htag : (e.tag.name == "html") = true := beq_iff_eq.mpr hlabel
  have hrule : ∀ {m : Builder}, Stands arena [] .beforeHtml none m → ∃ c,
      m.inMode .beforeHtml (.startTag e.tag) = (c, .done) ∧
        Stands ((arena.makeElement e.name e.ordered.attrs).1.append Arena.documentId arena.size)
          [⟨arena.size, .html "html"⟩] .beforeHead none c := by
    intro m hm
    have hopen : m.openRoot (Foreign.attrs .html e.tag) = { m with
        arena := (m.arena.makeElement e.name e.ordered.attrs).1.append Arena.documentId m.arena.size
        stack := [⟨m.arena.size, .html "html"⟩] } := by
      simp only [Builder.openRoot, Arena.makeElement_snd, hname]
      rfl
    have hinside : m.inMode .beforeHtml (.startTag e.tag) =
        { m.openRoot (Foreign.attrs .html e.tag) with mode := .beforeHead }.done := by
      change m.inBeforeHtml (.startTag e.tag) = _
      simp only [Builder.inBeforeHtml, htag, if_true]
    rw [hinside, hopen, hm.arena]
    dsimp only
    exact ⟨_, rfl, hm.moved hm.head⟩
  have hemits : ∀ last, ∃ last', Emits ⟨.text, last⟩ (writeStart e.label e.attributes).toList (.startTag e.tag)
      ⟨.text, last'⟩ := fun last => ⟨_, Element.emits_start he⟩
  have hhead := Element.head?_writeStart e.label e.attributes
  rcases hmode with rfl | rfl
  · -- without a document type the tag is read over again
    have hagain : b.unmarked.unlined.inMode b.unmarked.unlined.mode (.startTag e.tag) =
        ({ b.unmarked.unlined with keepsTables := true, mode := .beforeHtml }, .again) := by
      rw [h.quiet.mode]
      rfl
    have hnext : Stands arena [] .beforeHtml none { b.unmarked.unlined with keepsTables := true, mode := .beforeHtml } :=
      ⟨h.arena, h.stack, rfl, h.head, h.formatting, h.templates, h.form, h.fostering, h.tableText, rfl⟩
    obtain ⟨c, hc, hstands⟩ := hrule hnext
    obtain ⟨bound, hbound⟩ := Builder.exists_bound b.unmarked.unlined
    refine leads_of_read hemits hhead ⟨c, ?_, hstands⟩
    rw [read_markup rfl, hbound, Builder.readWithin_succ_again (h.quiet.not_foreign (by simp)) hagain]
    exact Builder.readWithin_succ (hnext.not_foreign (by simp)) hc Next.done_ne_again _
  · exact h.leads_rule (by simp) hemits hhead rfl hrule

variable {root body : Opened}

/-- An element that is opened in the root goes last in it. -/
theorem Stands.openNamed (hroot : root.name = .html "html") {m : Builder} (h : Stands arena [root] mode head m)
    (name : Name) (attrs : List Attr) :
    m.openNamed name attrs =
      ({ m with
          arena := (arena.makeElement name attrs).1.append root.id arena.size
          stack := [⟨arena.size, name⟩, root] }, arena.size) := by
  have hnot : ∀ o ∈ [root], o.name.isHtml "template" = false := by simp [hroot, Name.html, Name.isHtml]
  have hcurrent : m.current.id = root.id := by
    rw [Builder.current, h.stack]
    rfl
  rw [(h.isDirect hnot).openNamed, hcurrent, h.arena, h.stack]

theorem Stands.leads_headStart (hroot : root.name = .html "html") (he : e.isSpelled = true) (hlabel : e.label = "head")
    (h : Stands arena [root] .beforeHead none b) :
    Leads b (writeStart e.label e.attributes).toList
      (Stands ((arena.makeElement e.name e.ordered.attrs).1.append root.id arena.size)
        [⟨arena.size, .html "head"⟩, root] .inHead (some arena.size)) := by
  have hname : e.name = .html "head" := hlabel ▸ Element.name_of_isSpelled he
  have htag : (e.tag.name == "html") = false ∧ (e.tag.name == "head") = true := by
    have heq : e.tag.name = "head" := hlabel
    rw [heq]
    decide
  refine h.leads_rule (by simp [hroot, Name.html]) (fun last => ⟨_, Element.emits_start he⟩)
    (Element.head?_writeStart _ _) rfl fun {m} hm => ?_
  have hopen : m.openHead (Foreign.attrs .html e.tag) = { m with
      arena := (arena.makeElement e.name e.ordered.attrs).1.append root.id arena.size
      stack := [⟨arena.size, .html "head"⟩, root]
      head := some arena.size
      mode := .inHead } := by
    simp only [Builder.openHead, hm.openNamed hroot, hname]
    rfl
  have hinside : m.inMode .beforeHead (.startTag e.tag) = (m.openHead (Foreign.attrs .html e.tag)).done := by
    change m.inBeforeHead (.startTag e.tag) = _
    simp only [Builder.inBeforeHead, htag, Bool.false_eq_true, if_true, if_false]
  rw [hinside, hopen]
  exact ⟨_, rfl, hm.moved rfl⟩

theorem Stands.leads_bodyStart (hroot : root.name = .html "html") (he : e.isSpelled = true) (hlabel : e.label = "body")
    (h : Stands arena [root] .afterHead head b) :
    Leads b (writeStart e.label e.attributes).toList
      (Stands ((arena.makeElement e.name e.ordered.attrs).1.append root.id arena.size)
        [⟨arena.size, .html "body"⟩, root] .inBody head) := by
  have hname : e.name = .html "body" := hlabel ▸ Element.name_of_isSpelled he
  have htag : (e.tag.name == "html") = false ∧ (e.tag.name == "body") = true := by
    have heq : e.tag.name = "body" := hlabel
    rw [heq]
    decide
  refine h.leads_rule (by simp [hroot, Name.html]) (fun last => ⟨_, Element.emits_start he⟩)
    (Element.head?_writeStart _ _) rfl fun {m} hm => ?_
  have hopen : m.openBody (Foreign.attrs .html e.tag) = { m with
      arena := (arena.makeElement e.name e.ordered.attrs).1.append root.id arena.size
      stack := [⟨arena.size, .html "body"⟩, root]
      mode := .inBody } := by
    simp only [Builder.openBody, hm.openNamed hroot, hname]
    rfl
  have hinside : m.inMode .afterHead (.startTag e.tag) =
      { m.openBody (Foreign.attrs .html e.tag) with framesetOk := false }.done := by
    change m.inAfterHead (.startTag e.tag) = _
    simp only [Builder.inAfterHead, htag, Bool.false_eq_true, if_true, if_false]
  rw [hinside, hopen]
  dsimp only
  exact ⟨_, rfl, hm.moved hm.head⟩

/-- End tags that close nothing but what they are to close. -/
theorem Stands.leads_end {label : String} {stack' : List Opened} {mode' : Mode}
    (hlabel : Scanner.keepsLabel label = true) (hhtml : ∀ o ∈ stack, o.name.space = .html)
    (hrule : ∀ {m : Builder}, Stands arena stack mode head m →
      m.inMode mode (.endTag label) = { m with stack := stack', mode := mode' }.done)
    (h : Stands arena stack mode head b) :
    Leads b (writeEnd label).toList (Stands arena stack' mode' head) := by
  refine h.leads_rule hhtml (fun last => ⟨_, Scanner.emits_writeEnd hlabel⟩) (Element.head?_writeEnd _) rfl
    fun {m} hm => ⟨_, hrule hm, ?_⟩
  exact ⟨hm.arena, rfl, rfl, hm.head, hm.formatting, hm.templates, hm.form, hm.fostering, hm.tableText, hm.skipLine⟩

theorem Stands.leads_headEnd {o : Opened} (ho : o.name = .html "head") (hroot : root.name = .html "html")
    (h : Stands arena [o, root] .inHead head b) :
    Leads b (writeEnd "head").toList (Stands arena [root] .afterHead head) := by
  refine h.leads_end (by decide) (by simp [ho, hroot, Name.html]) fun {m} hm => ?_
  have hrule : m.inMode .inHead (.endTag "head") = { m.pop with mode := .afterHead }.done := rfl
  rw [hrule, Builder.pop, hm.stack]
  rfl

theorem Stands.leads_bodyEnd (hbody : body.name = .html "body") (hroot : root.name = .html "html")
    (h : Stands arena [body, root] .inBody head b) :
    Leads b (writeEnd "body").toList (Stands arena [body, root] .afterBody head) := by
  refine h.leads_end (by decide) (by simp [hbody, hroot, Name.html]) fun {m} hm => ?_
  have hrule : m.inMode .inBody (.endTag "body") =
      (if m.hasIn ElementSet.scope "body" then { m with mode := .afterBody } else m).done := rfl
  have hopen : m.hasIn ElementSet.scope "body" = true := by
    simp [Builder.hasIn, hm.stack, Builder.inScope, hbody, Name.html, Name.isHtml]
  rw [hrule, if_pos hopen, ← hm.stack]

theorem Stands.leads_rootEnd (hhtml : ∀ o ∈ stack, o.name.space = .html) (h : Stands arena stack .afterBody head b) :
    Leads b (writeEnd "html").toList (Stands arena stack .afterAfterBody head) := by
  refine h.leads_end (by decide) hhtml fun {m} hm => ?_
  have hrule : m.inMode .afterBody (.endTag "html") = { m with mode := .afterAfterBody }.done := rfl
  rw [hrule, ← hm.stack]

/-! ## Content -/

open Node (ordered orderedAll haveDistinctNames haveDistinctNames_cons haveDistinctNames_element isPlainAll
  isPlainComment isPlainRest isPlainRoot orderedAll_of_comments)

/-- The elements that are open in the head, around the body and in it. -/
def pagePaths : List (List String) := [["html"], ["head", "html"], ["body", "html"]]

theorem Stands.steady (hpath : path ∈ pagePaths) (hnames : stack.map (·.name) = path.map .html)
    (h : Stands arena stack (modeIn path) (some x) b) : Steady path b := by
  have hall : ∀ path ∈ pagePaths, ∀ l ∈ path, isFormat l = false ∧ isBound l = false ∧ l ≠ "form" ∧ l ≠ "template" := by
    decide
  have hlabels : ∀ o ∈ stack, ∃ l ∈ path, o.name = .html l := by
    intro o ho
    have hmem : o.name ∈ path.map .html := hnames ▸ List.mem_map_of_mem ho
    obtain ⟨l, hl, heq⟩ := List.mem_map.mp hmem
    exact ⟨l, hl, heq.symm⟩
  refine ⟨h.stack ▸ hnames, h.mode, fun hmem => (hall path hpath _ hmem).2.2.2 rfl, h.templates, by rw [h.head]; rfl,
    h.fostering, h.tableText, ?_, ?_⟩
  · rw [h.form, h.stack, List.find?_eq_none.mpr, Option.map_none]
    intro o ho
    obtain ⟨l, hl, heq⟩ := hlabels o ho
    simpa [heq, Name.html, Name.isHtml] using (hall path hpath l hl).2.2.1
  · rw [h.formatting, h.stack, List.map_nil]
    refine (List.flatMap_eq_nil_iff.mpr fun o ho => ?_).symm
    obtain ⟨l, hl, heq⟩ := hlabels o ho
    obtain ⟨hformat, hbound, -⟩ := hall path hpath l hl
    simp [Builder.keysOf, heq, Name.html, hformat, hbound]

/-- Plain trees that stand in the head, around the body or in it. -/
theorem Stands.leads_nodes {o : Opened} (hpath : path ∈ pagePaths)
    (hnames : (o :: stack).map (·.name) = path.map .html) (hnodes : isPlainAll path (orderedAll nodes) = true)
    (hdistinct : haveDistinctNames nodes = true) (h : Stands arena (o :: stack) (modeIn path) (some x) b) :
    Leads b (Node.writeAll noRevisions false nodes).toList
      (Stands (arena.layAll o.id (orderedAll nodes)) (o :: stack) (modeIn path) (some x)) := by
  have hsteady := h.steady hpath hnames
  have hno : b.skipLine = true → Node.startsLine nodes = false := fun heq => by
    rw [h.skipLine] at heq
    cases heq
  have hyields := Builder.yieldsAll nodes hsteady.settled hnodes hdistinct hno
  have harena : b.ready.arena = arena := by
    rw [Builder.ready_of_ne hsteady.mode_ne]
    exact h.arena
  have hcurrent : b.current = o := by
    rw [Builder.current, h.stack]
    rfl
  rw [harena, hcurrent] at hyields
  refine Leads.mono hyields fun c hc => ?_
  obtain ⟨hsettled, hcore, hskip⟩ := hc
  have hmode : c.mode ≠ .inTableText := by
    intro heq
    have hnone : ∀ path ∈ pagePaths, modeIn path ∉ rowModes := by decide
    exact hnone path hpath (hsettled.waiting heq).2
  have hline : c.skipLine = false := by
    rw [← Bool.not_eq_true]
    intro heq
    have hb := (hskip heq).1
    rw [h.skipLine] at hb
    cases hb
  refine h.of_core ?_ hline
  rw [Builder.ready_of_ne hmode, Builder.ready_of_ne hsteady.mode_ne] at hcore
  exact hcore

/-! ## The whole page -/

theorem Stands.leads_head (hroot : root.name = .html "html") (he : e.isSpelled = true) (hlabel : e.label = "head")
    (hnodes : isPlainAll ["head", "html"] (orderedAll children) = true)
    (hdistinct : haveDistinctNames children = true) (h : Stands arena [root] .beforeHead none b) :
    Leads b ((Node.element e children).write noRevisions false).toList
      (Stands (arena.lay root.id (Node.element e children).ordered) [root] .afterHead (some arena.size)) := by
  have hvoid : isVoid e.label = false := by rw [hlabel]; decide
  have hverbatim : verbatimLabels.contains e.label = false := by rw [hlabel]; decide
  rw [Builder.toList_write_element hvoid, hverbatim]
  have hmode : modeIn ["head", "html"] = .inHead := rfl
  have hfilled : Leads b ((writeStart e.label e.attributes).toList ++ (Node.writeAll noRevisions false children).toList)
      (Stands (arena.lay root.id (Node.element e children).ordered) [⟨arena.size, .html "head"⟩, root] .inHead (some arena.size)) := by
    refine (h.leads_headStart hroot he hlabel).append fun c hc => ?_
    rw [Node.ordered, Arena.lay, ← hmode]
    exact hc.leads_nodes (by decide) (by simp [hroot]) hnodes hdistinct
  rw [hlabel] at hfilled ⊢
  exact hfilled.append fun c hc => hc.leads_headEnd rfl hroot

theorem Stands.leads_body (hroot : root.name = .html "html") (he : e.isSpelled = true) (hlabel : e.label = "body")
    (hnodes : isPlainAll ["body", "html"] (orderedAll children) = true)
    (hdistinct : haveDistinctNames children = true) (h : Stands arena [root] .afterHead (some x) b) :
    Leads b ((Node.element e children).write noRevisions false).toList
      (Stands (arena.lay root.id (Node.element e children).ordered) [⟨arena.size, .html "body"⟩, root] .afterBody (some x)) := by
  have hvoid : isVoid e.label = false := by rw [hlabel]; decide
  have hverbatim : verbatimLabels.contains e.label = false := by rw [hlabel]; decide
  rw [Builder.toList_write_element hvoid, hverbatim]
  have hmode : modeIn ["body", "html"] = .inBody := rfl
  have hfilled : Leads b ((writeStart e.label e.attributes).toList ++ (Node.writeAll noRevisions false children).toList)
      (Stands (arena.lay root.id (Node.element e children).ordered) [⟨arena.size, .html "body"⟩, root] .inBody (some x)) := by
    refine (h.leads_bodyStart hroot he hlabel).append fun c hc => ?_
    rw [Node.ordered, Arena.lay, ← hmode]
    exact hc.leads_nodes (by decide) (by simp [hroot]) hnodes hdistinct
  rw [hlabel] at hfilled ⊢
  exact hfilled.append fun c hc => hc.leads_bodyEnd rfl hroot

/-- What follows the head: the body, and comments and blanks around it. -/
theorem Stands.leads_rest (hroot : root.name = .html "html") (hnodes : isPlainRest (orderedAll nodes) = true)
    (hdistinct : haveDistinctNames nodes = true) (h : Stands arena [root] .afterHead (some x) b) :
    Leads b (Node.writeAll noRevisions false nodes).toList fun c => ∃ body : Opened, body.name = .html "body" ∧
      Stands (arena.layAll root.id (orderedAll nodes)) [body, root] .afterBody (some x) c := by
  induction nodes generalizing arena b with
  | nil => cases hnodes
  | cons n rest ih =>
    obtain ⟨hfirst, hothers⟩ := haveDistinctNames_cons.mp hdistinct
    rw [Node.writeAll, String.toList_append]
    by_cases helement : n.isElement = true
    · cases n with
      | element e children =>
        simp only [orderedAll, ordered, isPlainRest, Bool.and_eq_true, beq_iff_eq] at hnodes
        obtain ⟨⟨⟨hlabel, he⟩, hchildren⟩, hrest⟩ := hnodes
        obtain ⟨hnames, hinside⟩ := haveDistinctNames_element.mp hfirst
        have he : e.isSpelled = true := Bool.and_eq_true_iff.mpr ⟨he, hnames⟩
        have hsame := orderedAll_of_comments hrest
        refine (h.leads_body hroot he hlabel hchildren hinside).append fun c hc => ?_
        rw [hsame] at hrest
        rw [orderedAll, hsame]
        exact ((Collects.afterBody rfl hroot).leads_comments hrest hc).mono fun d hd => ⟨_, rfl, hd⟩
      | _ => cases helement
    · have hparts : n.ordered.isPlain ["html"] = true ∧ isPlainRest (orderedAll rest) = true := by
        cases n with
        | element => exact absurd rfl helement
        | _ => simpa only [orderedAll, ordered, isPlainRest, Bool.and_eq_true] using hnodes
      have hn : Leads b (n.write noRevisions false).toList
          (Stands (arena.lay root.id n.ordered) [root] .afterHead (some x)) := by
        have hmode : modeIn ["html"] = .afterHead := rfl
        have hall : isPlainAll ["html"] (orderedAll [n]) = true := by simp [orderedAll, isPlainAll, hparts.1]
        rw [← hmode] at h ⊢
        have hleads := h.leads_nodes (by decide) (by simp [hroot]) hall hfirst
        simpa only [Node.writeAll, String.append_empty, orderedAll, Arena.layAll] using hleads
      exact hn.append fun c hc => ih hparts.2 hothers hc

/-- What is in the root element: the head after comments, and what follows it. -/
theorem Stands.leads_children (hroot : root.name = .html "html") (hnodes : isPlainRoot (orderedAll nodes) = true)
    (hdistinct : haveDistinctNames nodes = true) (h : Stands arena [root] .beforeHead none b) :
    Leads b (Node.writeAll noRevisions false nodes).toList fun c => ∃ (body : Opened) (x : Nat),
      body.name = .html "body" ∧
        Stands (arena.layAll root.id (orderedAll nodes)) [body, root] .afterBody (some x) c := by
  induction nodes generalizing arena b with
  | nil => cases hnodes
  | cons n rest ih =>
    obtain ⟨hfirst, hothers⟩ := haveDistinctNames_cons.mp hdistinct
    rw [Node.writeAll, String.toList_append]
    cases n with
    | element e children =>
      simp only [orderedAll, ordered, isPlainRoot, Bool.and_eq_true, beq_iff_eq] at hnodes
      obtain ⟨⟨⟨hlabel, he⟩, hchildren⟩, hrest⟩ := hnodes
      obtain ⟨hnames, hinside⟩ := haveDistinctNames_element.mp hfirst
      have he : e.isSpelled = true := Bool.and_eq_true_iff.mpr ⟨he, hnames⟩
      refine (h.leads_head hroot he hlabel hchildren hinside).append fun c hc => ?_
      refine (hc.leads_rest hroot hrest hothers).mono fun d hd => ?_
      obtain ⟨body, hbody, hstands⟩ := hd
      exact ⟨body, _, hbody, hstands⟩
    | comment text =>
      simp only [orderedAll, ordered, isPlainRoot, Bool.and_eq_true] at hnodes
      exact ((Collects.beforeHead hroot).leads_comment h hnodes.1).append fun c hc => ih hnodes.2 hothers hc
    | text | doctype | fragment => simp [orderedAll, ordered, isPlainRoot, isPlainComment] at hnodes

theorem Stands.leads_rootElement (he : e.isSpelled = true) (hlabel : e.label = "html")
    (hnodes : isPlainRoot (orderedAll children) = true) (hdistinct : haveDistinctNames children = true)
    (hmode : mode = .initial ∨ mode = .beforeHtml) (h : Stands arena [] mode none b) :
    Leads b ((Node.element e children).write noRevisions false).toList fun c => ∃ stack head,
      (∀ o ∈ stack, o.name.space = .html) ∧
        Stands (arena.lay Arena.documentId (Node.element e children).ordered) stack .afterAfterBody head c := by
  have hvoid : isVoid e.label = false := by rw [hlabel]; decide
  have hverbatim : verbatimLabels.contains e.label = false := by rw [hlabel]; decide
  rw [Builder.toList_write_element hvoid, hverbatim]
  have hinside := (h.leads_root he hlabel hmode).append fun c hc => hc.leads_children rfl hnodes hdistinct
  rw [hlabel] at hinside ⊢
  refine hinside.append fun c hc => ?_
  obtain ⟨body, x, hbody, hstands⟩ := hc
  have hhtml : ∀ o ∈ [body, ⟨arena.size, .html "html"⟩], o.name.space = .html := by simp [hbody, Name.html]
  rw [ordered]
  exact (hstands.leads_rootEnd hhtml).mono fun d hd => ⟨_, _, hhtml, hd⟩

theorem stands_start : Stands Arena.start [] .initial none Builder.start :=
  ⟨rfl, rfl, rfl, rfl, rfl, rfl, rfl, rfl, rfl, rfl⟩

/-- A page that is plain but for the order of attributes is read through to its end, and all of it is put in the
table, in order. -/
theorem leads_document {doc : Document} (h : doc.isSpelled = true) :
    Leads Builder.start (doc.write noRevisions).toList fun c => ∃ stack head,
      Stands (Arena.start.layAll Arena.documentId doc.ordered.nodes) stack .afterAfterBody head c := by
  simp only [Document.isSpelled, Document.isPlain, Bool.and_eq_true] at h
  obtain ⟨⟨⟨⟨⟨⟨⟨-, hbefore⟩, hroot⟩, hchildren⟩, hafter⟩, -⟩, hdistinct⟩, -⟩ := h
  obtain ⟨hnames, hinside⟩ := haveDistinctNames_element.mp hdistinct
  have hroot : doc.rootElement.isSpelled = true := Bool.and_eq_true_iff.mpr ⟨hroot, hnames⟩
  have hwritten : (doc.write noRevisions).toList = (Node.writeAll noRevisions false doc.before).toList ++
      ((doc.root.write noRevisions false).toList ++ (Node.writeAll noRevisions false doc.after).toList) := by
    rw [Document.write, Document.nodes, Node.writeAll_append, Node.writeAll, String.toList_append,
      String.toList_append]
  rw [hwritten]
  refine (stands_start.leads_before hbefore).append fun c hc => ?_
  obtain ⟨mode, hmode, hc⟩ := hc
  refine (hc.leads_rootElement hroot rfl hchildren hinside hmode).append fun d hd => ?_
  obtain ⟨stack, head, hhtml, hstands⟩ := hd
  refine ((Collects.afterAfterBody hhtml).leads_comments hafter hstands).mono fun d hd => ⟨stack, head, ?_⟩
  rw [Document.nodes, Document.root_ordered, Arena.layAll_append, Arena.layAll]
  exact hd

end

end Build

/-! ## Pages that come back -/

/-- The document that comes of reading what is written of a page that is plain but for the order of attributes. -/
theorem ofHtml_write {doc : Document} (h : doc.isSpelled = true) :
    Document.ofHtml (doc.write noRevisions) =
      (Build.Arena.start.layAll Build.Arena.documentId doc.ordered.nodes).toDocument := by
  have hchars : sourceChars (doc.write noRevisions) = (doc.write noRevisions).toList := by
    simp only [Document.isSpelled, Bool.and_eq_true, Bool.not_eq_true', List.contains_eq_mem,
      decide_eq_false_iff_not] at h
    exact unifyLines_eq_self h.2
  obtain ⟨last', b, hfold, stack, head, hstands⟩ := Build.leads_document h ""
  have hstart : Build.Reader.start = ⟨⟨.text, ""⟩, Build.Builder.start⟩ := rfl
  have hfinish : (⟨⟨.text, last'⟩, b⟩ : Build.Reader).finish = b := by
    have hstop : (⟨⟨.text, last'⟩, b⟩ : Build.Reader).finish = b.stopWithin b.bound := rfl
    obtain ⟨bound, hbound⟩ := Build.Builder.exists_bound b
    have honce : b.stopOnce = b.done := by
      rw [Build.Builder.stopOnce, hstands.mode]
    rw [hstop, hbound, Build.Builder.stopWithin, honce]
    rfl
  rw [Document.ofHtml, hchars, hstart, hfold, hfinish, hstands.arena]

namespace Node

mutual

theorem write_unnumbered (verbatim : Bool) : ∀ n : Node, n.unnumbered.write noRevisions verbatim = n.write noRevisions verbatim
  | .element e children => by
    have hsame : ∀ kept, e.unnumbered.write none kept = e.write none kept := fun _ => rfl
    have hlabel : e.unnumbered.label = e.label := rfl
    rw [unnumbered, write, write, hlabel, writeAll_unnumberedAll _ children]
    exact hsame _
  | .fragment _ => rfl
  | .text _ => rfl
  | .comment _ => rfl
  | .doctype _ => rfl

theorem writeAll_unnumberedAll (verbatim : Bool) : ∀ nodes : List Node,
    writeAll noRevisions verbatim (unnumberedAll nodes) = writeAll noRevisions verbatim nodes
  | [] => rfl
  | n :: rest => by
    rw [unnumberedAll, writeAll, writeAll, write_unnumbered verbatim n, writeAll_unnumberedAll verbatim rest]

end

end Node

theorem write_eq_of_unnumbered {doc other : Document}
    (h : Node.unnumberedAll doc.nodes = Node.unnumberedAll other.nodes) :
    doc.write noRevisions = other.write noRevisions := by
  rw [Document.write, Document.write, ← Node.writeAll_unnumberedAll, h, Node.writeAll_unnumberedAll]

theorem isElement_of_isPlainOpening {nodes : List Node} (h : Node.isPlainOpening nodes = true) :
    ∀ n ∈ nodes, n.isElement = false := by
  induction nodes with
  | nil => simp
  | cons n rest ih =>
    have hcomment : ∀ m : Node, m.isPlainComment = true → m.isElement = false := by
      intro m hm
      cases m with
      | comment => rfl
      | _ => cases hm
    rw [List.forall_mem_cons]
    cases n with
    | doctype name =>
      simp only [Node.isPlainOpening, Bool.and_eq_true, List.all_eq_true] at h
      exact ⟨rfl, fun m hm => hcomment m (h.2 m hm)⟩
    | comment text =>
      simp only [Node.isPlainOpening, Bool.and_eq_true] at h
      exact ⟨rfl, ih h.2⟩
    | text | fragment | element => simp [Node.isPlainOpening, Node.isPlainComment] at h

theorem isWhole_of_isPlain {doc : Document} (h : doc.isPlain = true) :
    Node.isWholeAll doc.nodes = true ∧ ∀ n ∈ doc.before, n.isElement = false := by
  simp only [Document.isPlain, Bool.and_eq_true] at h
  exact ⟨h.1.1.1.1.1, isElement_of_isPlainOpening h.1.1.1.1.2⟩

/-- What is read of a page that has been written are its nodes in order, with nothing cut off. -/
theorem nodes_ofHtml_write {doc : Document} (h : doc.isSpelled = true) :
    Node.unnumberedAll (Document.ofHtml (doc.write noRevisions)).nodes = Node.unnumberedAll doc.ordered.nodes ∧
      (Document.ofHtml (doc.write noRevisions)).loose = [] := by
  obtain ⟨hwhole, hbefore⟩ := isWhole_of_isPlain (Document.isPlain_of_isSpelled h)
  rw [ofHtml_write h]
  exact Build.Arena.toDocument_layAll hwhole hbefore

/-- A page that is plain as it was read is written in a form that is stable: what is read of it are the same nodes,
with nothing cut off, and they are written in the same form again. -/
theorem written_pages_are_stable (html : String) (h : (Document.ofHtml html).isPlain = true) :
    let page := (Document.ofHtml html).write noRevisions
    Node.unnumberedAll (Document.ofHtml page).nodes = Node.unnumberedAll (Document.ofHtml html).nodes ∧
      (Document.ofHtml page).loose = [] ∧ (Document.ofHtml page).write noRevisions = page := by
  intro page
  obtain ⟨hnodes, hloose⟩ := nodes_ofHtml_write (Document.isSpelled_of_isPlain h)
  rw [Document.ordered_of_isPlain h] at hnodes
  exact ⟨hnodes, hloose, write_eq_of_unnumbered hnodes⟩

/-- A page with a table, a list, formatting and a comment. -/
theorem written_pages_are_stable_with_table :
    let html := "<!DOCTYPE html><title>a</title><table><tr><td>1 <b>2</b></table><ul><li>x<li>y</ul><!-- d -->"
    (Document.ofHtml html).isPlain = true ∧
      let page := (Document.ofHtml html).write noRevisions
      Node.unnumberedAll (Document.ofHtml page).nodes = Node.unnumberedAll (Document.ofHtml html).nodes ∧
        (Document.ofHtml page).loose = [] ∧ (Document.ofHtml page).write noRevisions = page := by
  intro html
  have hplain : (Document.ofHtml html).isPlain = true := by decide +kernel
  exact ⟨hplain, written_pages_are_stable html hplain⟩

/-- Each time a page is read and written its preformatted text loses a line feed at its start. -/
theorem written_page_loses_line_feed :
    let page := (Document.ofHtml "<pre>\n\nx</pre>").write noRevisions
    page = "<html><head></head><body><pre>\nx</pre></body></html>" ∧
      (Document.ofHtml page).write noRevisions = "<html><head></head><body><pre>x</pre></body></html>" ∧
      (Document.ofHtml page).write noRevisions ≠ page := by
  decide +kernel

end PageEdit.Html
