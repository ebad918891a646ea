import PageEdit.Proofs.Patch.Effect
import PageEdit.Proofs.Patch.Undoing

/-!
# Taking patches back

The patches that take back a list of patches are sound, so that each of them applies as soon as its selector
picks an element that it can change. Nothing makes sure that it picks the element that its patch has changed:
the patch may have changed what its selector asks for. What is taken back if it does is told here turn by
turn. A turn is a patch that picks a single element, which stands in the document, on a page that is read
again as it has been written.

* `plan_of_mem_rollback`: the patches of a rollback are sound.
* `shape_of_retraces`: the turns of an inverse lead back to the element that its patch has changed.
* `rollback_restores_what_it_finds_again`: the turns of a rollback lead back to the shape of the page.
-/

namespace PageEdit

open Html

/-! ## The patches of a rollback -/

/-- The inverse of a patch that applies is made of the first element that it picks. -/
theorem inverse?_of_apply {html next : String} {p : Patch} (h : p.apply html = .ok next) :
    ∃ plan place rest e, p.plan = .ok plan ∧ p.places html = place :: rest ∧ place.element? = some e ∧
      p.inverse? html = some (Inverse.ofChange p.selector e place.node plan.change) := by
  obtain ⟨plan, hplan, -⟩ := exists_plan_of_apply h
  obtain ⟨hselectors, hchange⟩ := Patch.plan_selectors hplan
  have hplaces : p.places html ≠ [] := by
    intro hnone
    refine (Patch.apply_eq_ok_iff.mp h).1 ?_
    rw [Patch.edited, Patch.picked, hnone, List.filterMap_nil, List.filter_nil]
  obtain ⟨place, rest, hplace⟩ := List.exists_cons_of_ne_nil hplaces
  have hselect : Css.select plan.selectors (.ofHtml html) = place :: rest := by
    rw [← Patch.places_of_plan hplan, hplace]
  have hmem : place ∈ Css.select plan.selectors (.ofHtml html) := hselect ▸ List.mem_cons_self
  obtain ⟨e, he⟩ := Option.isSome_iff_exists.mp (element?_isSome_of_mem_select hmem)
  refine ⟨plan, place, rest, e, hplan, hplace, he, ?_⟩
  simp only [Patch.inverse?, hselectors, hselect, he, hchange, Option.map_some]

theorem rollback_cons_of_inverse {html next : String} {p : Patch} {inverse : List Patch}
    (h : p.apply html = .ok next) (hinverse : p.inverse? html = some inverse) (rest : List Patch) :
    rollback html (p :: rest) = rollback next rest ++ inverse := by
  simp [rollback, hinverse, h]

theorem plan_of_change {p q : Patch} {plan : Plan} {c : Change} (h : p.plan = .ok plan)
    (hselector : q.selector = p.selector) (hchange : q.change = .ok c) :
    q.plan = .ok ⟨plan.selectors, c⟩ := by
  have hselectors : q.selectors = .ok plan.selectors := by
    rw [← (Patch.plan_selectors h).1, Patch.selectors, Patch.selectors, hselector]
  rw [Patch.plan, hselectors, hchange]
  rfl

theorem plan_of_mem_ofChange {p q : Patch} {plan : Plan} {e : Element} {node : Node}
    (h : p.plan = .ok plan) (hq : q ∈ Inverse.ofChange p.selector e node plan.change) :
    ∃ c, q.plan = .ok ⟨plan.selectors, c⟩ := by
  have hchanges : (Inverse.ofChange p.selector e node plan.change).map (·.change) =
      (Inverse.changes e node plan.change).map Except.ok :=
    Inverse.map_change_ofChange (Patch.isWellFormed_change (Patch.plan_selectors h).2) e node
  have hmem : q.change ∈ (Inverse.changes e node plan.change).map Except.ok :=
    hchanges ▸ List.mem_map_of_mem hq
  obtain ⟨c, -, hc⟩ := List.mem_map.mp hmem
  exact ⟨c, plan_of_change h (Inverse.selector_of_mem_ofChange hq) hc.symm⟩

/-- The patches of a rollback are sound, and each has the selector of a patch that it takes back. -/
theorem plan_of_mem_rollback (html : String) (patches : List Patch) :
    ∀ q ∈ rollback html patches,
      (∃ plan, q.plan = .ok plan) ∧ ∃ p ∈ patches, q.selector = p.selector := by
  induction html, patches using run_induction with
  | nil html => exact fun q hq => absurd hq List.not_mem_nil
  | @applies html next p rest h ih =>
    obtain ⟨plan, place, _, e, hplan, -, -, hinverse⟩ := inverse?_of_apply h
    rw [rollback_cons_of_inverse h hinverse]
    intro q hq
    rcases List.mem_append.mp hq with hq | hq
    · obtain ⟨hsound, p', hp', hselector⟩ := ih q hq
      exact ⟨hsound, p', List.mem_cons_of_mem p hp', hselector⟩
    · obtain ⟨c, hc⟩ := plan_of_mem_ofChange hplan hq
      exact ⟨⟨_, hc⟩, p, List.mem_cons_self, Inverse.selector_of_mem_ofChange hq⟩
  | @fails html p fault rest h ih =>
    rw [rollback_cons_of_error h]
    intro q hq
    obtain ⟨hsound, p', hp', hselector⟩ := ih q hq
    exact ⟨hsound, p', List.mem_cons_of_mem p hp', hselector⟩

/-- Whether a fault is that a selector picks no element, or none that can be changed. -/
def PatchFault.isOfPicking : PatchFault → Bool
  | .noMatch _ | .voidOnly _ => true
  | _ => false

theorem isOfPicking_of_plan {html : String} {p : Patch} {plan : Plan} {fault : PatchFault}
    (hplan : p.plan = .ok plan) (h : p.apply html = .error fault) : fault.isOfPicking = true := by
  rw [Patch.apply_of_plan hplan] at h
  simp only [Patch.applyPlan] at h
  split at h
  · obtain rfl := Except.error.inj h
    rfl
  split at h
  · obtain rfl := Except.error.inj h
    rfl
  · cases h

/-- Sound patches fail only because of what their selectors pick. -/
theorem isOfPicking_of_mem_failures (html : String) (patches : List Patch)
    (hsound : ∀ p ∈ patches, ∃ plan, p.plan = .ok plan) :
    ∀ f ∈ (applyAll html patches).failures, f.fault.isOfPicking = true := by
  induction html, patches using run_induction with
  | nil html => exact fun f hf => absurd hf List.not_mem_nil
  | @applies html next p rest h ih =>
    rw [applyAll_cons_of_ok h, Report.failures_followedBy, List.nil_append]
    intro f hf
    obtain ⟨g, hg, rfl⟩ := List.mem_map.mp hf
    exact ih (fun q hq => hsound q (List.mem_cons_of_mem p hq)) g hg
  | @fails html p fault rest h ih =>
    rw [applyAll_cons_of_error h, Report.failures_followedBy, List.singleton_append]
    obtain ⟨plan, hplan⟩ := hsound p List.mem_cons_self
    refine List.forall_mem_cons.mpr ⟨isOfPicking_of_plan hplan h, fun f hf => ?_⟩
    obtain ⟨g, hg, rfl⟩ := List.mem_map.mp hf
    exact ih (fun q hq => hsound q (List.mem_cons_of_mem p hq)) g hg

/-! ## Turns -/

/-- What a patch does to an element. -/
structure Edit where
  steps : List Step
  /-- How it looks before. -/
  before : Look
  /-- What is in it before. -/
  inner : Shape
  /-- How it looks as it is written. -/
  after : Look
  /-- Whether what is in it is written as it was. -/
  keeps : Bool
  deriving DecidableEq

/-- What a patch does to the element at a place of the document itself. -/
def Patch.editAt? (p : Patch) (place : Place) : Option Edit :=
  match place.ground, place.node with
  | .document, .element e children =>
    (p.revision? e).map fun r =>
      ⟨place.steps, e.look, Node.shapeAll children, e.lookUnder r, r.content == .keep⟩
  | _, _ => none

/-- What a patch does to the only element that it picks on a page. -/
def Patch.onlyEdit? (html : String) (p : Patch) : Option Edit :=
  match p.places html with
  | [place] => p.editAt? place
  | _ => none

/-- A turn: a patch picks a single element, and what is read of the page that it leaves is what it has written,
content that it brings being read as `content`. -/
structure Turn (html next : String) (p : Patch) (edit : Edit) (content : Shape) : Prop where
  edits : p.onlyEdit? html = some edit
  applies : p.apply html = .ok next
  reads : (Document.ofHtml next).shape =
    .put edit.after (if edit.keeps then edit.inner else content) edit.steps (Document.ofHtml html).shape

/-- Whether patches take turns at the element that some steps lead to. -/
def Retraces (steps : List Step) (content : Shape) : String → List Patch → Prop
  | _, [] => True
  | html, q :: rest => ∃ next edit, Turn html next q edit content ∧ edit.steps = steps ∧
    Retraces steps content next rest

/-- Whether patches take turns on a page, and the patches that take them back, in the opposite order, take
turns at the same elements. Of each inverse the content is taken to be what was in the element before. -/
def Reversible : String → List Patch → Prop
  | _, [] => True
  | html, p :: rest => ∃ next edit content inverse, Turn html next p edit content ∧
    p.action ≠ .removeElement ∧ p.inverse? html = some inverse ∧ Reversible next rest ∧
    Retraces edit.steps edit.inner (applyAll (applyAll next rest).html (rollback next rest)).html inverse

theorem mem_elementPlaces_of_mem_places {html : String} {p : Patch} {place : Place}
    (h : place ∈ p.places html) : place ∈ (Document.ofHtml html).elementPlaces := by
  cases hplan : p.plan with
  | error fault =>
    rw [Patch.places, hplan] at h
    exact absurd h List.not_mem_nil
  | ok plan =>
    rw [Patch.places_of_plan hplan] at h
    exact (Css.select_sublist _ _).subset h

theorem exists_of_onlyEdit? {html : String} {p : Patch} {edit : Edit}
    (h : p.onlyEdit? html = some edit) :
    ∃ place e children r, p.places html = [place] ∧ place ∈ (Document.ofHtml html).places ∧
      place.node = .element e children ∧ p.revision? e = some r ∧
      (Document.ofHtml html).shape.at? edit.steps = some (e.look, Node.shapeAll children) ∧
      edit = ⟨place.steps, e.look, Node.shapeAll children, e.lookUnder r, r.content == .keep⟩ := by
  rw [Patch.onlyEdit?] at h
  split at h
  · rename_i place hplaces
    rw [Patch.editAt?] at h
    split at h
    · rename_i e children hground hnode
      obtain ⟨r, hr, rfl⟩ := Option.map_eq_some_iff.mp h
      have hmem : place ∈ p.places html := hplaces ▸ List.mem_cons_self
      have hplace := Document.mem_places_of_ground (mem_elementPlaces_of_mem_places hmem) hground
      exact ⟨place, e, children, r, hplaces, hplace, hnode, hr, Document.at?_steps hplace hnode, rfl⟩
    · cases h
  · cases h

theorem revision?_of_change {q : Patch} {c : Change} {e : Element} {r : Revision}
    (hchange : q.change = .ok c) (hr : q.revision? e = some r) : c.revision? e = some r := by
  cases hplan : q.plan with
  | error fault =>
    rw [Patch.revision?, hplan] at hr
    cases hr
  | ok plan =>
    rw [Patch.revision?_of_plan hplan] at hr
    obtain rfl := Except.ok.inj ((Patch.plan_selectors hplan).2.symm.trans hchange)
    exact hr

theorem action_of_change {p : Patch} (h : p.change = .ok .remove) : p.action = .removeElement := by
  unfold Patch.change at h
  cases haction : p.action <;> rw [haction] at h
  case replaceClass | setAttribute | setStyle =>
    obtain ⟨_, -, h⟩ := exists_of_bind_eq_ok h
    obtain ⟨_, -, h⟩ := exists_of_bind_eq_ok h
    cases h
  all_goals
    obtain ⟨_, -, h⟩ := exists_of_bind_eq_ok h
    cases h

theorem contentFrom_eq {r : Revision} {old new : Shape} :
    r.contentFrom old new = if r.content == .keep then old else new := by
  rw [Revision.contentFrom]
  simp only [beq_iff_eq]

theorem shape_of_retraces {e : Element} {content inner : Shape} {look : Look} {steps : List Step}
    {html : String} {patches : List Patch} {changes : List Change}
    (hturns : Retraces steps content html patches)
    (hchanges : patches.map (·.change) = changes.map Except.ok)
    (hback : LeadsBack e content look inner changes)
    (hat : (Document.ofHtml html).shape.at? steps = some (look, inner)) :
    (applyAll html patches).failures = [] ∧
      (Document.ofHtml (applyAll html patches).html).shape =
        .put e.look content steps (Document.ofHtml html).shape := by
  induction patches generalizing html changes look inner with
  | nil =>
    obtain rfl : changes = [] := by simpa using hchanges.symm
    obtain ⟨rfl, rfl⟩ := hback
    exact ⟨rfl, (Shape.put_at? hat).symm⟩
  | cons q rest ih =>
    obtain ⟨next, edit, hturn, hsteps, hrest⟩ := hturns
    cases changes with
    | nil => cases hchanges
    | cons c changes =>
      obtain ⟨hchange, hchanges⟩ := List.cons.inj hchanges
      obtain ⟨place, f, children, r, -, -, -, hr, hf, rfl⟩ := exists_of_onlyEdit? hturn.edits
      subst hsteps
      -- the element of the turn is the one at the end of the steps, so it looks as `LeadsBack` asks for
      obtain ⟨rfl, rfl⟩ := Prod.mk.inj (Option.some.inj (hf.symm.trans hat))
      have hreads := hturn.reads
      rw [← contentFrom_eq] at hreads
      have hnext : (Document.ofHtml next).shape.at? place.steps =
          some (f.lookUnder r, r.contentFrom (Node.shapeAll children) content) := by
        rw [hreads]
        exact Shape.at?_put (by rw [hat]; rfl)
      obtain ⟨hfailures, hshape⟩ :=
        ih hrest hchanges (hback f rfl r (revision?_of_change hchange hr)) hnext
      rw [applyAll_cons_of_ok hturn.applies, Report.failures_followedBy, Report.html_followedBy, hfailures,
        hshape, hreads, Shape.put_put]
      exact ⟨rfl, rfl⟩

theorem applyAll_append_eq (html : String) (p q : List Patch) :
    applyAll html (p ++ q) =
      (applyAll html p).followedBy p.length (applyAll (applyAll html p).html q) := by
  rw [applyAll_append, Report.run_eq_followedBy]

theorem shape_of_reversible {html : String} {patches : List Patch} (h : Reversible html patches) :
    (applyAll (applyAll html patches).html (rollback html patches)).failures = [] ∧
      (Document.ofHtml (applyAll (applyAll html patches).html (rollback html patches)).html).shape =
        (Document.ofHtml html).shape := by
  induction patches generalizing html with
  | nil => exact ⟨rfl, rfl⟩
  | cons p rest ih =>
    obtain ⟨next, edit, content, inverse, hturn, hremove, hinverse, hrest, hback⟩ := h
    obtain ⟨place, e, children, r, hplaces, -, hnode, hr, hat, rfl⟩ := exists_of_onlyEdit? hturn.edits
    have hreads := hturn.reads
    rw [← contentFrom_eq] at hreads
    dsimp only at hat hreads hback
    -- the patches of the inverse are those of the change, made of the same element
    obtain ⟨plan, place', rest', e', hplan, hplaces', he', hinverse'⟩ := inverse?_of_apply hturn.applies
    obtain ⟨rfl, -⟩ := List.cons.inj (hplaces.symm.trans hplaces')
    obtain rfl : e = e' := by simpa [Place.element?, hnode, Node.element?] using he'
    obtain rfl := Option.some.inj (hinverse.symm.trans hinverse')
    rw [hnode] at hback
    have hchange := (Patch.plan_selectors hplan).2
    have hrevision := revision?_of_change hchange hr
    have hwellFormed := Patch.isWellFormed_change hchange
    have hleads : LeadsBack e (Node.shapeAll children) (e.lookUnder r)
        (r.contentFrom (Node.shapeAll children) content)
        (Inverse.changes e (.element e children) plan.change) :=
      Inverse.leadsBack_changes hwellFormed (fun hc => hremove (action_of_change (hc ▸ hchange)))
        hrevision content
    -- the page that the other patches have been taken back on has the shape of the one that `p` has left
    obtain ⟨hfailures, hshape⟩ := ih hrest
    rw [hreads] at hshape
    have hafter : (Document.ofHtml
        (applyAll (applyAll next rest).html (rollback next rest)).html).shape.at? place.steps =
          some (e.lookUnder r, r.contentFrom (Node.shapeAll children) content) := by
      rw [hshape]
      exact Shape.at?_put (by rw [hat]; rfl)
    obtain ⟨hfailures', hshape'⟩ :=
      shape_of_retraces hback (Inverse.map_change_ofChange hwellFormed e _) hleads hafter
    rw [applyAll_cons_of_ok hturn.applies, Report.html_followedBy,
      rollback_cons_of_inverse hturn.applies hinverse', applyAll_append_eq, Report.failures_followedBy,
      Report.html_followedBy, hfailures, hnode, hfailures', hshape', hshape, Shape.put_put,
      Shape.put_at? hat]
    exact ⟨rfl, rfl⟩

/-! ## Main statement -/

/-- The patches of a rollback are sound, and each has the selector of a patch that it takes back. So they fail
only because their selectors pick no element that can be changed, and all apply exactly if each of them finds
one in its turn. If the patches take turns on a page, and those that take them back take turns at the same
elements, they lead back to a page with the same elements, texts and comments, each element with the same
classes and other attributes. -/
theorem rollback_restores_what_it_finds_again (html : String) (patches : List Patch) :
    let changed := (applyAll html patches).html
    let inverse := rollback html patches
    let back := applyAll changed inverse
    (∀ q ∈ inverse, (∃ plan, q.plan = .ok plan) ∧ ∃ p ∈ patches, q.selector = p.selector) ∧
      (∀ f ∈ back.failures, f.fault.isOfPicking = true) ∧
      (back.isComplete = true ↔ ∀ before q after, inverse = before ++ q :: after →
        q.edited (applyAll changed before).html ≠ []) ∧
      (Reversible html patches →
        back.isComplete = true ∧ (Document.ofHtml back.html).shape = (Document.ofHtml html).shape) := by
  intro changed inverse back
  have hsound := plan_of_mem_rollback html patches
  refine ⟨hsound, ?_, isComplete_iff changed inverse, fun h => ?_⟩
  · exact isOfPicking_of_mem_failures changed inverse fun q hq => (hsound q hq).1
  · obtain ⟨hfailures, hshape⟩ := shape_of_reversible h
    exact ⟨List.isEmpty_iff.mpr hfailures, hshape⟩

/-- An element that is picked by its identifier is found again when its class has been replaced. -/
theorem rollback_restores_what_it_finds_again_by_id :
    let html := "<p class=\"a\" id=\"i\">x"
    let p : Patch := { Patch.bare "#i" .replaceClass with oldValue := some "a", newValue := some "b" }
    Reversible html [p] ∧
      (Document.ofHtml (applyAll (applyAll html [p]).html (rollback html [p])).html).shape =
        (Document.ofHtml html).shape := by
  intro html p
  let q : Patch := { Patch.bare "#i" .replaceClass with oldValue := some "b", newValue := some "a" }
  let text := Shape.leaf (.text "x") .nil
  let a : Look := ⟨.html "p", ["a"], [("id", "i")]⟩
  let b : Look := ⟨.html "p", ["b"], [("id", "i")]⟩
  let steps : List Step := [.inside, .later, .inside]
  let changed := "<html><head></head><body><p class=\"b\" id=\"i\">x</p></body></html>"
  let restored := "<html><head></head><body><p class=\"a\" id=\"i\">x</p></body></html>"
  have hforward : Turn html changed p ⟨steps, a, text, b, true⟩ .nil :=
    ⟨by decide +kernel, Patch.apply_eq_ok_iff.mpr ⟨by decide +kernel, by decide +kernel⟩,
      by decide +kernel⟩
  have hback : Turn changed restored q ⟨steps, b, text, a, true⟩ text :=
    ⟨by decide +kernel, Patch.apply_eq_ok_iff.mpr ⟨by decide +kernel, by decide +kernel⟩,
      by decide +kernel⟩
  have hinverse : p.inverse? html = some [q] := by decide +kernel
  have hreversible : Reversible html [p] :=
    ⟨changed, _, .nil, [q], hforward, by decide, hinverse, trivial, restored, _, hback, rfl, trivial⟩
  exact ⟨hreversible, ((rollback_restores_what_it_finds_again html [p]).2.2.2 hreversible).2⟩

/-- A class that is the only thing its selector asks for is taken from the single element that has it, so that
the patch that gives it back picks nothing. -/
theorem rollback_misses_element_without_its_class :
    let html := "<p class=\"a\">x</p>"
    let p : Patch := { Patch.bare ".a" .removeClass with oldValue := some "a" }
    let back := applyAll (applyAll html [p]).html (rollback html [p])
    (applyAll html [p]).isComplete = true ∧ (p.places html).length = 1 ∧ back.isComplete = false ∧
      (Document.ofHtml back.html).shape ≠ (Document.ofHtml html).shape := by
  decide +kernel

end PageEdit
