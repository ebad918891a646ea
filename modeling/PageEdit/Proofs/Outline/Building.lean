import PageEdit.Outline.OfHtml

/-!
# How an outline is built

The walk over a page comes to elements and runs of text in document order and adds each under the element
around it, which it has met before. Here it is told as a chain of additions, so that what is said of an
outline can be shown for one addition at a time. Where the walk comes at all is said by looking up from a
place: nothing between it and the place where the walk began may be a script, a style, what stands in for
scripts, or the content of a template.

* `Place.filter_subtree`: the places that the walk comes to are a part of the list of all places below.
* `Built.visit`: what the walk makes of a tree is built by additions, one for each such place.
* `built_ofDocument`: so is the outline of a document.
* `Draft.mapEntries_addRun`, `Draft.map_withChildren`: what runs and children take from the entries.
-/

namespace PageEdit

namespace Html

/-! ## The places that the walk comes to -/

namespace Place

/-- The places from a place up to `top`, both included. -/
def upTo (top p : Place) : List Place :=
  p :: p.ancestors.take (p.ancestors.length - top.ancestors.length)

/-- Whether a place is that of a script, a style or what stands in for scripts. -/
def isSkipped (p : Place) : Bool := p.element?.any (Html.isSkipped ·.label)

/-- Whether a place is that of the content of a template. -/
def isContent (p : Place) : Bool :=
  match p.node with
  | .fragment _ => true
  | _ => false

/-- Whether the walk goes on at a place. -/
def isOpen (p : Place) : Bool := !p.isSkipped && !p.isContent

/-- Whether a place is that of an element or of a run of text. -/
def isStop (p : Place) : Bool :=
  match p.node with
  | .element .. | .text _ => true
  | _ => false

/-- Whether the walk from `top` comes to a place, and something is there to add. -/
def isWalked (top p : Place) : Bool := p.isStop && (upTo top p).all isOpen

mutual

/-- The places of a node and in it that the walk comes to, given the place of the node. -/
def walked (p : Place) : Node → List Place
  | .element e children =>
    if Html.isSkipped e.label then [] else p :: walkedAll (.inside p) [] children
  | .text _ => [p]
  | _ => []

/-- The places of some siblings and in them that the walk comes to. -/
def walkedAll (make : List Node → Node → List Node → Place) (before : List Node) :
    List Node → List Place
  | [] => []
  | n :: rest => walked (make before n rest) n ++ walkedAll make (n :: before) rest

end

theorem upTo_self (top : Place) : upTo top top = [top] := by simp [upTo]

theorem upTo_inside {top q : Place} (h : top.ancestors.length ≤ q.ancestors.length)
    (before : List Node) (n : Node) (after : List Node) :
    upTo top (.inside q before n after) = .inside q before n after :: upTo top q := by
  simp only [upTo, ancestors, List.length_cons, Nat.succ_sub h, List.take_succ_cons]

theorem all_upTo (top p : Place) :
    (upTo top p).all isOpen = (p.isOpen && (upTo top p).tail.all isOpen) := rfl

mutual

theorem filter_under {top p : Place} (hdepth : top.ancestors.length ≤ p.ancestors.length) :
    ∀ n : Node, p.node = n → (under p n).filter (isWalked top) =
      if (upTo top p).tail.all isOpen then walked p n else []
  | .element e children, hn => by
    have helement : p.element? = some e := by simp [element?, hn, Node.element?]
    have hopen : p.isOpen = !Html.isSkipped e.label := by
      simp [isOpen, isSkipped, isContent, helement, hn]
    have hwalked : isWalked top p = (upTo top p).all isOpen := by simp [isWalked, isStop, hn]
    rw [under, List.filter_cons, hwalked, filter_underAll hdepth, all_upTo, hopen, walked]
    cases Html.isSkipped e.label <;> cases (upTo top p).tail.all isOpen <;> rfl
  | .fragment children, hn => by
    have hopen : p.isOpen = false := by simp [isOpen, isContent, hn]
    have hwalked : isWalked top p = false := by simp [isWalked, isStop, hn]
    rw [under, List.filter_cons, hwalked, filter_underAll hdepth, all_upTo, hopen]
    simp [walked]
  | .text s, hn => by
    have hopen : p.isOpen = true := by
      simp [isOpen, isSkipped, isContent, element?, hn, Node.element?]
    have hwalked : isWalked top p = (upTo top p).all isOpen := by simp [isWalked, isStop, hn]
    simp only [under, List.filter_cons, hwalked, all_upTo, hopen, walked, List.filter_nil,
      Bool.true_and]
  | .comment s, hn => by simp [under, walked, isWalked, isStop, hn]
  | .doctype s, hn => by simp [under, walked, isWalked, isStop, hn]

theorem filter_underAll {top q : Place} (hdepth : top.ancestors.length ≤ q.ancestors.length) :
    ∀ before nodes : List Node, (underAll (.inside q) before nodes).filter (isWalked top) =
      if (upTo top q).all isOpen then walkedAll (.inside q) before nodes else []
  | _, [] => by simp [underAll, walkedAll]
  | before, n :: rest => by
    have hbelow : top.ancestors.length ≤ (Place.inside q before n rest).ancestors.length :=
      Nat.le_succ_of_le hdepth
    have hfirst := filter_under hbelow n rfl
    rw [upTo_inside hdepth, List.tail_cons] at hfirst
    rw [underAll, List.filter_append, hfirst, filter_underAll hdepth, walkedAll]
    split <;> simp

end

/-- The places below `top` that the walk comes to, in document order. -/
theorem filter_subtree (top : Place) :
    top.subtree.filter (isWalked top) = walked top top.node := by
  have h := filter_under (Nat.le_refl top.ancestors.length) top.node rfl
  rwa [upTo_self, List.tail_cons, List.all_nil, if_pos rfl] at h

end Place

end Html

namespace Outline

open Html

/-! ## Additions -/

/-- A draft after additions at the places `walked`. `owners` holds the elements among these places with what
they pass on to what is in them, in the order of the entries. -/
inductive Built (hash : String → String) (outer : Option String) :
    List Place → List (Place × Owner) → Draft → Prop
  | root {p : Place} {e : Element} {children : List Node} (node : p.node = .element e children)
      (shown : Html.isSkipped e.label = false) :
      Built hash outer [p] [(p, (Draft.empty.addElement hash none outer e children).2)]
        (Draft.empty.addElement hash none outer e children).1
  | element {walked : List Place} {owners : List (Place × Owner)} {d : Draft} {p q : Place}
      {o : Owner} {e : Element} {children : List Node} (built : Built hash outer walked owners d)
      (mem : (q, o) ∈ owners) (parent : p.parent? = some q) (node : p.node = .element e children)
      (shown : Html.isSkipped e.label = false) :
      Built hash outer (walked ++ [p])
        (owners ++ [(p, (d.addElement hash (some o) none e children).2)])
        (d.addElement hash (some o) none e children).1
  | run {walked : List Place} {owners : List (Place × Owner)} {d : Draft} {p q : Place} {o : Owner}
      {s : String} (built : Built hash outer walked owners d) (mem : (q, o) ∈ owners)
      (parent : p.parent? = some q) (node : p.node = .text s) :
      Built hash outer (walked ++ [p]) owners (d.addRun hash o s)

variable {hash : String → String} {outer : Option String}

mutual

theorem Built.visit {walked : List Place} {owners : List (Place × Owner)} {d : Draft} {p q : Place}
    {o : Owner} (built : Built hash outer walked owners d) (mem : (q, o) ∈ owners)
    (parent : p.parent? = some q) : ∀ n : Node, p.node = n →
      ∃ more, Built hash outer (walked ++ p.walked n) (owners ++ more)
        (d.visit hash (some o) none n)
  | .element e children, hn => by
    rw [Place.walked, Draft.visit]
    cases hskip : Html.isSkipped e.label with
    | true => exact ⟨[], by simpa using built⟩
    | false =>
      -- the children come after the element, under what it passes on
      have hadded := built.element mem parent hn hskip
      obtain ⟨more, hmore⟩ :=
        hadded.visitAll (List.mem_append_right _ List.mem_cons_self) [] children
      exact ⟨_, by simpa using hmore⟩
  | .text s, hn => by
    rw [Place.walked, Draft.visit]
    exact ⟨[], by simpa using built.run mem parent hn⟩
  | .fragment children, hn => ⟨[], by simpa [Place.walked, Draft.visit] using built⟩
  | .comment s, hn => ⟨[], by simpa [Place.walked, Draft.visit] using built⟩
  | .doctype s, hn => ⟨[], by simpa [Place.walked, Draft.visit] using built⟩

theorem Built.visitAll {walked : List Place} {owners : List (Place × Owner)} {d : Draft}
    {q : Place} {o : Owner} (built : Built hash outer walked owners d) (mem : (q, o) ∈ owners) :
    ∀ before nodes : List Node,
      ∃ more, Built hash outer (walked ++ Place.walkedAll (.inside q) before nodes) (owners ++ more)
        (d.visitAll hash o nodes)
  | _, [] => ⟨[], by simpa [Place.walkedAll, Draft.visitAll] using built⟩
  | before, n :: rest => by
    obtain ⟨first, hfirst⟩ := built.visit mem (p := .inside q before n rest) rfl n rfl
    obtain ⟨more, hmore⟩ := hfirst.visitAll (List.mem_append_left _ mem) (n :: before) rest
    refine ⟨first ++ more, ?_⟩
    rw [Place.walkedAll, Draft.visitAll, ← List.append_assoc, ← List.append_assoc]
    exact hmore

end

theorem exists_bodyPlace_node (doc : Document) :
    ∃ e children, doc.bodyPlace.node = .element e children ∧ Html.isSkipped e.label = false := by
  unfold Document.bodyPlace
  cases hfind : doc.elementPlaces.find? fun p => p.element?.any (·.label == "body") with
  | none =>
    have hhtml : Html.isSkipped "html" = false := by decide
    exact ⟨doc.rootElement, doc.children, rfl, hhtml⟩
  | some p =>
    have hbody := List.find?_some hfind
    cases hn : p.node with
    | element e children =>
      have hlabel : e.label = "body" := by simpa [Place.element?, Node.element?, hn] using hbody
      exact ⟨e, children, hn, by rw [hlabel]; decide⟩
    | _ => simp [Place.element?, Node.element?, hn] at hbody

/-- The draft of a document is built by additions at all places below the body that the walk comes to. -/
theorem built_ofDocument (hash : String → String) (doc : Document) :
    ∃ owners, Built hash (outerSection doc.bodyPlace)
      (doc.bodyPlace.subtree.filter doc.bodyPlace.isWalked) owners
      (Draft.empty.visit hash none (outerSection doc.bodyPlace) doc.bodyPlace.node) := by
  obtain ⟨e, children, hn, hskip⟩ := exists_bodyPlace_node doc
  have hroot : Built hash (outerSection doc.bodyPlace) _ _ _ := .root hn hskip
  obtain ⟨more, hmore⟩ := hroot.visitAll List.mem_cons_self [] children
  rw [Place.filter_subtree, hn, Place.walked, Draft.visit]
  exact ⟨_, by simpa [hskip] using hmore⟩

/-! ## Drafts with other entries -/

namespace Draft

/-- A draft with its entries changed. -/
def mapEntries (f : Entry → Entry) (d : Draft) : Draft := { d with entries := d.entries.map f }

/-- A run is added alike to drafts that differ in what is changed. -/
theorem mapEntries_addRun (f : Entry → Entry) (hash : String → String) {d d' : Draft}
    (h : d.mapEntries f = d'.mapEntries f) (owner : Owner) (s : String) :
    (d.addRun hash owner s).mapEntries f = (d'.addRun hash owner s).mapEntries f := by
  simp only [mapEntries, mk.injEq] at h
  obtain ⟨hcount, hentries, hrun, hgiven⟩ := h
  simp only [addRun]
  split
  · simp only [mapEntries, hcount, hentries, hrun, hgiven]
  · simp only [mapEntries, hcount, hentries, hrun, hgiven]

/-- Which children an entry has depends on identifiers and parents alone. -/
theorem map_withChildren (f : Entry → Entry) (hid : ∀ e, (f e).id = e.id)
    (hparent : ∀ e, (f e).parent = e.parent)
    (hchildren : ∀ e children, f { e with children } = { f e with children }) (entries : List Entry) :
    (entries.map (withChildren entries)).map f = (entries.map f).map (withChildren (entries.map f)) := by
  rw [List.map_map, List.map_map]
  refine List.map_congr_left fun e _ => ?_
  have hids : ((entries.map f).filter (·.parent == some (f e).id)).map (·.id) =
      (entries.filter (·.parent == some e.id)).map (·.id) := by
    simp only [List.filter_map, List.map_map, Function.comp_def, hid, hparent]
  change f (withChildren entries e) = withChildren (entries.map f) (f e)
  rw [withChildren, hchildren, withChildren, hids]

end Draft

end Outline

end PageEdit
