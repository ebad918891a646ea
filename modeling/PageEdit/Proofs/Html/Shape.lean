import Mathlib.Data.List.Nodup
import PageEdit.Html.Content

/-!
# What is compared of documents

Two documents are held to be the same if their trees have the same elements, texts and comments in the same
places, where elements are the same that have the same name, the same set of classes, and the same values
under all other names of attributes. The numbers of elements do not count, nor does the order of attributes
and of classes, and an element without classes may have an attribute for them or not.

What is compared is put in a form of its own, the shape of a document, so that to be the same is to have
equal shapes. An element is found in a shape by the steps that lead to it.

* `Look.of_eq_iff`: when lists of attributes look the same.
* `Document.at?_steps`: the steps to an element of a document lead to it in the shape.
* `Shape.at?_put`, `Shape.put_put`, `Shape.put_at?`: putting an element somewhere and finding it there.
-/

namespace PageEdit.Html

/-! ## Attributes as a map -/

/-- The value that stands first under a name. -/
def valueAt (name : String) (pairs : List (String × String)) : Option String :=
  (pairs.find? (·.1 == name)).map (·.2)

/-- The classes that a list of attributes gives an element, with repetitions. -/
def classesIn (pairs : List (String × String)) : List String :=
  Text.splitAsciiBlanks ((valueAt "class" pairs).getD "")

theorem isSome_valueAt_iff {name : String} {pairs : List (String × String)} :
    (valueAt name pairs).isSome = true ↔ name ∈ pairs.map (·.1) := by
  simp [valueAt]

theorem valueAt_eq_some_iff {name value : String} {pairs : List (String × String)} (h : (pairs.map (·.1)).Nodup) :
    valueAt name pairs = some value ↔ (name, value) ∈ pairs := by
  constructor
  · intro hvalue
    obtain ⟨⟨k, v⟩, hfind, rfl⟩ := Option.map_eq_some_iff.mp hvalue
    obtain rfl : k = name := by simpa using List.find?_some hfind
    exact List.mem_of_find?_eq_some hfind
  · intro hmem
    have hsome : (valueAt name pairs).isSome = true := isSome_valueAt_iff.mpr (List.mem_map_of_mem hmem)
    obtain ⟨⟨k, v⟩, hfind⟩ := Option.isSome_iff_exists.mp ((Option.isSome_map ..).symm.trans hsome)
    have hk : k = name := by simpa using List.find?_some hfind
    -- the pair that is found first has the same name, so it is the same pair
    have hsame := List.inj_on_of_nodup_map h (List.mem_of_find?_eq_some hfind) hmem hk
    rw [valueAt, hfind, hsame]
    rfl

/-- Of distinct names the order does not count. -/
theorem valueAt_perm {p q : List (String × String)} (h : p.Perm q) (hp : (p.map (·.1)).Nodup) (name : String) :
    valueAt name p = valueAt name q := by
  have hq : (q.map (·.1)).Nodup := (h.map _).nodup_iff.mp hp
  exact Option.ext fun value => by rw [valueAt_eq_some_iff hp, valueAt_eq_some_iff hq, h.mem_iff]

theorem Element.attribute?_eq (e : Element) (name : String) :
    e.attribute? name = valueAt name e.attributes := rfl

/-- A name without a colon is that of an attribute of no vocabulary. -/
theorem AttrName.text_eq_iff {name : AttrName} {label : String} (h : ':' ∉ label.toList) :
    name.text = label ↔ name = .plain label := by
  obtain ⟨space, l⟩ := name
  cases space with
  | plain => simp [text, AttrSpace.lead?, plain]
  | _ =>
    refine iff_of_false (fun htext => h ?_) (by simp [plain])
    rw [← htext]
    simp [text, AttrSpace.lead?]

theorem Element.attr?_eq {e : Element} {label : String} (h : ':' ∉ label.toList) :
    e.attr? label = valueAt label e.attributes := by
  have hname : ∀ a : Attr, (a.name == AttrName.plain label) = (a.name.text == label) := fun a => by
    rw [Bool.eq_iff_iff, beq_iff_eq, beq_iff_eq, AttrName.text_eq_iff h]
  simp only [attr?, valueAt, attributes, List.find?_map, Option.map_map, hname]
  rfl

theorem Element.mem_classes {e : Element} {c : String} :
    c ∈ e.classes ↔ c ∈ classesIn e.attributes := by
  rw [classes, Order.mem_distinct, Element.attr?_eq (by decide), classesIn]

/-! ## The look of an element -/

/-- What is compared of the name and the attributes of an element. -/
structure Look where
  name : Name
  /-- The set of the classes. -/
  classes : List String
  /-- The other attributes, in the order of their names. -/
  others : List (String × String)
  deriving DecidableEq

namespace Look

/-- The names of a list of attributes, without the one for classes. -/
def otherNames (pairs : List (String × String)) : List String :=
  (pairs.map (·.1)).filter (· != "class")

/-- The look of an element with this name and these attributes. -/
def of (name : Name) (pairs : List (String × String)) : Look where
  name
  classes := Order.sortedSet (classesIn pairs)
  others := (Order.sortedSet (otherNames pairs)).map fun n => (n, (valueAt n pairs).getD "")

theorem mem_otherNames {pairs : List (String × String)} {n : String} :
    n ∈ otherNames pairs ↔ n ≠ "class" ∧ (valueAt n pairs).isSome = true := by
  rw [otherNames, List.mem_filter, isSome_valueAt_iff, and_comm, bne_iff_ne]

theorem mem_others {name : Name} {pairs : List (String × String)} {n v : String} :
    (n, v) ∈ (of name pairs).others ↔ n ≠ "class" ∧ valueAt n pairs = some v := by
  simp only [of, List.mem_map, Order.mem_sortedSet, mem_otherNames, Prod.mk.injEq]
  constructor
  · rintro ⟨_, ⟨hn, hsome⟩, rfl, hv⟩
    obtain ⟨w, hw⟩ := Option.isSome_iff_exists.mp hsome
    rw [hw, Option.getD_some] at hv
    exact ⟨hn, by rw [hw, hv]⟩
  · rintro ⟨hn, hv⟩
    exact ⟨n, ⟨hn, by rw [hv, Option.isSome_some]⟩, rfl, by rw [hv, Option.getD_some]⟩

/-- Attributes look the same exactly if they give the same classes, and the same values under other names. -/
theorem of_eq_iff {name : Name} {p q : List (String × String)} : of name p = of name q ↔
    (∀ c, c ∈ classesIn p ↔ c ∈ classesIn q) ∧ ∀ n, n ≠ "class" → valueAt n p = valueAt n q := by
  constructor
  · intro h
    refine ⟨Order.sortedSet_eq_iff.mp (congrArg classes h), fun n hn => Option.ext fun v => ?_⟩
    have hmem : (n, v) ∈ (of name p).others ↔ (n, v) ∈ (of name q).others := by rw [h]
    simpa only [mem_others, and_iff_right hn] using hmem
  · rintro ⟨hclasses, hothers⟩
    have hnames : Order.sortedSet (otherNames p) = Order.sortedSet (otherNames q) := by
      refine Order.sortedSet_eq_iff.mpr fun n => ?_
      rw [mem_otherNames, mem_otherNames]
      exact and_congr_right fun hn => by rw [hothers n hn]
    rw [of, of, Order.sortedSet_eq_iff.mpr hclasses, hnames]
    congr 1
    refine List.map_congr_left fun n hn => ?_
    rw [hothers n (mem_otherNames.mp (Order.mem_sortedSet.mp hn)).1]

/-- Whether attributes have the same under a name, of the classes only their set. -/
def SameAt (n : String) (p q : List (String × String)) : Prop :=
  if n = "class" then ∀ c, c ∈ classesIn p ↔ c ∈ classesIn q else valueAt n p = valueAt n q

section SameAt

variable {n : String} {p q r : List (String × String)}

theorem sameAt_of_valueAt_eq (h : valueAt n p = valueAt n q) : SameAt n p q := by
  unfold SameAt
  split
  · rename_i hn
    subst hn
    exact fun c => by rw [classesIn, classesIn, h]
  · exact h

theorem SameAt.trans (h : SameAt n p q) (h' : SameAt n q r) : SameAt n p r := by
  unfold SameAt at h h' ⊢
  split
  · rename_i hn
    rw [if_pos hn] at h h'
    exact fun c => (h c).trans (h' c)
  · rename_i hn
    rw [if_neg hn] at h h'
    exact Eq.trans h h'

theorem of_eq_iff_sameAt {name : Name} : of name p = of name q ↔ ∀ n, SameAt n p q := by
  rw [of_eq_iff]
  constructor
  · rintro ⟨hclasses, hothers⟩ n
    unfold SameAt
    split
    · exact hclasses
    · rename_i hn
      exact hothers n hn
  · intro h
    refine ⟨?_, fun n hn => ?_⟩
    · have hclass := h "class"
      rwa [SameAt, if_pos rfl] at hclass
    · have hother := h n
      rwa [SameAt, if_neg hn] at hother

end SameAt

end Look

/-- What is compared of an element apart from its content. -/
def Element.look (e : Element) : Look := .of e.name e.attributes

theorem Element.name_of_look {e : Element} {name : Name} {pairs : List (String × String)}
    (h : e.look = .of name pairs) : e.name = name := congrArg Look.name h

theorem Element.look_eq_iff {e : Element} {pairs : List (String × String)} :
    e.look = .of e.name pairs ↔ ∀ n, Look.SameAt n e.attributes pairs := Look.of_eq_iff_sameAt

/-! ## The shape of a document -/

/-- What is compared of a node that has no content. -/
inductive Leaf where
  | doctype (name : String)
  | comment (text : String)
  | text (text : String)
  deriving DecidableEq

/-- What is compared of a node that has content, apart from that. -/
inductive Branch where
  /-- The content of a template. -/
  | fragment
  | element (look : Look)
  deriving DecidableEq

/-- What is compared of some nodes side by side. -/
inductive Shape where
  | nil
  | leaf (node : Leaf) (later : Shape)
  | tree (node : Branch) (content later : Shape)
  deriving DecidableEq

namespace Node

mutual

/-- The shape of a node with more nodes behind it. -/
def shapeBefore (later : Shape) : Node → Shape
  | .doctype name => .leaf (.doctype name) later
  | .comment s => .leaf (.comment s) later
  | .text s => .leaf (.text s) later
  | .fragment children => .tree .fragment (shapeAll children) later
  | .element e children => .tree (.element e.look) (shapeAll children) later

/-- The shape of nodes side by side. -/
def shapeAll : List Node → Shape
  | [] => .nil
  | n :: rest => shapeBefore (shapeAll rest) n

end

end Node

/-- The shape of a document. Trees that reading has cut off do not count. -/
def Document.shape (doc : Document) : Shape := Node.shapeAll doc.nodes

/-! ## Steps to an element -/

/-- A step from one node of a shape to another. -/
inductive Step where
  /-- To the node behind it. -/
  | later
  /-- To its first child. -/
  | inside
  deriving DecidableEq

namespace Shape

/-- The nodes from where steps lead to, with those behind. -/
def from? : List Step → Shape → Option Shape
  | [], s => some s
  | .later :: steps, .leaf _ later => from? steps later
  | .later :: steps, .tree _ _ later => from? steps later
  | .inside :: steps, .tree _ content _ => from? steps content
  | _ :: _, _ => none

/-- The element that steps lead to, with its content. -/
def at? (steps : List Step) (s : Shape) : Option (Look × Shape) :=
  match from? steps s with
  | some (.tree (.element look) content _) => some (look, content)
  | _ => none

/-- A shape with another element at the end of some steps, if there is one. -/
def put (look : Look) (content : Shape) : List Step → Shape → Shape
  | [], .tree (.element _) _ later => .tree (.element look) content later
  | .later :: steps, .leaf node later => .leaf node (put look content steps later)
  | .later :: steps, .tree node inner later => .tree node inner (put look content steps later)
  | .inside :: steps, .tree node inner later => .tree node (put look content steps inner) later
  | _, s => s

variable {look : Look} {content : Shape}

theorem from?_append (a b : List Step) (s : Shape) :
    from? (a ++ b) s = (from? a s).bind (from? b) := by
  fun_induction from? a s with
  | case1 s => rfl
  | case2 steps node later ih => exact ih
  | case3 steps node content later ih => exact ih
  | case4 steps node content later ih => exact ih
  | case5 step steps s hleaf htree hinside =>
    rw [List.cons_append, from?]
    · rfl
    all_goals assumption

theorem at?_put {steps : List Step} {s : Shape} (h : (at? steps s).isSome = true) :
    at? steps (put look content steps s) = some (look, content) := by
  induction steps generalizing s with
  | nil =>
    cases s with
    | nil | leaf => cases h
    | tree node inner later =>
      cases node with
      | fragment => cases h
      | element => rfl
  | cons step steps ih =>
    cases s with
    | nil => cases step <;> cases h
    | leaf node later =>
      cases step with
      | later => exact ih h
      | inside => cases h
    | tree node inner later => cases step <;> exact ih h

theorem put_put (look' : Look) (content' : Shape) (steps : List Step) (s : Shape) :
    put look content steps (put look' content' steps s) = put look content steps s := by
  fun_induction put look' content' steps s with
  | case1 old inner later => rfl
  | case2 steps node later ih => rw [put, put, ih]
  | case3 steps node inner later ih => rw [put, put, ih]
  | case4 steps node inner later ih => rw [put, put, ih]
  | case5 => rfl

theorem put_at? {steps : List Step} {s : Shape} (h : at? steps s = some (look, content)) :
    put look content steps s = s := by
  fun_induction put look content steps s with
  | case1 old inner later =>
    obtain ⟨rfl, rfl⟩ := Prod.mk.inj (Option.some.inj h)
    rfl
  | case2 steps node later ih => rw [ih h]
  | case3 steps node inner later ih => rw [ih h]
  | case4 steps node inner later ih => rw [ih h]
  | case5 => rfl

end Shape

/-! ## Steps to a place -/

namespace Place

/-- The steps that lead to a place. -/
def steps : Place → List Step
  | .top _ before _ _ => List.replicate before.length .later
  | .inside parent before _ _ => parent.steps ++ .inside :: List.replicate before.length .later

/-- What the tree stands in that a place is in. -/
def ground : Place → Ground
  | .top ground _ _ _ => ground
  | .inside parent _ _ _ => parent.ground

end Place

namespace Shape

theorem from?_later (earlier rest : List Node) :
    (Node.shapeAll (earlier ++ rest)).from? (List.replicate earlier.length .later) =
      some (Node.shapeAll rest) := by
  induction earlier with
  | nil => rfl
  | cons n earlier ih =>
    rw [List.length_cons, List.replicate_succ, List.cons_append, Node.shapeAll]
    cases n <;> exact ih

theorem from?_inside {n : Node} (h : n.children ≠ []) (later : Shape) (steps : List Step) :
    (n.shapeBefore later).from? (.inside :: steps) = (Node.shapeAll n.children).from? steps := by
  cases n with
  | element | fragment => rfl
  | _ => exact absurd rfl h

end Shape

namespace Document

theorem exists_from?_steps {doc : Document} :
    ∀ p ∈ doc.places, ∃ later, doc.shape.from? p.steps = some (p.node.shapeBefore later) := by
  -- each place is as many steps behind the first node beside it as there are nodes before it
  refine Place.forall_mem_underAll ?_ (.top .document) (fun _ _ _ => rfl) doc.nodes ?_ [] doc.nodes rfl
  · rintro q before n after hchildren ⟨later, hq⟩
    have hne : q.node.children ≠ [] := by simp [hchildren]
    refine ⟨Node.shapeAll after, ?_⟩
    rw [Place.steps, Shape.from?_append, hq, Option.bind_some, Shape.from?_inside hne, hchildren,
      ← List.length_reverse, Shape.from?_later]
    rfl
  · intro before n after hall
    refine ⟨Node.shapeAll after, ?_⟩
    rw [shape, hall, Place.steps, ← List.length_reverse, Shape.from?_later]
    rfl

theorem at?_steps {doc : Document} {p : Place} {e : Element} {children : List Node}
    (hp : p ∈ doc.places) (hnode : p.node = .element e children) :
    doc.shape.at? p.steps = some (e.look, Node.shapeAll children) := by
  obtain ⟨later, h⟩ := exists_from?_steps p hp
  rw [Shape.at?, h, hnode]
  rfl

theorem ground_of_mem_loosePlaces {doc : Document} {p : Place} (hp : p ∈ doc.loosePlaces) : p.ground = .loose := by
  obtain ⟨n, -, hp⟩ := List.mem_flatMap.mp hp
  have hinside : Place.GoesInside fun q => q.ground = .loose := fun _ _ _ _ _ hq => hq
  exact Place.forall_mem_under hinside (.top .loose [] n []) n rfl rfl p hp

/-- An element that selectors look at stands in the document, unless its tree has been cut off. -/
theorem mem_places_of_ground {doc : Document} {p : Place} (hp : p ∈ doc.elementPlaces)
    (hground : p.ground = .document) : p ∈ doc.places := by
  rw [elementPlaces, (Order.stableSort_perm _ _).mem_iff] at hp
  rcases List.mem_append.mp (List.mem_filter.mp hp).1 with hp | hp
  · exact hp
  · rw [ground_of_mem_loosePlaces hp] at hground
    cases hground

end Document

end PageEdit.Html
