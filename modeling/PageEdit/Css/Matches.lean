import PageEdit.Css.Selector
import PageEdit.Html.Place
import PageEdit.Text.Blank

/-!
# Which elements a selector picks

A chain of tests matches at a place if the last tests hold there and the rest of the chain matches at one
of the places that the combinator leads to.

* `Document.select_sublist`: the picked elements are among those of the document, in their order.
-/

namespace PageEdit.Css

open Html

/-! ## Attributes -/

/-- A text in the form in which it is compared. -/
def CaseRule.fold (rule : CaseRule) (e : Element) (s : String) : List Char :=
  match rule with
  | .exact => s.toList
  | .ignored => s.toList.map Char.toLower
  | .ignoredInHtml =>
    if e.name.space == .html then s.toList.map Char.toLower else s.toList

/-- Whether a value compares well with another. -/
def Comparison.holds (c : Comparison) (value wanted : List Char) : Bool :=
  match c with
  | .equal => value == wanted
  | .word => !wanted.isEmpty && (Text.pieces Text.isAsciiBlank value).contains wanted
  | .dashed => value == wanted || (wanted ++ ['-']).isPrefixOf value
  | .starts => !wanted.isEmpty && wanted.isPrefixOf value
  | .ends => !wanted.isEmpty && wanted.isSuffixOf value
  | .substring => !wanted.isEmpty && Text.containsChars wanted value

/-- A name in the form in which it is looked for: HTML knows no capitals. -/
def foldName (e : Element) (s : String) : String :=
  if e.name.space == .html then s.map Char.toLower else s

/-- Whether an element passes a test for an attribute. -/
def AttrTest.holds (t : AttrTest) (e : Element) : Bool :=
  let label := foldName e t.label
  e.attrs.any fun a =>
    (t.anySpace || a.name.space == .plain) && a.name.label == label &&
      match t.value with
      | none => true
      | some (c, wanted, rule) => c.holds (rule.fold e a.value) (rule.fold e wanted)

/-! ## Classes and positions -/

/-- Whether an element has a class. Any attribute with the label `class` gives it classes. -/
def hasClass (e : Element) (cls : String) : Bool :=
  e.attrs.any fun a => a.name.label == "class" && (Text.splitAsciiBlanks a.value).contains cls

/-- The greatest number that positions are counted with. -/
def greatestPosition : Int := (Nat.pow 2 31 - 1 : Nat)

/-- Whether the element that is the `index`th has a position. -/
def Position.includes (p : Position) (index : Nat) : Bool :=
  let d := (index : Int) - p.offset
  if greatestPosition < d then false
  else if p.step == 0 then d == 0
  else
    let n := d.tdiv p.step
    0 ≤ n && p.step * n == d

/-- The number of an element among its siblings that count, from one. -/
def Position.index (p : Position) (place : Place) (e : Element) : Nat :=
  let others := if p.fromEnd then place.later else place.earlier
  1 + (others.filterMap Node.element?).countP fun o => !p.ofType || o.name == e.name

/-! ## Places -/

/-- The place of the parent element. -/
def parentPlace? (p : Place) : Option Place := p.parent?.filter (·.node.isElement)

/-- The places of the elements around a place, nearest first, up to one that is no element. -/
def outerPlaces (p : Place) : List Place := p.ancestors.takeWhile (·.node.isElement)

/-- The places of the elements before a place, nearest first. -/
def earlierElements (p : Place) : List Place := p.earlierPlaces.filter (·.node.isElement)

/-- The places that a combinator leads to. -/
def Combinator.places (c : Combinator) (p : Place) : List Place :=
  match c with
  | .descendant => outerPlaces p
  | .child => (parentPlace? p).toList
  | .next => (earlierElements p).take 1
  | .later => earlierElements p

/-- The places that can be related to a place: what is in it, and its later siblings with what is in
them. -/
def relatedPlaces (p : Place) : List Place :=
  (p.descendants ++ p.laterPlaces.flatMap Place.subtree).filter (·.node.isElement)

/-! ## Tests and chains -/

mutual

/-- Whether the element at a place passes a test, `anchor` being the element that `:has` begins at. -/
def Test.holds (anchor : Option Nat) (p : Place) (e : Element) : Test → Bool
  | .any => true
  | .noSpace => false
  | .never => false
  | .label s => e.label == foldName e s
  | .id s => e.id? == some s
  | .cls s => hasClass e s
  | .attr t => t.holds e
  | .nth position => position.includes (position.index p e)
  | .root => p.isTop
  | .empty => !p.node.children.any fun
    | .element .. | .text _ => true
    | _ => false
  | .oneOf list => anyMatches anchor p list
  | .noneOf list => !anyMatches anchor p list
  | .has list => anyRelated e.id (relatedPlaces p) list

/-- Whether an element passes all tests. -/
def allHold (anchor : Option Nat) (p : Place) (e : Element) : List Test → Bool
  | [] => true
  | t :: rest => t.holds anchor p e && allHold anchor p e rest

/-- Whether a selector matches at a place. -/
def Selector.holds (anchor : Option Nat) (p : Place) : Selector → Bool
  | .anchor => p.node.isElement && anchor == some p.elementId
  | .tests list =>
    match p.element? with
    | some e => allHold anchor p e list
    | none => false
  | .chain outer c list =>
    match p.element? with
    | some e => allHold anchor p e list && (c.places p).any fun q => outer.holds anchor q
    | none => false

/-- Whether one of some selectors matches at a place. -/
def anyMatches (anchor : Option Nat) (p : Place) : List Selector → Bool
  | [] => false
  | s :: rest => s.holds anchor p || anyMatches anchor p rest

/-- Whether one of some selectors matches at one of some places, beginning at the element `anchor`. -/
def anyRelated (anchor : Nat) (places : List Place) : List Selector → Bool
  | [] => false
  | s :: rest =>
    (places.any fun q => s.holds (some anchor) q) || anyRelated anchor places rest

end

/-- The places of the elements that some selectors pick, in the order of their numbers. -/
def select (selectors : List Selector) (doc : Document) : List Place :=
  doc.elementPlaces.filter fun p => anyMatches none p selectors

theorem select_sublist (selectors : List Selector) (doc : Document) :
    (select selectors doc).Sublist doc.elementPlaces := List.filter_sublist

end PageEdit.Css
