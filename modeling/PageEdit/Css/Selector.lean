/-!
# Selectors

A selector is a chain of tests for single elements, read from the element that is picked outwards: each
combinator says which other elements the next test is for. A selector in `:has` begins at the element that
has it.
-/

namespace PageEdit.Css

/-- Where the next test of a chain looks. -/
inductive Combinator where
  | descendant
  | child
  /-- The element just before. -/
  | next
  /-- Any element before. -/
  | later
  deriving Repr, DecidableEq, Inhabited

/-- How the value of an attribute is compared. -/
inductive Comparison where
  | equal
  /-- One of the words of the value. -/
  | word
  /-- The value, or its beginning up to a dash. -/
  | dashed
  | starts
  | ends
  | substring
  deriving Repr, DecidableEq, Inhabited

/-- Whether the case of ASCII letters counts in a comparison. -/
inductive CaseRule where
  | exact
  | ignored
  /-- It does not count in HTML elements. -/
  | ignoredInHtml
  deriving Repr, DecidableEq, Inhabited

/-- A test for an attribute. -/
structure AttrTest where
  label : String
  /-- Whether the attribute may be of any vocabulary, not of none only. -/
  anySpace : Bool
  /-- What its value is compared with, if it is not enough that it is there. -/
  value : Option (Comparison × String × CaseRule)
  deriving Repr, DecidableEq, Inhabited

/-- A position among siblings: every `step` elements from `offset` on. -/
structure Position where
  step : Int
  offset : Int
  /-- Whether only elements of the same name count. -/
  ofType : Bool
  /-- Whether counting begins at the last sibling. -/
  fromEnd : Bool
  deriving Repr, DecidableEq, Inhabited

mutual

/-- A test for one element. -/
inductive Test where
  | any
  /-- An element of no vocabulary; there is none. -/
  | noSpace
  | label (s : String)
  | id (s : String)
  | cls (s : String)
  | attr (t : AttrTest)
  | nth (p : Position)
  /-- The root of the document. -/
  | root
  /-- An element with neither elements nor text in it. -/
  | empty
  | oneOf (list : List Selector)
  | noneOf (list : List Selector)
  /-- Some element related to this one as the selectors say. -/
  | has (list : List Selector)
  /-- A test that nothing passes: one that could not be read, or one for the host of a shadow tree. -/
  | never

/-- A chain of tests. -/
inductive Selector where
  | tests (list : List Test)
  | chain (outer : Selector) (combinator : Combinator) (list : List Test)
  /-- The element that a selector in `:has` begins at. -/
  | anchor

end

instance : Inhabited Test := ⟨.never⟩

instance : Inhabited Selector := ⟨.tests []⟩

end PageEdit.Css
