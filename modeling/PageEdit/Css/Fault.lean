import PageEdit.Css.Token

/-!
# What is wrong with a selector

The causes for which a selector is refused and their wording. Causes that a writer of selectors does not
expect are shown spelled out.
-/

namespace PageEdit.Css

/-- Why a selector is refused. -/
inductive Fault where
  /-- It ends where more has to come. -/
  | ended
  /-- A token stands where it cannot stand. -/
  | unexpected (t : Token)
  | emptySelector
  /-- Nothing follows a combinator. -/
  | danglingCombinator
  /-- Something stands where it may not, as a relation inside a relation. -/
  | invalidState
  /-- No name stands in the brackets of an attribute. -/
  | noAttrName (t : Token)
  /-- A token after an attribute name is no operator. -/
  | noOperator (t : Token)
  /-- The value of an attribute is neither a name nor a string. -/
  | badValue (t : Token)
  /-- No bar follows a star in the brackets of an attribute. -/
  | noBar (t : Token)
  /-- No name follows a vocabulary in the brackets of an attribute. -/
  | noQualifiedAttr (t : Token)
  /-- No name follows a vocabulary. -/
  | noQualifiedName (t : Token)
  /-- A vocabulary that is not declared. -/
  | unknownSpace (s : String)
  | noClassName (t : Token)
  /-- No name follows a colon. -/
  | noPseudoName (t : Token)
  | unknownPseudo (s : String)

namespace Fault

/-- A cause spelled out, if it is shown like that. -/
def spelled? : Fault → Option String
  | .ended | .unexpected _ | .noPseudoName _ => none
  | .emptySelector => some "EmptySelector"
  | .danglingCombinator => some "DanglingCombinator"
  | .invalidState => some "InvalidState"
  | .noAttrName t => some (spellItem "NoQualifiedNameInAttributeSelector" t.spelled)
  | .noOperator t => some (spellItem "UnexpectedTokenInAttributeSelector" t.spelled)
  | .badValue t => some (spellItem "BadValueInAttr" t.spelled)
  | .noBar t => some (spellItem "ExpectedBarInAttr" t.spelled)
  | .noQualifiedAttr t => some (spellItem "InvalidQualNameInAttr" t.spelled)
  | .noQualifiedName t => some (spellItem "ExplicitNamespaceUnexpectedToken" t.spelled)
  | .unknownSpace s => some (spellItem "ExpectedNamespace" (Text.quoted s))
  | .noClassName t => some (spellItem "ClassNeedsIdent" t.spelled)
  | .unknownPseudo s => some (spellItem "UnsupportedPseudoClassOrElement" (Text.quoted s))

/-- The wording of a cause. -/
def message (f : Fault) : String :=
  match f with
  | .ended => "Unexpected EOL"
  | .unexpected t => "Token " ++ Text.quoted t.text ++ " was not expected"
  | .noPseudoName t =>
    "Expected identity for pseudoelement, got " ++ Text.quoted t.text ++ " instead"
  | _ =>
    "Unexpected error occurred. Please report this to the developer\n" ++ f.spelled?.getD ""

end Fault

end PageEdit.Css
