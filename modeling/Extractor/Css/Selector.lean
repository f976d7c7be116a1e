/-!
# Extractor.Css.Selector

The selectors that have an XPath counterpart: types, classes, identifiers,
attribute tests and the pseudo-classes that speak of the place among siblings,
joined by the four combinators.
-/

namespace Extractor.Css

/-- How an attribute is compared with a value. -/
inductive AttributeOperator where
  /-- `=`: the value is the attribute. -/
  | equals
  /-- `~=`: the value is one of its words. -/
  | word
  /-- `|=`: the value is the attribute, or its part before a dash. -/
  | dash
  /-- `^=`: the attribute starts with the value. -/
  | starts
  /-- `$=`: the attribute ends with the value. -/
  | ends
  /-- `*=`: the value stands somewhere in the attribute. -/
  | contains
  deriving DecidableEq, Repr, Inhabited

/-- The operator as it is written. -/
def AttributeOperator.sign : AttributeOperator → List Char
  | equals => ['=']
  | word => ['~', '=']
  | dash => ['|', '=']
  | starts => ['^', '=']
  | ends => ['$', '=']
  | contains => ['*', '=']

/-- A condition on an element. -/
inductive Condition where
  | hasClass (name : List Char)
  | hasId (name : List Char)
  | hasAttribute (name : List Char)
  | attributeIs (name : List Char) (operator : AttributeOperator) (value : List Char)
  | firstChild
  | lastChild
  | onlyChild
  | empty
  /-- The place among the siblings, counted from one. -/
  | nthChild (n : Nat)
  deriving DecidableEq, Repr, Inhabited

/-- A type and conditions; at least one of the two is there. The universal type is a star. -/
structure Compound where
  element : Option (List Char)
  conditions : List Condition
  deriving DecidableEq, Repr, Inhabited

/-- How the element of a compound selector lies to that of the one before it. -/
inductive Combinator where
  | descendant
  | child
  /-- The next sibling. -/
  | adjacent
  /-- A later sibling. -/
  | sibling
  deriving DecidableEq, Repr, Inhabited

/-- Compound selectors joined by combinators. -/
structure Complex where
  head : Compound
  tail : List (Combinator × Compound)
  deriving DecidableEq, Repr, Inhabited

end Extractor.Css
