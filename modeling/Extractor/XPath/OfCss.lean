import Extractor.Css.Reader

/-!
# Extractor.XPath.OfCss

The XPath query that selects what a CSS selector selects. Each condition
becomes a predicate, each combinator a step; a group becomes a union.
-/

namespace Extractor.XPath

/-- The axis in front of every converted selector unless another one is asked for. -/
def defaultPrefix : String := "descendant-or-self::"

/-- A text as an XPath literal: in single quotes, or in double ones if it holds a single one. -/
def literal (value : List Char) : List Char :=
  if '\'' ∈ value then '"' :: (value ++ ['"']) else '\'' :: (value ++ ['\''])

/-- A decimal numeral. -/
def numeral (n : Nat) : List Char := Nat.toDigits 10 n

/-- The test that a text is one of the words of an attribute. -/
def wordTest (name word : List Char) : List Char :=
  '@' :: name ++ " and contains(concat(' ', normalize-space(@".toList ++ name
    ++ "), ' '), ".toList ++ literal (' ' :: (word ++ [' '])) ++ [')']

/-- The test that an operator states of an attribute. -/
def attributeTest (name : List Char) (operator : Css.AttributeOperator) (value : List Char) :
    List Char :=
  let subject := '@' :: name
  match operator with
  | .equals => subject ++ " = ".toList ++ literal value
  | .word => wordTest name value
  | .dash =>
      subject ++ " and (".toList ++ subject ++ " = ".toList ++ literal value
        ++ " or starts-with(".toList ++ subject ++ ", ".toList ++ literal (value ++ ['-'])
        ++ "))".toList
  | .starts =>
      subject ++ " and starts-with(".toList ++ subject ++ ", ".toList ++ literal value ++ [')']
  | .ends =>
      subject ++ " and substring(".toList ++ subject ++ ", string-length(".toList ++ subject
        ++ ")-".toList ++ numeral (value.length - 1) ++ ") = ".toList ++ literal value
  | .contains =>
      subject ++ " and contains(".toList ++ subject ++ ", ".toList ++ literal value ++ [')']

/-- The test that a condition states, without its brackets. -/
def conditionTest : Css.Condition → List Char
  | .hasClass name => wordTest "class".toList name
  | .hasId name => "@id = ".toList ++ literal name
  | .hasAttribute name => '@' :: name
  | .attributeIs name operator value => attributeTest name operator value
  | .firstChild => "count(preceding-sibling::*) = 0".toList
  | .lastChild => "count(following-sibling::*) = 0".toList
  | .onlyChild =>
      "count(preceding-sibling::*) = 0 and count(following-sibling::*) = 0".toList
  | .empty => "not(*) and not(string-length())".toList
  | .nthChild n => "count(preceding-sibling::*) = ".toList ++ numeral (n - 1)

/-- The predicates of some conditions. -/
def predicates (conditions : List Css.Condition) : List Char :=
  conditions.flatMap fun condition => '[' :: (conditionTest condition ++ [']'])

/-- The node test of a compound selector. -/
def nodeTest (compound : Css.Compound) : List Char := compound.element.getD ['*']

/-- The step from an element to those that a combinator and a compound selector find from it. -/
def step : Css.Combinator → Css.Compound → List Char
  | .descendant, compound =>
      "/descendant-or-self::*/".toList ++ nodeTest compound ++ predicates compound.conditions
  | .child, compound => '/' :: (nodeTest compound ++ predicates compound.conditions)
  | .sibling, compound =>
      "/following-sibling::".toList ++ nodeTest compound ++ predicates compound.conditions
  | .adjacent, compound =>
      if nodeTest compound = ['*'] then
        "/following-sibling::*[position() = 1]".toList ++ predicates compound.conditions
      else
        "/following-sibling::*[(name() = ".toList ++ literal (nodeTest compound)
          ++ ") and (position() = 1)]".toList ++ predicates compound.conditions

/-- The path of a complex selector. -/
def pathOf (lead : List Char) (selector : Css.Complex) : List Char :=
  lead ++ nodeTest selector.head ++ predicates selector.head.conditions
    ++ selector.tail.flatMap fun (combinator, compound) => step combinator compound

/-- The query of a group of selectors, each path led by the given text. -/
def ofSelectors (lead : List Char) (selectors : List Css.Complex) : List Char :=
  " | ".toList.intercalate (selectors.map (pathOf lead))

end Extractor.XPath
