import Extractor.BuildError
import Extractor.Json.Value

/-!
# Extractor.Predicate.Element

Conditions on an element, by which a list of elements is filtered. They ask for
a descendant that a query finds, for words in the text or the markup, and for
attributes. Where several values are given, one of them has to fit.
-/

namespace Extractor

/-- How an attribute is compared with given values. -/
inductive AttributeTest where
  | eq
  | contains
  | starts
  | ends
  deriving DecidableEq, Repr, Inhabited

namespace AttributeTest

/-- All tests. -/
def all : List AttributeTest := [eq, contains, starts, ends]

/-- The word for the test in declarations and messages. -/
def word : AttributeTest → String
  | eq => "attr_eq"
  | contains => "attr_contains"
  | starts => "attr_starts"
  | ends => "attr_ends"

/-- The test of the given word. -/
def ofWord? (word : String) : Option AttributeTest := all.find? (·.word == word)

/-- The name of the test in programs. -/
def name : AttributeTest → String
  | eq => "ATTR_EQ"
  | contains => "ATTR_CONTAINS"
  | starts => "ATTR_STARTS"
  | ends => "ATTR_ENDS"

end AttributeTest

/-- A condition on an element. -/
inductive ElementPredicate where
  /-- The query finds something in the element. -/
  | finds (dialect : Dialect) (query : String)
  | hasText (values : List String)
  | hasRaw (values : List String)
  | textPattern (source : String) (ignoreCase : Bool)
  | rawPattern (source : String) (ignoreCase : Bool)
  /-- One of the attributes is there. -/
  | hasAttribute (keys : List String)
  | attributeValue (test : AttributeTest) (key : String) (values : List String)
  | attributePattern (key source : String) (ignoreCase : Bool)
  | and (left right : ElementPredicate)
  | or (left right : ElementPredicate)
  | not (operand : ElementPredicate)
  deriving DecidableEq, Repr, Inhabited

namespace ElementPredicate

/-- Whether the condition contains the demand for exactly this attribute. -/
def requiresAttribute (key : String) : ElementPredicate → Bool
  | hasAttribute keys => keys = [key]
  | and left right => left.requiresAttribute key || right.requiresAttribute key
  | _ => false

/-- The parts of the condition without connectives, from left to right. -/
def leaves : ElementPredicate → List ElementPredicate
  | and left right | or left right => left.leaves ++ right.leaves
  | not operand => operand.leaves
  | leaf => [leaf]

/-- The pattern of a part. -/
def pattern? : ElementPredicate → Option String
  | textPattern source _ | rawPattern source _ | attributePattern _ source _ => some source
  | _ => none

/-- The query of a part, with its dialect. -/
def query? : ElementPredicate → Option (Dialect × String)
  | finds dialect query => some (dialect, query)
  | _ => none

/-- The patterns in the condition, from left to right. -/
def patterns (p : ElementPredicate) : List String := p.leaves.filterMap pattern?

/-- The queries in the condition with their dialects, from left to right. -/
def queries (p : ElementPredicate) : List (Dialect × String) := p.leaves.filterMap query?

/-- The condition with every query replaced. -/
def mapQueries {ε : Type} (f : Dialect → String → Except ε (Dialect × String)) :
    ElementPredicate → Except ε ElementPredicate
  | finds dialect query => do
      let (dialect, query) ← f dialect query
      return finds dialect query
  | and left right => do return and (← left.mapQueries f) (← right.mapQueries f)
  | or left right => do return or (← left.mapQueries f) (← right.mapQueries f)
  | not operand => do return not (← operand.mapQueries f)
  | leaf => .ok leaf

/-- The condition in words. -/
def text : ElementPredicate → String
  | finds .css query => "css(" ++ Text.quoted query ++ ")"
  | finds .xpath query => "xpath(" ++ Text.quoted query ++ ")"
  | hasText values => "has_text(" ++ Text.quotedList values ++ ")"
  | hasRaw values => "has_raw(" ++ Text.quotedList values ++ ")"
  | textPattern source _ => "re_text(" ++ Text.quoted source ++ ")"
  | rawPattern source _ => "re_raw(" ++ Text.quoted source ++ ")"
  | hasAttribute keys => "has_attr(" ++ Text.quotedList keys ++ ")"
  | attributeValue test key values =>
      test.word ++ "(" ++ Text.quoted key ++ ", " ++ Text.quotedList values ++ ")"
  | attributePattern key source _ =>
      "attr_re(" ++ Text.quoted key ++ ", " ++ Text.quoted source ++ ")"
  | and left right => "(" ++ left.text ++ " & " ++ right.text ++ ")"
  | or left right => "(" ++ left.text ++ " | " ++ right.text ++ ")"
  | not operand => "!" ++ operand.text

/-- The condition in a program. -/
def toJson : ElementPredicate → Json
  | finds .css query => .obj [("op", .str "CSS"), ("query", .str query)]
  | finds .xpath query => .obj [("op", .str "XPATH"), ("query", .str query)]
  | hasText values => .obj [("op", .str "HAS_TEXT"), ("values", .arr (values.map .str))]
  | hasRaw values => .obj [("op", .str "HAS_RAW"), ("values", .arr (values.map .str))]
  | textPattern source ignoreCase =>
      .obj [("op", .str "TEXT_REGEX"), ("pattern", .str source), ("ignore_case", .bool ignoreCase)]
  | rawPattern source ignoreCase =>
      .obj [("op", .str "RAW_REGEX"), ("pattern", .str source), ("ignore_case", .bool ignoreCase)]
  | hasAttribute keys => .obj [("op", .str "HAS_ATTR"), ("keys", .arr (keys.map .str))]
  | attributeValue test key values =>
      .obj [("op", .str test.name), ("key", .str key), ("values", .arr (values.map .str))]
  | attributePattern key source ignoreCase =>
      .obj [("op", .str "ATTR_REGEX"), ("key", .str key), ("pattern", .str source),
        ("ignore_case", .bool ignoreCase)]
  | and left right =>
      .obj [("op", .str "AND"), ("left", left.toJson), ("right", right.toJson)]
  | or left right => .obj [("op", .str "OR"), ("left", left.toJson), ("right", right.toJson)]
  | not operand => .obj [("op", .str "NOT"), ("operand", operand.toJson)]

end ElementPredicate

end Extractor
