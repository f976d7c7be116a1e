import Extractor.Json.Value
import Extractor.Text.Quoted

/-!
# Extractor.Predicate.Text

Conditions on a text, by which a list of texts is filtered. Where several
values are given, one of them has to fit.
-/

namespace Extractor

/-- How the length of a text is compared with a number. -/
inductive Comparison where
  | eq
  | ne
  | lt
  | le
  | gt
  | ge
  deriving DecidableEq, Repr, Inhabited

namespace Comparison

/-- All comparisons. -/
def all : List Comparison := [eq, ne, lt, le, gt, ge]

/-- The sign of the comparison. -/
def sign : Comparison → String
  | eq => "=="
  | ne => "!="
  | lt => "<"
  | le => "<="
  | gt => ">"
  | ge => ">="

/-- The name of the comparison in programs. -/
def name : Comparison → String
  | eq => "EQ"
  | ne => "NE"
  | lt => "LT"
  | le => "LE"
  | gt => "GT"
  | ge => "GE"

/-- The comparison of the given name. -/
def ofName? (name : String) : Option Comparison := all.find? (·.name == name)

end Comparison

/-- How a text is compared with given values. -/
inductive ValueTest where
  | eq
  | ne
  | contains
  | starts
  | ends
  deriving DecidableEq, Repr, Inhabited

namespace ValueTest

/-- All tests. -/
def all : List ValueTest := [eq, ne, contains, starts, ends]

/-- The word for the test in declarations and messages. -/
def word : ValueTest → String
  | eq => "eq"
  | ne => "ne"
  | contains => "contains"
  | starts => "starts"
  | ends => "ends"

/-- The test of the given word. -/
def ofWord? (word : String) : Option ValueTest := all.find? (·.word == word)

/-- The name of the test in programs. -/
def name : ValueTest → String
  | eq => "EQ"
  | ne => "NEQ"
  | contains => "CONTAINS"
  | starts => "STARTS"
  | ends => "ENDS"

end ValueTest

/-- A condition on a text. -/
inductive TextPredicate where
  | value (test : ValueTest) (values : List String)
  | pattern (source : String) (ignoreCase : Bool)
  | length (comparison : Comparison) (n : Nat)
  | and (left right : TextPredicate)
  | or (left right : TextPredicate)
  | not (operand : TextPredicate)
  deriving DecidableEq, Repr, Inhabited

namespace TextPredicate

/-- The patterns in the condition, from left to right. -/
def patterns : TextPredicate → List String
  | value .. | length .. => []
  | pattern source _ => [source]
  | and left right | or left right => left.patterns ++ right.patterns
  | not operand => operand.patterns

/-- The condition in words. -/
def text : TextPredicate → String
  | value test values => test.word ++ "(" ++ Text.quotedList values ++ ")"
  | pattern source _ => "re(" ++ Text.quoted source ++ ")"
  | length comparison n => "len " ++ comparison.sign ++ " " ++ toString n
  | and left right => "(" ++ left.text ++ " & " ++ right.text ++ ")"
  | or left right => "(" ++ left.text ++ " | " ++ right.text ++ ")"
  | not operand => "!" ++ operand.text

/-- The condition in a program. -/
def toJson : TextPredicate → Json
  | value test values => .obj [("op", .str test.name), ("values", .arr (values.map .str))]
  | pattern source ignoreCase =>
      .obj [("op", .str "REGEX"), ("pattern", .str source), ("ignore_case", .bool ignoreCase)]
  | length comparison n =>
      .obj [("op", .str "LEN_CMP"), ("cmp", .str comparison.name), ("len", .int n)]
  | and left right =>
      .obj [("op", .str "AND"), ("left", left.toJson), ("right", right.toJson)]
  | or left right => .obj [("op", .str "OR"), ("left", left.toJson), ("right", right.toJson)]
  | not operand => .obj [("op", .str "NOT"), ("operand", operand.toJson)]

end TextPredicate

end Extractor
