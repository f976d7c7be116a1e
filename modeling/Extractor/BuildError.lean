import Extractor.Css.Reader
import Extractor.Text.Quoted
import Extractor.ValueType
import Extractor.XPath.ToCss
import Extractor.XPath.Token

/-!
# Extractor.BuildError

Why a chain cannot be built: a query or a pattern that is not accepted, an
operation that does not take the type of the value it follows, an argument
that makes no sense. The causes are data; `BuildError.message` words them.
-/

namespace Extractor

/-- The two query languages. -/
inductive Dialect where
  | css
  | xpath
  deriving DecidableEq, Repr, Inhabited

/-- The dialect's name in messages. -/
def Dialect.name : Dialect → String
  | css => "CSS"
  | xpath => "XPath"

/-- The suspicion that a query was meant for another dialect. -/
def Dialect.mistakenFor (other dialect : Dialect) : String :=
  "looks like " ++ other.name ++ " query, not " ++ dialect.name

/-- What is wrong with a query. -/
inductive SelectorFault where
  /-- Not a list of selectors. -/
  | malformed
  /-- Not an XPath expression. -/
  | notXPath (e : XPath.SyntaxError)
  /-- An XPath expression that is a selector too. -/
  | ambiguous
  /-- A selector without XPath counterpart; the offset counts characters. -/
  | noXPath (obstacle : Css.Obstacle) (offset : Nat)
  /-- An XPath query without CSS counterpart. -/
  | noCss (obstacle : XPath.Obstacle)
  deriving DecidableEq, Repr, Inhabited

/-- The fault in words. -/
def SelectorFault.text : SelectorFault → String
  | malformed => "<css error>"
  | notXPath e => e.message
  | ambiguous => "query is ambiguous"
  | noXPath obstacle offset =>
      "cannot convert to XPath: " ++ obstacle.text ++ " at offset " ++ toString offset
  | noCss obstacle => "cannot convert to CSS: " ++ obstacle.text

/-- What is wrong with a pattern. -/
inductive PatternFault where
  | malformed
  /-- Groups are counted from one. -/
  | groupZero
  | notOneGroup (found : Nat)
  | missingGroup (group found : Nat)
  /-- More than one group where all matches are wanted. -/
  | severalGroups (found : Nat)
  deriving DecidableEq, Repr, Inhabited

/-- The fault in words. -/
def PatternFault.text : PatternFault → String
  | malformed => "<regex error>"
  | groupZero => "group index must be at least 1"
  | notOneGroup found => "expected exactly one capturing group, found " ++ toString found
  | missingGroup group found =>
      "group " ++ toString group ++ " requested but pattern has " ++ toString found
        ++ " capturing group(s)"
  | severalGroups found =>
      "findall supports at most one capturing group, found " ++ toString found

/-- What is wrong with an argument. -/
inductive ArgumentFault where
  /-- An attribute suffix without names. -/
  | emptySuffix (query : String)
  /-- An extraction suffix on a query that only tests or removes. -/
  | suffixNotAllowed (query : String)
  | noAttributeName
  | listDefault
  | mapDefault
  | emptyTable
  /-- A literal of another type than the value it is compared with. -/
  | operandType (literal : String) (actual : ValueType)
  /-- A literal of another type than the items it is searched among. -/
  | itemType (literal : String) (actual : ValueType)
  | emptyFilter
  deriving DecidableEq, Repr, Inhabited

/-- The fault in words. -/
def ArgumentFault.text : ArgumentFault → String
  | emptySuffix query => "'" ++ query ++ "' has an empty ::attr() list"
  | suffixNotAllowed query => "pseudo-selectors are not allowed here: '" ++ query ++ "'"
  | noAttributeName => "at least one attribute name is required"
  | listDefault => "only an empty list is allowed as a list default"
  | mapDefault => "mappings cannot be used as a default"
  | emptyTable => "replacement table is empty"
  | operandType literal actual =>
      literal ++ " operand does not match cursor type " ++ actual.name
  | itemType literal actual => literal ++ " operand does not match items of " ++ actual.name
  | emptyFilter => "empty filter"

/-- What to do where text is wanted and an element is there. -/
inductive ExtractHint where
  /-- The last call was the default. -/
  | afterDefault
  | afterSelector
  deriving DecidableEq, Repr, Inhabited

/-- The hint in words. -/
def ExtractHint.text : ExtractHint → String
  | afterDefault => "after default() extract text/attribute first"
  | afterSelector => "extract text/attribute after selector"

/-- Why a call cannot be added to a chain. -/
inductive BuildError where
  /-- The query is not accepted; it may look like one of another dialect. -/
  | selector (dialect : Dialect) (query : String) (fault : SelectorFault)
      (looksLike : Option Dialect)
  | pattern (source : String) (fault : PatternFault)
  /-- A format template without a slot. -/
  | missingSlot (template : String)
  /-- The operation does not take the value it follows. -/
  | typeMismatch (method : String) (expected : List ValueType) (actual : ValueType)
      (hint : Option ExtractHint)
  /-- A default that is not the first call. -/
  | defaultMisplaced
  | argument (method : String) (fault : ArgumentFault)
  deriving DecidableEq, Repr, Inhabited

namespace BuildError

/-- A hint behind a message, if there is one. -/
def hintText : Option String → String
  | some hint => " (hint: " ++ hint ++ ")"
  | none => ""

/-- Types of which one is expected. -/
def typesText (types : List ValueType) : String := " | ".intercalate (types.map ValueType.name)

/-- The error in words. -/
def message : BuildError → String
  | selector dialect query fault looksLike =>
      "invalid " ++ dialect.name ++ " query " ++ Text.quoted query ++ ": " ++ fault.text
        ++ hintText (looksLike.map (·.mistakenFor dialect))
  | pattern source fault => "invalid regex " ++ Text.quoted source ++ ": " ++ fault.text
  | missingSlot template =>
      "format template " ++ Text.quoted template ++ " has no '\x7b\x7b\x7d\x7d' slot"
  | typeMismatch method expected actual hint =>
      method ++ "(): expected " ++ typesText expected ++ ", got " ++ actual.name
        ++ hintText (hint.map ExtractHint.text)
  | defaultMisplaced => "misplaced default: default() must be the first call of a chain"
  | argument method fault => method ++ "(): " ++ fault.text

end BuildError

end Extractor
