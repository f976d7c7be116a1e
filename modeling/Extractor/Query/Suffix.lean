import Extractor.BuildError
import Extractor.Text.Split

/-!
# Extractor.Query.Suffix

Extraction suffixes. A query may end with a few words that belong to neither
query language and say what to take from the elements found: `a::text`,
`a::raw`, `a::attr(href, src)` behind CSS, `//a/text()`, `//a/raw()`,
`//a/@href` behind XPath. They are cut off before the query is checked.
-/

namespace Extractor

/-- What a suffix takes from an element. -/
inductive Extraction where
  | text
  /-- The markup of the element. -/
  | raw
  | attributes (names : List String)
  deriving DecidableEq, Repr, Inhabited

/-- A query and the suffix that stood behind it. -/
structure SuffixedQuery where
  query : String
  extraction : Option Extraction
  deriving DecidableEq, Repr, Inhabited

namespace SuffixedQuery

/-- A query without suffix. -/
def plain (cs : List Char) : SuffixedQuery := ⟨String.ofList cs, none⟩

/-- The text before a suffix, and the suffix. -/
def before (cs : List Char) (extraction : Extraction) : SuffixedQuery :=
  ⟨String.ofList (Text.trimEnd cs), some extraction⟩

/-- The names between the parentheses of an attribute suffix. -/
def attributeNames (cs : List Char) : List String :=
  ((Text.splitOn ',' cs).map Text.trim).filter (!·.isEmpty) |>.map String.ofList

/-- The query and the names of an attribute suffix, if the text ends with one. -/
def attributeSuffix? (cs : List Char) : Option (List Char × List String) :=
  if cs.getLast? = some ')' then
    (Text.splitLast? "::attr(".toList cs).map fun (query, names) =>
      (query, attributeNames names.dropLast)
  else none

/-- Cuts the suffix off a CSS query. -/
def ofCss (query : String) : Except BuildError SuffixedQuery :=
  let cs := Text.trim query.toList
  match Text.stripSuffix? "::text".toList cs, Text.stripSuffix? "::raw".toList cs,
    attributeSuffix? cs with
  | some rest, _, _ => .ok (before rest .text)
  | _, some rest, _ => .ok (before rest .raw)
  | _, _, some (_, []) => .error (.argument "css" (.emptySuffix (String.ofList cs)))
  | _, _, some (rest, names) => .ok (before rest (.attributes names))
  | none, none, none => .ok (plain cs)

/-- Whether the character may stand in the name of an attribute suffix. -/
def isAttributePart (c : Char) : Bool :=
  Text.isAlphanumeric c || c = '_' || c = ':' || c = '-'

/-- The query and the name of an attribute step, if the text ends with one. -/
def attributeStep? (cs : List Char) : Option (List Char × List Char) :=
  match Text.splitLast? ['/', '@'] cs with
  | some (rest, name) =>
      if !name.isEmpty && name.all isAttributePart then some (rest, name) else none
  | none => none

/-- Cuts the suffix off an XPath query. -/
def ofXPath (query : String) : SuffixedQuery :=
  let cs := Text.trim query.toList
  match Text.stripSuffix? "/text()".toList cs, Text.stripSuffix? "/raw()".toList cs,
    attributeStep? cs with
  | some rest, _, _ => before rest .text
  | _, some rest, _ => before rest .raw
  | _, _, some (rest, name) => before rest (.attributes [String.ofList name])
  | none, none, none => plain cs

/-- Cuts the suffix off a query of the given dialect. -/
def ofDialect : Dialect → String → Except BuildError SuffixedQuery
  | .css, query => ofCss query
  | .xpath, query => .ok (ofXPath query)

end SuffixedQuery

/-- Refuses a query with a suffix, on behalf of the given method. -/
def Query.rejectSuffix (dialect : Dialect) (method query : String) : Except BuildError Unit := do
  let split ← SuffixedQuery.ofDialect dialect query
  if split.extraction.isSome then throw (.argument method (.suffixNotAllowed query))

end Extractor
