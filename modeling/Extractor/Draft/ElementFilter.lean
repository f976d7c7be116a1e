import Extractor.Pattern
import Extractor.Predicate.Element
import Extractor.Query.Check
import Extractor.Query.Suffix

/-!
# Extractor.Draft.ElementFilter

Building a condition on elements call by call. Successive calls are joined by
"and". A test of an attribute first asks for the attribute, unless that has
been asked for already.
-/

namespace Extractor

variable [Libraries]

/-- The method that selects in a dialect. -/
def Dialect.method : Dialect → String
  | css => "css"
  | xpath => "xpath"

/-- Checks a query that may not have a suffix, on behalf of the given method, and trims it. -/
def Query.plain (dialect : Dialect) (method query : String) : Except BuildError String := do
  Query.rejectSuffix dialect method query
  let query := Text.trimmed query
  Query.check dialect query
  return query

/-- A filter under construction; without calls it has no condition yet. -/
structure ElementFilter where
  predicate : Option ElementPredicate
  deriving DecidableEq, Repr, Inhabited

namespace ElementFilter

/-- The filter without calls. -/
def empty : ElementFilter := ⟨none⟩

/-- Adds a condition. -/
def push (f : ElementFilter) (next : ElementPredicate) : ElementFilter :=
  match f.predicate with
  | some current => ⟨some (.and current next)⟩
  | none => ⟨some next⟩

/-- Adds a condition on an attribute behind the demand for it. -/
def pushGuarded (f : ElementFilter) (key : String) (next : ElementPredicate) : ElementFilter :=
  if f.predicate.any (·.requiresAttribute key) then f.push next
  else (f.push (.hasAttribute [key])).push next

/-- A call on a filter. -/
inductive Call where
  | finds (dialect : Dialect) (query : String)
  | hasText (values : List String)
  | hasRaw (values : List String)
  | textPattern (source : String) (ignoreCase : Bool)
  | rawPattern (source : String) (ignoreCase : Bool)
  | hasAttribute (keys : List String)
  | attributeValue (test : AttributeTest) (key : String) (values : List String)
  | attributePattern (key source : String) (ignoreCase : Bool)
  | and (other : ElementFilter)
  | or (other : ElementFilter)
  | not (other : ElementFilter)
  deriving DecidableEq, Repr, Inhabited

/-- Adds the condition of another filter, if it has one. -/
def pushFilter (f : ElementFilter) (other : Option ElementPredicate) : ElementFilter :=
  match other with
  | some p => f.push p
  | none => f

/-- Joins two filters by "or"; an empty one does not count. -/
def orElse (f g : ElementFilter) : ElementFilter :=
  match f.predicate, g.predicate with
  | some left, some right => ⟨some (.or left right)⟩
  | left, right => ⟨left.or right⟩

/-- Adds a call. -/
def apply (f : ElementFilter) : Call → Except BuildError ElementFilter
  | .finds dialect query => do
      let query ← Query.plain dialect dialect.method query
      return f.push (.finds dialect query)
  | .hasText values => .ok (f.push (.hasText values))
  | .hasRaw values => .ok (f.push (.hasRaw values))
  | .textPattern source ignoreCase => do
      let p ← Pattern.checked source ignoreCase false
      return f.push (.textPattern p.source p.ignoreCase)
  | .rawPattern source ignoreCase => do
      let p ← Pattern.checked source ignoreCase false
      return f.push (.rawPattern p.source p.ignoreCase)
  | .hasAttribute keys => .ok (f.push (.hasAttribute keys))
  | .attributeValue test key values => .ok (f.pushGuarded key (.attributeValue test key values))
  | .attributePattern key source ignoreCase => do
      let p ← Pattern.checked source ignoreCase false
      return f.pushGuarded key (.attributePattern key p.source p.ignoreCase)
  | .and other => .ok (f.pushFilter other.predicate)
  | .or other => .ok (f.orElse other)
  | .not other => .ok (f.pushFilter (other.predicate.map .not))

end ElementFilter

end Extractor
