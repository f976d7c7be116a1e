import Extractor.Pattern
import Extractor.Predicate.Text

/-!
# Extractor.Draft.TextFilter

Building a condition on texts call by call. Successive calls are joined by
"and"; `or` and `not` join whole filters.
-/

namespace Extractor

variable [Libraries]

/-- A filter under construction; without calls it has no condition yet. -/
structure TextFilter where
  predicate : Option TextPredicate
  deriving DecidableEq, Repr, Inhabited

namespace TextFilter

/-- The filter without calls. -/
def empty : TextFilter := ⟨none⟩

/-- Adds a condition. -/
def push (f : TextFilter) (next : TextPredicate) : TextFilter :=
  match f.predicate with
  | some current => ⟨some (.and current next)⟩
  | none => ⟨some next⟩

/-- A call on a filter. -/
inductive Call where
  | value (test : ValueTest) (values : List String)
  | pattern (source : String) (ignoreCase : Bool)
  | length (comparison : Comparison) (n : Nat)
  | and (other : TextFilter)
  | or (other : TextFilter)
  | not (other : TextFilter)
  deriving DecidableEq, Repr, Inhabited

/-- Adds the condition of another filter, if it has one. -/
def pushFilter (f : TextFilter) (other : Option TextPredicate) : TextFilter :=
  match other with
  | some p => f.push p
  | none => f

/-- Joins two filters by "or"; an empty one does not count. -/
def orElse (f g : TextFilter) : TextFilter :=
  match f.predicate, g.predicate with
  | some left, some right => ⟨some (.or left right)⟩
  | left, right => ⟨left.or right⟩

/-- Adds a call. -/
def apply (f : TextFilter) : Call → Except BuildError TextFilter
  | .value test values => .ok (f.push (.value test values))
  | .pattern source ignoreCase => do
      let p ← Pattern.checked source ignoreCase false
      return f.push (.pattern p.source p.ignoreCase)
  | .length comparison n => .ok (f.push (.length comparison n))
  | .and other => .ok (f.pushFilter other.predicate)
  | .or other => .ok (f.orElse other)
  | .not other => .ok (f.pushFilter (other.predicate.map .not))

end TextFilter

end Extractor
