import Extractor.Query.Check
import Extractor.Schema.Registry

/-!
# Extractor.Conversion

Converting the queries of chains from one dialect into the other. The types of
the steps stay; what is converted has to be accepted in the new dialect.
-/

namespace Extractor

variable [Libraries]

/-- A direction of conversion. -/
inductive Conversion where
  /-- CSS becomes XPath, each path led by the given text. -/
  | toXPath (lead : String)
  /-- XPath becomes CSS. -/
  | toCss
  deriving DecidableEq, Repr, Inhabited

namespace Conversion

/-- The dialect that is converted. -/
def source : Conversion → Dialect
  | toXPath _ => .css
  | toCss => .xpath

/-- The dialect into which it is converted. -/
def target : Conversion → Dialect
  | toXPath _ => .xpath
  | toCss => .css

/-- Converts a query. -/
def convertText : Conversion → String → Except (Failure BuildError) String
  | toXPath lead, query => liftM (Query.cssToXPath query lead)
  | toCss, query => Query.xpathToCss query

/-- Converts a query and checks the result. -/
def convertQuery (c : Conversion) (query : String) : Except (Failure BuildError) String := do
  let converted ← c.convertText query
  Query.check c.target converted
  return converted

/-- Converts the query of an operation, if it is in the source dialect. -/
def convertIn (c : Conversion) (dialect : Dialect) (query : String)
    (operation : Dialect → String → Operation) :
    Except (Failure BuildError) (Option Operation) := do
  if dialect = c.source then
    let converted ← c.convertQuery query
    return some (operation c.target converted)
  else return none

/-- Converts the queries of an operation; none if it has no query in the source dialect. -/
def convertOperation (c : Conversion) :
    Operation → Except (Failure BuildError) (Option Operation)
  | .select dialect query => c.convertIn dialect query .select
  | .selectAll dialect query => c.convertIn dialect query .selectAll
  | .remove dialect query => c.convertIn dialect query .remove
  | .isFound dialect query message =>
      c.convertIn dialect query fun dialect query => .isFound dialect query message
  | .filterElements predicate =>
      if predicate.queries.any (·.1 = c.source) then do
        let converted ← predicate.mapQueries fun dialect query => do
          if dialect = c.source then return (c.target, ← c.convertQuery query)
          else return (dialect, query)
        return some (.filterElements converted)
      else .ok none
  | _ => .ok none

/-- Converts the queries of a step. -/
def convertStep (c : Conversion) (step : Step) : Except (Failure BuildError) Step := do
  match ← c.convertOperation step.operation with
  | some operation => return { step with operation := operation }
  | none => return step

/-- Converts the queries of a chain; fails at the first one that has no counterpart. -/
def convertChain (c : Conversion) (chain : Chain) : Except (Failure BuildError) Chain :=
  chain.mapM c.convertStep

/-- Converts a step where that is possible, and tells whether it was. -/
def tryStep (c : Conversion) (step : Step) : Step × Bool :=
  match c.convertOperation step.operation with
  | .ok (some operation) => ({ step with operation := operation }, true)
  | _ => (step, false)

/-- Whether converting a step ends in an overflow. -/
def overflowsAt (c : Conversion) (step : Step) : Bool :=
  match c.convertOperation step.operation with
  | .error .overflow => true
  | _ => false

/-- Converts a schema where that is possible. -/
def trySchema (c : Conversion) (schema : Schema) : Schema :=
  let members := schema.members.map fun (name, chain) =>
    (name, chain.map (·.map fun step => (c.tryStep step).1))
  { schema with members := members }

/-- The number of steps of a schema that can be converted. -/
def countIn (c : Conversion) (schema : Schema) : Nat :=
  (schema.members.flatMap fun (_, chain) => chain.getD []).countP fun step => (c.tryStep step).2

/-- Whether converting a schema ends in an overflow. -/
def overflowsIn (c : Conversion) (schema : Schema) : Bool :=
  schema.members.any fun (_, chain) => (chain.getD []).any c.overflowsAt

end Conversion

namespace Registry

/-- The registry with all queries converted that have a counterpart, and their number. The others
stay as they are. -/
def convert (r : Registry) (c : Conversion) : Registry × Nat :=
  (⟨r.schemas.map c.trySchema⟩, r.schemas.foldl (fun count schema => count + c.countIn schema) 0)

/-- Converts the queries of a registry. No query is refused, but one of them may overflow. -/
def runConversion {ε : Type} (r : Registry) (c : Conversion) :
    Except (Failure ε) (Registry × Nat) :=
  if r.schemas.any c.overflowsIn then .error .overflow else .ok (r.convert c)

end Registry

end Extractor
