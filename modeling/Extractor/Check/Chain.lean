import Extractor.Chain.Basic
import Extractor.Check.Error
import Extractor.Draft.Basic

/-!
# Extractor.Check.Chain

The check of a single chain. Chains that were built call by call pass it; it
is there for those that were put together in another way.
-/

namespace Extractor

variable [Libraries]

/-- Checks the patterns of an operation and the groups it needs. -/
def checkPatterns : Operation → Except BuildError Unit
  | .regex pattern group => do
      let found ← Pattern.countGroups pattern.source
      Pattern.checkGroup pattern.source found group
  | .regexAll pattern => do
      let found ← Pattern.countGroups pattern.source
      Pattern.checkFindAll pattern.source found
  | operation => operation.patterns.forM fun source => discard (Pattern.countGroups source)

/-- The queries of an operation with their dialects. -/
def Operation.queries : Operation → List (Dialect × String)
  | .filterElements predicate => predicate.queries
  | operation => operation.query?.toList

/-- Checks the arguments of an operation. -/
def checkArguments (operation : Operation) : Except BuildError Unit := do
  match operation with
  | .format template => unless Draft.hasSlot template do throw (.missingSlot template)
  | _ => pure ()
  checkPatterns operation
  operation.queries.forM fun (dialect, query) => Query.check dialect query

/-- Where the check of a chain is. -/
structure ChainState where
  /-- The type of the value so far. -/
  type : ValueType
  /-- The place of the last hand-over to another schema. -/
  nestedAt : Option Nat
  deriving DecidableEq, Repr, Inhabited

namespace ChainState

/-- The start of a chain. -/
def start : ChainState := ⟨.document, none⟩

/-- Whether a step takes the value so far. What has no known type is taken by nothing that asks for
one. -/
def fits (s : ChainState) (step : Step) : Bool :=
  step.accepts.accepts s.type && !(s.type = .any && step.accepts ≠ .any)

/-- The state behind a step. -/
def advance (s : ChainState) (place : Nat) (step : Step) : ChainState where
  type := if step.isDefault then s.type else step.returns
  nestedAt := match step.operation with
    | .nested .. => some place
    | _ => s.nestedAt

/-- What is wrong with a step in this state. -/
def causes (s : ChainState) (place : Nat) (step : Step) : List CheckCause :=
  (match s.nestedAt with
    | some at' => [.nestedNotLast step.operation.method at']
    | none => [])
  ++ if step.isDefault then (if place = 0 then [] else [.defaultMisplaced])
  else
    (if s.fits step then [] else [.typeMismatch step.operation.method step.accepts s.type])
    ++ match checkArguments step.operation with
      | .ok () => []
      | .error e => [.build e]

end ChainState

/-- The errors of a chain from a place on. -/
def checkSteps (schema field : String) : ChainState → Nat → Chain → List CheckError
  | _, _, [] => []
  | s, place, step :: rest =>
      (s.causes place step).map (fun cause => ⟨schema, field, some place, cause⟩)
        ++ checkSteps schema field (s.advance place step) (place + 1) rest

/-- The errors of a chain. -/
def checkChain (schema field : String) (chain : Chain) : List CheckError :=
  if chain.isEmpty then [⟨schema, field, none, .emptyChain⟩]
  else checkSteps schema field .start 0 chain

end Extractor
