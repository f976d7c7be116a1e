import Extractor.Chain.Operation

/-!
# Extractor.Chain.Basic

Chains: operations in order, each with the type that it takes and the type
that it gives. The value starts as the document; a default in front is not part
of the flow.
-/

namespace Extractor

/-- The variable that holds the value before a step of a lowered chain. -/
structure Slot where
  /-- The place of the step, counted from zero. -/
  number : Nat
  /-- The number of steps. -/
  count : Nat
  type : ValueType
  deriving DecidableEq, Repr, Inhabited

/-- The slot in a program. -/
def Slot.toJson (s : Slot) : Json :=
  .obj [("num", .int s.number), ("count", .int s.count), ("type", .str s.type.name)]

/-- An operation and the types before and behind it. -/
structure Step where
  operation : Operation
  accepts : ValueType
  returns : ValueType
  /-- Set when the chain is lowered. -/
  slot : Option Slot
  deriving Inhabited

namespace Step

/-- A step of a chain that is not lowered. -/
def plain (operation : Operation) (accepts returns : ValueType) : Step :=
  ⟨operation, accepts, returns, none⟩

/-- Whether the step is a default. -/
def isDefault (s : Step) : Bool := s.operation.isDefault

/-- The step in a program. -/
def toJson (s : Step) : Json :=
  .obj ([("kind", .str s.operation.name)] ++ s.operation.arguments
    ++ [("accept_type", .str s.accepts.name), ("ret_type", .str s.returns.name)]
    ++ match s.slot with
      | some slot => [("variable", slot.toJson)]
      | none => [])

end Step

/-- A chain of steps. -/
abbrev Chain := List Step

namespace Chain

/-- The type of the value at the end of the chain. Without steps it is a document. -/
def cursor (chain : Chain) : ValueType :=
  match (chain.filter (!·.isDefault)).getLast? with
  | some step => step.returns
  | none => .document

/-- The literal of a default in front. -/
def default? (chain : Chain) : Option Literal :=
  match chain.head?.map Step.operation with
  | some (.default value) => some value
  | _ => none

/-- Whether there is a default anywhere. -/
def hasDefault (chain : Chain) : Bool := chain.any Step.isDefault

/-- The schema that the chain refers to. -/
def nestedSchema? (chain : Chain) : Option String :=
  chain.findSome? fun step =>
    match step.operation with
    | .nested schema _ => some schema
    | _ => none

/-- The JSON shape that the chain refers to. -/
def shape? (chain : Chain) : Option String :=
  chain.findSome? fun step =>
    match step.operation with
    | .jsonify shape _ _ => some shape
    | _ => none

/-- The names of the operations. -/
def names (chain : Chain) : List String := chain.map fun step => step.operation.name

/-- The chain in a program. -/
def toJson (chain : Chain) : Json := .arr (chain.map Step.toJson)

end Chain

end Extractor
