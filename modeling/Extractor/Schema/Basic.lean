import Extractor.Chain.Basic
import Extractor.Keyed
import Extractor.SchemaKind

/-!
# Extractor.Schema.Basic

Schemas: named members, each with the chain that extracts it. Members with
reserved names are hooks; names that start with an underscore are no fields.
-/

namespace Extractor

/-- A declared schema. -/
structure Schema where
  name : String
  kind : SchemaKind
  /-- The direct parents, the nearest first. -/
  parents : List String
  docstring : Option String
  /-- The members in order, with distinct names. One without a chain hides an inherited one. -/
  members : List (String × Option Chain)
  /-- What to show in place of the generated signature. -/
  signature : Option Literal
  /-- The fields that the generated signature leaves out. -/
  excluded : Option (List String)
  deriving Inhabited

namespace Schema

/-- A schema without members. -/
def ofKind (name : String) (kind : SchemaKind) : Schema := ⟨name, kind, [], none, [], none, none⟩

/-- Sets a member. -/
def setMember (s : Schema) (name : String) (chain : Option Chain) : Schema :=
  { s with members := Keyed.insert name chain s.members }

/-- Whether a member of this name is a field: a hook, or a name without underscore in front. -/
def isFieldName (name : String) : Bool :=
  (Hook.ofName? name).isSome || name.toList.head? ≠ some '_'

end Schema

/-- A schema with what it inherits. -/
structure Resolved where
  /-- The fields in order, hooks included, with distinct names. -/
  fields : List (String × Chain)
  docstring : Option String
  signature : Option Literal
  excluded : Option (List String)
  deriving Inhabited

namespace Resolved

/-- The chain of a hook. -/
def hook? (r : Resolved) (hook : Hook) : Option Chain := r.fields.lookup hook.name

/-- The hooks with their chains, in order. -/
def hooks (r : Resolved) : List (Hook × Chain) :=
  r.fields.filterMap fun (name, chain) => (Hook.ofName? name).map (·, chain)

/-- The fields that are no hooks, in order. -/
def named (r : Resolved) : List (String × Chain) :=
  r.fields.filter fun (name, _) => (Hook.ofName? name).isNone

/-- What a lineage, the nearest schema first, comes to. A member hides those of the same name
further up. -/
def ofLineage (lineage : List Schema) : Resolved where
  fields :=
    let members := (lineage.flatMap Schema.members).filter fun (name, _) => Schema.isFieldName name
    (Keyed.firsts members).filterMap fun (name, chain) => chain.map (name, ·)
  docstring := lineage.findSome? Schema.docstring
  signature := lineage.findSome? Schema.signature
  excluded := lineage.findSome? Schema.excluded

end Resolved

end Extractor
