import Extractor.AssembleError
import Extractor.Schema.Basic

/-!
# Extractor.Schema.Registry

The schemas of a module by name, and what each of them inherits. A schema
inherits from parents of its own kind only; others are passed over.
-/

namespace Extractor

/-- Schemas in the order of their declaration, with distinct names. -/
structure Registry where
  schemas : List Schema
  deriving Inhabited

namespace Registry

/-- The registry without schemas. -/
def empty : Registry := ⟨[]⟩

/-- The schema of a name. -/
def get? (r : Registry) (name : String) : Option Schema := r.schemas.find? (·.name == name)

/-- Whether there is a schema of this name. -/
def contains (r : Registry) (name : String) : Bool := (r.get? name).isSome

/-- The names of the schemas. -/
def names (r : Registry) : List String := r.schemas.map Schema.name

/-- Adds a schema, whose name has to be new. -/
def register (r : Registry) (schema : Schema) : Except AssembleError Registry :=
  if r.contains schema.name then .error (.duplicateSchema schema.name)
  else .ok ⟨r.schemas ++ [schema]⟩

/-- The schema that another one refers to. -/
def resolve (r : Registry) (name referrer : String) : Except AssembleError Schema :=
  match r.get? name with
  | some schema => .ok schema
  | none => .error (.unknownSchema name referrer)

/-- Adds a schema and then its ancestors of the given kind, depth first. The first argument bounds
the depth; schemas that were met before are left out, so the number of schemas is enough. -/
def visit (r : Registry) (kind : SchemaKind) :
    Nat → List Schema → Schema → Except AssembleError (List Schema)
  | 0, done, _ => .ok done
  | fuel + 1, done, schema =>
      if done.any (·.name == schema.name) then .ok done
      else
        schema.parents.foldlM
          (fun done name => do
            let parent ← r.resolve name schema.name
            if parent.kind = kind then r.visit kind fuel done parent else return done)
          (done ++ [schema])

/-- A schema and its ancestors of the same kind, the nearest first. -/
def lineage (r : Registry) (name : String) : Except AssembleError (List Schema) := do
  let root ← r.resolve name name
  r.visit root.kind (r.schemas.length + 1) [] root

/-- A schema with what it inherits. -/
def linearise (r : Registry) (name : String) : Except AssembleError Resolved := do
  let lineage ← r.lineage name
  return .ofLineage lineage

end Registry

end Extractor
