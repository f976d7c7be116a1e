import Extractor.Program.Lower

/-!
# Extractor.Signature

Signatures: sketches of results in JSON, which stand in docstrings. A record
shows its fields, a sequence its first element and an ellipsis. A type that is
being sketched already appears as its name.
-/

namespace Extractor

/-- What stands for more of the same. -/
def ellipsis : Json := .str "..."

/-- A sequence of what is sketched. -/
def sequenceSketch (item : Json) : Json := .arr [item, ellipsis]

/-- The sketch of an object of a shape. The first argument bounds the depth, `path` holds the names
that are being sketched. An unknown name is its own sketch. -/
def Shapes.object (shapes : Shapes) : Nat → List String → String → Json
  | 0, _, name => .str name
  | fuel + 1, path, name =>
      match shapes.get? name with
      | none => .str name
      | some shape =>
          if path.contains name then .str name
          else
            .obj (shape.fields.map fun (key, type) =>
              (key, match type with
                | .scalar item => .str item.signatureName
                | .null => .str "null"
                | .optional item => .str (item.signatureName ++ " | null")
                | .list item => .str ("Array<" ++ item.signatureName ++ ">")
                | .objects other => sequenceSketch (Shapes.object shapes fuel (name :: path) other)
                | .object other => Shapes.object shapes fuel (name :: path) other))

/-- The sketch of a document of a shape. -/
def Shapes.signature (shapes : Shapes) (name : String) : Json :=
  let object := Shapes.object shapes (shapes.length + 1) [] name
  if shapes.isArray name then sequenceSketch object else object

namespace Registry

/-- The sketch of what a chain extracts; `nested` sketches another schema. -/
def chainSketch (shapes : Shapes) (nested : String → Except AssembleError Json) (chain : Chain) :
    Except AssembleError Json :=
  match Chain.nestedSchema? chain, Chain.shape? chain with
  | some schema, _ => nested schema
  | none, some shape => .ok (shapes.signature shape)
  | none, none =>
      let name := (Chain.cursor chain).signatureName
      .ok (.str (if (Chain.default? chain).any Literal.isNull then name ++ " | null" else name))

/-- The sketch of what a hook extracts. -/
def hookSketch (shapes : Shapes) (nested : String → Except AssembleError Json)
    (resolved : Resolved) (hook : Hook) : Except AssembleError Json :=
  match resolved.hook? hook with
  | some chain => chainSketch shapes nested chain
  | none => .ok (.str "Any")

/-- The sketch of the named fields that are not excluded. -/
def recordSketch (shapes : Shapes) (nested : String → Except AssembleError Json)
    (resolved : Resolved) : Except AssembleError Json := do
  let excluded := resolved.excluded.getD []
  let shown := resolved.named.filter fun (field, _) => !excluded.contains field
  let fields ← shown.mapM fun (field, chain) => do
    return (field, ← chainSketch shapes nested chain)
  return .obj fields

/-- The sketch of the result of a kind. -/
def kindSketch (shapes : Shapes) (nested : String → Except AssembleError Json)
    (resolved : Resolved) : SchemaKind → Except AssembleError Json
  | .item => recordSketch shapes nested resolved
  | .list => sequenceSketch <$> recordSketch shapes nested resolved
  | .dict => do
      let value ← hookSketch shapes nested resolved .value
      return .obj [("<K>", value), ("<KN>", ellipsis)]
  | .flatList => sequenceSketch <$> hookSketch shapes nested resolved .item
  | .accUniqueList => .ok (sequenceSketch (.str "String"))

/-- The sketch of the result of a schema. The first argument bounds the depth, `path` holds the
names that are being sketched. -/
def sketch (r : Registry) (shapes : Shapes) :
    Nat → List String → String → Except AssembleError Json
  | 0, _, name => .ok (.str name)
  | fuel + 1, path, name =>
      if path.contains name then .ok (.str name)
      else do
        let schema ← r.resolve name name
        let resolved ← r.linearise name
        match resolved.signature with
        | some literal => return literal.toJson
        | none => kindSketch shapes (r.sketch shapes fuel (name :: path)) resolved schema.kind

/-- The signature of a schema. -/
def signature (r : Registry) (shapes : Shapes) (name : String) : Except AssembleError Json :=
  r.sketch shapes (r.schemas.length + 2) [] name

/-- A docstring with the signature of its schema below. -/
def docstring (r : Registry) (shapes : Shapes) (name text : String) :
    Except AssembleError String := do
  let signature ← r.signature shapes name
  if Text.isBlankString text then return signature.pretty
  else return Text.trimmedEnd text ++ "\n\n" ++ signature.pretty

end Registry

end Extractor
