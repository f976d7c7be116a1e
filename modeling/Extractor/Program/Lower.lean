import Extractor.Program.Basic
import Extractor.Schema.Registry

/-!
# Extractor.Program.Lower

Lowering: chains become functions with numbered variables, schemas become
parsers and result types. References stay names here; their places are known
only when the whole module is put together.
-/

namespace Extractor

/-! ## chains -/

/-- The steps of a chain with their slots. -/
def numberSteps (count : Nat) (steps : List Step) : List Step :=
  steps.zipIdx.map fun (step, number) => { step with slot := some ⟨number, count, step.accepts⟩ }

/-- The last step of a lowered chain: the result, or the end of a function that only asserts. It
shares the number of the step before it. -/
def endingStep (returns : Bool) (type : ValueType) (count : Nat) : Step :=
  if returns then ⟨.result, type, type, some ⟨count - 1, count, type⟩⟩
  else ⟨.noResult, type, .null, some ⟨count - 1, count, .null⟩⟩

/-- The function of a chain. A default in front becomes the fallback. -/
def lowerChain (chain : Chain) (returns : Bool) : FunctionBody :=
  let steps := chain.filter (!·.isDefault)
  let type := Chain.cursor chain
  let fallback := Chain.default? chain
  ⟨type, fallback.any Literal.isNull, fallback,
    numberSteps steps.length steps ++ [endingStep returns type steps.length]⟩

/-! ## parsers -/

/-- A call of a function of the parser. -/
def callStep (function : String) (returns : ValueType) : Step :=
  .plain (.call function) .document returns

/-- A call of a hook, which gives the type of its chain. -/
def hookCall (resolved : Resolved) (hook : Hook) : Step :=
  callStep hook.name (((resolved.hook? hook).map Chain.cursor).getD .any)

/-- The calls by which a parser works. -/
def startCalls (kind : SchemaKind) (resolved : Resolved) : List Step :=
  (if (resolved.hook? .preValidate).isSome then [callStep Hook.preValidate.name .null] else [])
  ++ (if kind.requiredHooks.contains .splitDoc then [callStep Hook.splitDoc.name .listDocument]
    else [])
  ++ match kind with
    | .item | .list | .accUniqueList =>
        resolved.named.map fun (field, chain) => callStep field (Chain.cursor chain)
    | .dict => [hookCall resolved .key, hookCall resolved .value]
    | .flatList => [hookCall resolved .item]

/-- The functions of the hooks that the kind uses. A validation has no result. -/
def hookMembers (kind : SchemaKind) (resolved : Resolved) : List ParserMember :=
  (Hook.all.filter kind.allowsHook).filterMap fun hook =>
    (resolved.hook? hook).map fun chain => .hook hook (lowerChain chain (hook ≠ .preValidate))

/-- The functions of the named fields, if the kind has any. -/
def namedMembers (kind : SchemaKind) (resolved : Resolved) : List ParserMember :=
  if kind.hasNamedFields then
    resolved.named.map fun (field, chain) => .field field (lowerChain chain true)
  else []

/-- The parser of a schema with what it inherits. -/
def lowerSchema (name : String) (kind : SchemaKind) (resolved : Resolved) : Parser :=
  ⟨name, kind, resolved.docstring.getD "",
    [.init name [.string, .document]] ++ hookMembers kind resolved ++ namedMembers kind resolved
      ++ [.start kind (startCalls kind resolved)]⟩

/-! ## types -/

/-- Shapes by name. -/
abbrev Shapes := List JsonShape

/-- The shape of a name. -/
def Shapes.get? (shapes : Shapes) (name : String) : Option JsonShape :=
  List.find? (·.name == name) shapes

/-- Whether documents of a shape are arrays. -/
def Shapes.isArray (shapes : Shapes) (name : String) : Bool :=
  (shapes.get? name).any JsonShape.isArray

namespace Registry

/-- The type of the field that a chain extracts. -/
def fieldType (r : Registry) (shapes : Shapes) (name : String) (chain : Chain) : FieldType where
  name := name
  returns := Chain.cursor chain
  nullable := (Chain.default? chain).any Literal.isNull
  nested := (Chain.nestedSchema? chain).map fun schema =>
    ⟨schema, (r.get? schema).any (·.kind.isSequence), none⟩
  shape := (Chain.shape? chain).map fun shape => ⟨shape, shapes.isArray shape, none⟩

/-- The type of what a hook extracts. -/
def hookType (r : Registry) (shapes : Shapes) (resolved : Resolved) (hook : Hook) : FieldType :=
  match resolved.hook? hook with
  | some chain => r.fieldType shapes hook.name chain
  | none => ⟨hook.name, .any, false, none, none⟩

/-- The shape of the result of a schema. -/
def resultShape (r : Registry) (shapes : Shapes) (kind : SchemaKind) (resolved : Resolved) :
    ResultShape :=
  match kind with
  | .item | .list | .accUniqueList =>
      .record (resolved.named.map fun (field, chain) => r.fieldType shapes field chain)
  | .dict => .map (r.hookType shapes resolved .value)
  | .flatList => .list (r.hookType shapes resolved .item)

/-- The type of the result of a schema. -/
def resultType (r : Registry) (shapes : Shapes) (name : String) :
    Except AssembleError ResultType := do
  let schema ← r.resolve name name
  let resolved ← r.linearise name
  return ⟨name, schema.kind, r.resultShape shapes schema.kind resolved⟩

/-- The parser of a schema. -/
def parser (r : Registry) (name : String) : Except AssembleError Parser := do
  let schema ← r.resolve name name
  let resolved ← r.linearise name
  return lowerSchema name schema.kind resolved

end Registry

end Extractor
