import Extractor.Check.Schema
import Extractor.Conversion
import Extractor.Module.Order
import Extractor.Signature

/-!
# Extractor.Module.Basic

Modules: schemas and JSON shapes declared together. Assembling a module
resolves its references, checks it, converts its queries if asked to, and
lowers it into a program.
-/

namespace Extractor

variable [Libraries]

/-- Options of assembling. -/
structure Options where
  /-- Whether to write docstrings with signatures. -/
  docstrings : Bool := true
  cssToXPath : Bool := false
  xpathToCss : Bool := false
  /-- What leads every path made from CSS. -/
  lead : String := XPath.defaultPrefix
  deriving DecidableEq, Repr, Inhabited

namespace Options

/-- What is wrong with the options. -/
def fault? (o : Options) : Option OptionsFault :=
  if o.cssToXPath && o.xpathToCss then some .conflictingConversions
  else if o.cssToXPath && Text.isBlankString o.lead then some .emptyLead
  else none

/-- Checks the options. -/
def check (o : Options) : Except AssembleError Unit :=
  match o.fault? with
  | some fault => .error (.options fault)
  | none => .ok ()

/-- The conversion that is asked for. -/
def conversion? (o : Options) : Option Conversion :=
  if o.cssToXPath then some (.toXPath o.lead)
  else if o.xpathToCss then some .toCss
  else none

end Options

/-- The declarations of a module. -/
structure Module where
  docstring : Option String
  registry : Registry
  /-- The shapes in the order of their declaration, with distinct names. -/
  shapes : Shapes
  deriving Inhabited

/-- A program and what was noticed on the way. -/
structure Assembled where
  program : Program
  warnings : List Warning
  deriving Inhabited

namespace Module

/-- The module without declarations. -/
def empty : Module := ⟨none, .empty, []⟩

/-- Adds a schema. -/
def addSchema (m : Module) (schema : Schema) : Except AssembleError Module := do
  let registry ← m.registry.register schema
  return { m with registry := registry }

/-- Adds a shape, whose name has to be new. -/
def addShape (m : Module) (shape : JsonShape) : Except AssembleError Module :=
  if (m.shapes.get? shape.name).isSome then .error (.duplicateSchema shape.name)
  else .ok { m with shapes := m.shapes ++ [shape] }

/-! ## references -/

/-- Checks that there is a shape that something refers to. -/
def resolveShape (m : Module) (name referrer : String) : Except AssembleError Unit :=
  if (m.shapes.get? name).isSome then .ok () else .error (.unknownShape name referrer)

/-- Checks what a chain refers to. -/
def resolveChain (m : Module) (referrer : String) (chain : Chain) : Except AssembleError Unit := do
  match Chain.nestedSchema? chain with
  | some schema => discard (m.registry.resolve schema referrer)
  | none => pure ()
  match Chain.shape? chain with
  | some shape => m.resolveShape shape referrer
  | none => pure ()

/-- Checks that everything referred to is declared. -/
def resolveReferences (m : Module) : Except AssembleError Unit := do
  m.registry.names.forM fun name => do
    let resolved ← m.registry.linearise name
    resolved.fields.forM fun (_, chain) => m.resolveChain name chain
  m.shapes.forM fun shape =>
    shape.references.forM fun name => m.resolveShape name shape.name

/-- The schemas with those that they hand elements over to. -/
def schemaEdges (m : Module) : Except AssembleError Dependencies.Edges :=
  m.registry.names.mapM fun name => do
    let resolved ← m.registry.linearise name
    return (name, resolved.fields.filterMap fun (_, chain) => Chain.nestedSchema? chain)

/-- The names of the schemas, each after those it needs. -/
def schemaOrder (m : Module) : Except AssembleError (List String) := do
  let edges ← m.schemaEdges
  Dependencies.order edges

/-- The names of the shapes, each after those it needs. -/
def shapeOrder (m : Module) : Except AssembleError (List String) :=
  Dependencies.order (m.shapes.map fun shape => (shape.name, shape.references))

/-! ## linking -/

/-- Puts places and array flags in for the names of a step. -/
def linkStep (m : Module) (order : List String) (step : Step) : Step :=
  match step.operation with
  | .nested schema _ => { step with operation := .nested schema (order.idxOf? schema) }
  | .jsonify shape start _ =>
      { step with operation := .jsonify shape start (m.shapes.isArray shape) }
  | _ => step

/-- Links the steps of a function. -/
def linkBody (m : Module) (order : List String) (body : FunctionBody) : FunctionBody :=
  { body with steps := body.steps.map (m.linkStep order) }

/-- Links a member of a parser. -/
def linkMember (m : Module) (order : List String) : ParserMember → ParserMember
  | .hook hook body => .hook hook (m.linkBody order body)
  | .field name body => .field name (m.linkBody order body)
  | other => other

/-- Links the type of a field. -/
def linkField (order : List String) (field : FieldType) : FieldType :=
  { field with nested := field.nested.map fun r => { r with target := order.idxOf? r.name } }

/-- Links the type of a result. -/
def linkType (order : List String) (type : ResultType) : ResultType :=
  { type with shape := type.shape.mapFields (linkField order) }

/-! ## assembling -/

/-- The parser of a schema, linked and with its docstring. -/
def linkedParser (m : Module) (o : Options) (registry : Registry) (order : List String)
    (name : String) : Except AssembleError Parser := do
  let parser ← registry.parser name
  let docstring ←
    if o.docstrings then registry.docstring m.shapes name parser.docstring else pure ""
  return { parser with
    docstring := docstring
    members := parser.members.map (m.linkMember order) }

/-- Whether a step reads JSON. -/
def readsJson (step : Step) : Bool :=
  match step.operation with
  | .jsonify .. | .jsonifyDynamic _ => true
  | _ => false

/-- What parsers need around them. -/
def requirements (parsers : List Parser) (hasShapes : Bool) : List Requirement :=
  let steps := parsers.flatMap fun p => p.bodies.flatten
  (if steps.any (!·.operation.patterns.isEmpty) then [.regex] else [])
  ++ (if parsers.isEmpty then [] else [.selector])
  ++ if hasShapes || steps.any readsJson then [.json] else []

/-- The docstring of the program, if there is one to write. -/
def docstringNodes (m : Module) (o : Options) : List ProgramNode :=
  match m.docstring with
  | some text => if o.docstrings && !Text.isBlankString text then [.docstring text] else []
  | none => []

/-- The program of the given parts. -/
def programOf (m : Module) (o : Options) (shapes : List JsonShape) (types : List ResultType)
    (parsers : List Parser) : Program :=
  ⟨m.docstringNodes o ++ [.imports (requirements parsers (!shapes.isEmpty))]
    ++ shapes.map .shape ++ types.map .resultType ++ parsers.map .parser⟩

/-- The types and the parsers of the schemas, linked. -/
def linkedParts (m : Module) (o : Options) (registry : Registry) (order : List String) :
    Except AssembleError (List ResultType × List Parser) := do
  let types ← order.mapM fun name => do
    let type ← registry.resultType m.shapes name
    return linkType order type
  let parsers ← order.mapM (m.linkedParser o registry order)
  return (types, parsers)

/-- The registry that is lowered: with its queries converted, if the options ask for it. -/
def lowered (m : Module) (o : Options) : Except (Failure AssembleError) Registry :=
  match o.conversion? with
  | some c => (m.registry.runConversion c).map (·.1)
  | none => .ok m.registry

/-- Assembles the module. The first reference that is not resolved, or the first cycle, ends it;
what the check finds in all schemas is reported together. -/
def assemble (m : Module) (o : Options) : Except (Failure AssembleError) Assembled := do
  o.check
  m.resolveReferences
  let order ← m.schemaOrder
  let shapeOrder ← m.shapeOrder
  let report ← m.registry.check
  let warnings ← report.toExcept
  let registry ← m.lowered o
  let (types, parsers) ← m.linkedParts o registry order
  let shapes := shapeOrder.filterMap fun name => m.shapes.get? name
  return ⟨m.programOf o shapes types parsers, warnings⟩

end Module

end Extractor
