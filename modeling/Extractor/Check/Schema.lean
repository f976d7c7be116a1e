import Extractor.Check.Chain
import Extractor.Schema.Registry

/-!
# Extractor.Check.Schema

The check of whole schemas: the hooks that a kind needs, what hooks and fields
may end with, and whether a default fits the value it stands in for.
-/

namespace Extractor

variable [Libraries]

/-- What a check has found. -/
structure Report where
  errors : List CheckError
  warnings : List Warning
  deriving Inhabited

namespace Report

/-- The report without findings. -/
def empty : Report := ⟨[], []⟩

/-- Two reports as one. -/
def append (r s : Report) : Report := ⟨r.errors ++ s.errors, r.warnings ++ s.warnings⟩

/-- Reports as one. -/
def concat (reports : List Report) : Report := reports.foldl append empty

/-- Whether there are no errors. -/
def isOk (r : Report) : Bool := r.errors.isEmpty

/-- The warnings, if there are no errors. -/
def toExcept (r : Report) : Except AssembleError (List Warning) :=
  if r.isOk then .ok r.warnings else .error (.check r.errors)

end Report

/-- Whether a default can stand in for a value of the type. -/
def defaultFits (value : Literal) (type : ValueType) : Bool :=
  match value with
  | .null => !type.isMarkup && type ≠ .bool
  | .list items => items.isEmpty && type.isList && type ≠ .listDocument
  | other => other.valueType? = some type

/-- What is wrong with the default of a chain. -/
def defaultCause? (chain : Chain) : Option CheckCause :=
  match Chain.default? chain with
  | none => none
  | some value =>
      let type := Chain.cursor chain
      if type = .json || type = .any then
        some (.jsonWithDefault ((chain.getLast?.map (·.operation.method)).getD "jsonify"))
      else if defaultFits value type then none
      else some (.defaultType value type)

/-- Whether a hook may give the type. -/
def hookTypeFits (type : ValueType) : Hook → Bool
  | .preValidate => true
  | .splitDoc => type = .listDocument
  | .key => type = .string
  | .value | .item => !type.isMarkup

/-- What is wrong with a hook whose chain is sound, with the places to blame. -/
def hookCauses (hook : Hook) (chain : Chain) : List (Option Nat × CheckCause) :=
  (if hook.forbidsDefault && Chain.hasDefault chain then [(some 0, .hookDefault hook)] else [])
  ++ if hook = .preValidate then []
  else if !hookTypeFits (Chain.cursor chain) hook then
    [(none, .hookType hook (Chain.cursor chain))]
  else if hook = .key && (Chain.default? chain).any Literal.isNull then [(some 0, .nullKey)]
  else if hook.forbidsDefault then []
  else (defaultCause? chain).toList.map (some 0, ·)

/-- What is wrong with a named field whose chain is sound, with the place to blame. -/
def fieldCauses (kind : SchemaKind) (chain : Chain) : List (Option Nat × CheckCause) :=
  let type := Chain.cursor chain
  if kind = .accUniqueList && type ≠ .listString then [(none, .notStrings type)]
  else if !type.isFieldTerminal then [(none, .notTerminal type)]
  else (defaultCause? chain).toList.map (some 0, ·)

/-- The query of the last selection of one element in a chain. -/
def lastSelection? (chain : Chain) : Option String :=
  chain.reverse.findSome? fun step =>
    match step.operation with
    | .select _ query => some query
    | _ => none

/-- The query with which a schema starts to split its document. -/
def splitQuery? (resolved : Resolved) : Option String :=
  (resolved.hook? .splitDoc).bind fun chain =>
    chain.head?.bind fun step => step.operation.query?.map (·.2)

namespace Registry

/-- The warning about a nested schema that looks for its element inside itself. -/
def unreachable? (r : Registry) (field : String) (chain : Chain) : Option WarningCause := do
  let child ← Chain.nestedSchema? chain
  let query ← lastSelection? chain
  let resolved ← (r.linearise child).toOption
  if splitQuery? resolved = some query then some (.unreachableNested field query child) else none

/-- The warnings about a chain. -/
def chainWarnings (r : Registry) (schema field : String) (chain : Chain) : List Warning :=
  let swallows := Chain.hasDefault chain && chain.any (·.operation.isAssertion)
  let causes := (if swallows then [WarningCause.defaultWithAssertion] else [])
    ++ (r.unreachable? field chain).toList
  causes.map fun cause => ⟨schema, some field, cause⟩

/-- The report on a member whose chain is used: the errors of the chain, or else what is wrong with
the member. -/
def memberReport (r : Registry) (schema field : String) (chain : Chain)
    (causes : List (Option Nat × CheckCause)) : Report :=
  let errors := checkChain schema field chain
  ⟨if errors.isEmpty then causes.map fun (place, cause) => ⟨schema, field, place, cause⟩
    else errors,
    r.chainWarnings schema field chain⟩

/-- The report on a hook. -/
def hookReport (r : Registry) (schema : String) (kind : SchemaKind) (hook : Hook)
    (chain : Chain) : Report :=
  if kind.allowsHook hook then r.memberReport schema hook.name chain (hookCauses hook chain)
  else ⟨[], [⟨schema, some hook.name, .unusedHook hook kind⟩]⟩

/-- The report on a named field. -/
def fieldReport (r : Registry) (schema : String) (kind : SchemaKind) (field : String)
    (chain : Chain) : Report :=
  if kind.hasNamedFields then r.memberReport schema field chain (fieldCauses kind chain)
  else ⟨[⟨schema, field, none, .unexpectedField kind⟩], []⟩

/-- The report on the hooks that are not there. -/
def missingHooks (schema : String) (kind : SchemaKind) (resolved : Resolved) : Report :=
  let missing := kind.requiredHooks.filter fun hook => (resolved.hook? hook).isNone
  ⟨missing.map fun hook => ⟨schema, hook.name, none, .hookMissing kind hook⟩, []⟩

/-- The report on excluded names that are no fields. -/
def unmatchedExcludes (schema : String) (resolved : Resolved) : Report :=
  let unmatched := (resolved.excluded.getD []).filter fun name =>
    (resolved.fields.lookup name).isNone
  ⟨[], unmatched.map fun name => ⟨schema, none, .unmatchedExclude name⟩⟩

/-- The report on a schema with what it inherits. -/
def report (r : Registry) (schema : String) (kind : SchemaKind) (resolved : Resolved) : Report :=
  .concat ([missingHooks schema kind resolved]
    ++ resolved.hooks.map (fun (hook, chain) => r.hookReport schema kind hook chain)
    ++ resolved.named.map (fun (field, chain) => r.fieldReport schema kind field chain)
    ++ [unmatchedExcludes schema resolved])

/-- Checks a schema. -/
def checkSchema (r : Registry) (name : String) : Except AssembleError Report := do
  let schema ← r.resolve name name
  let resolved ← r.linearise name
  return r.report name schema.kind resolved

/-- Checks all schemas. -/
def check (r : Registry) : Except AssembleError Report := do
  let reports ← r.names.mapM r.checkSchema
  return .concat reports

end Registry

end Extractor
