import Extractor.Chain.Basic
import Extractor.JsonShape.Basic
import Extractor.SchemaKind

/-!
# Extractor.Program.Basic

Programs: what the declarations of a module come to. A program holds the JSON
shapes, the types of the results, and for each schema a parser, whose functions
are lowered chains. References between parsers are places in the program.
-/

namespace Extractor

/-- A function of a parser: a lowered chain, and the value to fall back to. -/
structure FunctionBody where
  returns : ValueType
  /-- Whether the fallback is null. -/
  nullable : Bool
  fallback : Option Literal
  steps : List Step
  deriving Inhabited

/-- A member of a parser. -/
inductive ParserMember where
  /-- What the parser takes. -/
  | init (name : String) (accepts : List ValueType)
  | hook (hook : Hook) (body : FunctionBody)
  | field (name : String) (body : FunctionBody)
  /-- The functions that are called, in order. -/
  | start (kind : SchemaKind) (calls : List Step)
  deriving Inhabited

/-- The parser of a schema. -/
structure Parser where
  name : String
  kind : SchemaKind
  docstring : String
  members : List ParserMember
  deriving Inhabited

namespace Parser

/-- The types that the parser takes. -/
def init? (p : Parser) : Option (List ValueType) :=
  p.members.findSome? fun
    | .init _ accepts => some accepts
    | _ => none

/-- The function of a hook. -/
def hook? (p : Parser) (hook : Hook) : Option FunctionBody :=
  p.members.findSome? fun
    | .hook h body => if h = hook then some body else none
    | _ => none

/-- The functions of the named fields. -/
def fields (p : Parser) : List (String × FunctionBody) :=
  p.members.filterMap fun
    | .field name body => some (name, body)
    | _ => none

/-- The function of a named field. -/
def field? (p : Parser) (name : String) : Option FunctionBody := p.fields.lookup name

/-- The steps that start the parser. -/
def start? (p : Parser) : Option (List Step) :=
  p.members.findSome? fun
    | .start _ calls => some calls
    | _ => none

/-- The names of the functions that are called, in order. -/
def calls (p : Parser) : List String :=
  (p.start?.getD []).filterMap fun step =>
    match step.operation with
    | .call function => some function
    | _ => none

/-- The lowered chains of all functions, in order. -/
def bodies (p : Parser) : List (List Step) :=
  p.members.filterMap fun
    | .hook _ body | .field _ body => some body.steps
    | _ => none

end Parser

/-- A reference to another type, with its place in the program when that is known. -/
structure TypeReference where
  name : String
  /-- Whether the other type is a sequence. -/
  isArray : Bool
  target : Option Nat
  deriving DecidableEq, Repr, Inhabited

/-- The type of a field. -/
structure FieldType where
  name : String
  returns : ValueType
  nullable : Bool
  nested : Option TypeReference
  shape : Option TypeReference
  deriving DecidableEq, Repr, Inhabited

/-- The shape of the result of a schema. -/
inductive ResultShape where
  | record (fields : List FieldType)
  | map (value : FieldType)
  | list (item : FieldType)
  deriving DecidableEq, Repr, Inhabited

/-- The fields of a shape. -/
def ResultShape.fields : ResultShape → List FieldType
  | record fields => fields
  | map value => [value]
  | list item => [item]

/-- The shape with each field replaced. -/
def ResultShape.mapFields (f : FieldType → FieldType) : ResultShape → ResultShape
  | record fields => record (fields.map f)
  | map value => map (f value)
  | list item => list (f item)

/-- The type of the result of a schema. -/
structure ResultType where
  name : String
  kind : SchemaKind
  shape : ResultShape
  deriving DecidableEq, Repr, Inhabited

/-- The type of a field of a result. -/
def ResultType.field? (t : ResultType) (name : String) : Option FieldType :=
  t.shape.fields.find? (·.name == name)

/-- What a program needs around it. -/
inductive Requirement where
  | regex
  | selector
  | json
  deriving DecidableEq, Repr, Inhabited

namespace Requirement

/-- All requirements. -/
def all : List Requirement := [regex, selector, json]

/-- The name in programs. -/
def name : Requirement → String
  | regex => "REGEX"
  | selector => "SELECTOR"
  | json => "JSON"

end Requirement

/-- A part of a program. -/
inductive ProgramNode where
  | docstring (text : String)
  | imports (requirements : List Requirement)
  | shape (shape : JsonShape)
  | resultType (type : ResultType)
  | parser (parser : Parser)
  deriving Inhabited

/-- A program: its docstring, what it needs, shapes, result types and parsers, in this order. -/
structure Program where
  body : List ProgramNode
  deriving Inhabited

namespace Program

/-- The program without parts. -/
def empty : Program := ⟨[]⟩

/-- The docstring. -/
def docstring? (p : Program) : Option String :=
  p.body.findSome? fun
    | .docstring text => some text
    | _ => none

/-- What the program needs. -/
def imports? (p : Program) : Option (List Requirement) :=
  p.body.findSome? fun
    | .imports requirements => some requirements
    | _ => none

/-- The JSON shapes. -/
def shapes (p : Program) : List JsonShape :=
  p.body.filterMap fun
    | .shape shape => some shape
    | _ => none

/-- The types of the results. -/
def resultTypes (p : Program) : List ResultType :=
  p.body.filterMap fun
    | .resultType type => some type
    | _ => none

/-- The parsers. -/
def parsers (p : Program) : List Parser :=
  p.body.filterMap fun
    | .parser parser => some parser
    | _ => none

/-- The parser at a place. -/
def parserAt? (p : Program) (place : Nat) : Option Parser := p.parsers[place]?

/-- The parser of a schema. -/
def parser? (p : Program) (name : String) : Option Parser := p.parsers.find? (·.name == name)

/-- The type of the result of a schema. -/
def resultType? (p : Program) (name : String) : Option ResultType :=
  p.resultTypes.find? (·.name == name)

end Program

end Extractor
