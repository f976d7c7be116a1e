import Extractor.Program.Basic

/-!
# Extractor.Program.Json

Programs as JSON. The members of objects are in a fixed order, and those that
are absent are left out.
-/

namespace Extractor

/-- A member that is left out when there is no value. -/
def optionalMember {α : Type} (key : String) (f : α → Json) : Option α → List (String × Json)
  | some value => [(key, f value)]
  | none => []

/-- A fallback as JSON. -/
def fallbackJson (value : Literal) : Json := .obj [("value", value.toJson)]

/-- The members of a function. -/
def FunctionBody.members (b : FunctionBody) : List (String × Json) :=
  [("ret_type", .str b.returns.name), ("nullable", .bool b.nullable)]
    ++ optionalMember "default" fallbackJson b.fallback ++ [("body", Chain.toJson b.steps)]

/-- The kind of a hook's function. -/
def Hook.functionKind : Hook → String
  | .preValidate => "PRE_VALIDATE_FUNCTION"
  | .splitDoc => "PART_DOC_FUNCTION"
  | .key => "KEY_FUNCTION"
  | .value => "VALUE_FUNCTION"
  | .item => "ITEM_FUNCTION"

/-- The members of the function of a named field. -/
def fieldMembers (name : String) (body : FunctionBody) : List (String × Json) :=
  ("name", .str name) :: body.members

/-- A member of a parser as JSON. -/
def ParserMember.toJson : ParserMember → Json
  | init name accepts =>
      .obj [("kind", .str "INIT"), ("name", .str name),
        ("accept", .arr (accepts.map fun type => .str type.name))]
  | hook h body =>
      .obj ([("kind", .str h.functionKind), ("hook", .str h.name)] ++ body.members)
  | field name body => .obj (("kind", .str "FIELD_FUNCTION") :: fieldMembers name body)
  | start kind calls =>
      .obj [("kind", .str "START_PARSE_FUNCTION"), ("struct_type", .str kind.name),
        ("body", Chain.toJson calls)]

/-- The members of a parser. -/
def Parser.jsonMembers (p : Parser) : List (String × Json) :=
  [("name", .str p.name), ("struct_type", .str p.kind.name), ("docstring", .str p.docstring),
    ("body", .arr (p.members.map ParserMember.toJson))]

/-- A reference as JSON. -/
def TypeReference.toJson (r : TypeReference) : Json :=
  .obj ([("name", .str r.name), ("is_array", .bool r.isArray)]
    ++ optionalMember "target" (fun place : Nat => .int place) r.target)

/-- The type of a field as JSON. -/
def FieldType.toJson (f : FieldType) : Json :=
  .obj ([("name", .str f.name), ("ret_type", .str f.returns.name), ("nullable", .bool f.nullable)]
    ++ optionalMember "nested" TypeReference.toJson f.nested
    ++ optionalMember "json" TypeReference.toJson f.shape)

/-- The shape of a result as JSON. -/
def ResultShape.toJson : ResultShape → Json
  | record fields => .obj [("shape", .str "RECORD"), ("fields", .arr (fields.map FieldType.toJson))]
  | map value => .obj [("shape", .str "MAP"), ("value", value.toJson)]
  | list item => .obj [("shape", .str "LIST"), ("item", item.toJson)]

/-- The members of the type of a result. -/
def ResultType.jsonMembers (t : ResultType) : List (String × Json) :=
  [("name", .str t.name), ("struct_type", .str t.kind.name), ("shape", t.shape.toJson)]

/-- A field of a JSON shape as JSON. -/
def shapeFieldJson (name : String) (type : JsonFieldType) : Json :=
  .obj [("name", .str name), ("type", type.toJson)]

/-- The members of a JSON shape. -/
def JsonShape.jsonMembers (s : JsonShape) : List (String × Json) :=
  [("name", .str s.name), ("is_array", .bool s.isArray),
    ("fields", .arr (s.fields.map fun (name, type) => shapeFieldJson name type))]

/-- A part of a program as JSON. -/
def ProgramNode.toJson : ProgramNode → Json
  | docstring text => .obj [("kind", .str "DOCSTRING"), ("value", .str text)]
  | imports requirements =>
      .obj [("kind", .str "IMPORTS"), ("tags", .arr (requirements.map fun r => .str r.name))]
  | shape s => .obj (("kind", .str "JSON_STRUCT") :: s.jsonMembers)
  | resultType type => .obj (("kind", .str "TYPE_DEF") :: type.jsonMembers)
  | parser p => .obj (("kind", .str "STRUCT") :: p.jsonMembers)

/-- A program as JSON. -/
def Program.toJson (p : Program) : Json :=
  .obj [("body", .arr (p.body.map ProgramNode.toJson))]

end Extractor
