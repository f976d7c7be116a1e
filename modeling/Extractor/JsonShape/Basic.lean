import Extractor.Json.Value
import Extractor.Text.Numeric
import Extractor.Text.Quoted

/-!
# Extractor.JsonShape.Basic

Declared shapes of JSON objects: what a string is read into when a chain ends
with JSON. A field holds a scalar, a list of scalars, or refers to another
shape by name.
-/

namespace Extractor

/-- The scalar types of JSON fields. -/
inductive JsonScalar where
  | string
  | integer
  | float
  | boolean
  deriving DecidableEq, Repr, Inhabited

namespace JsonScalar

/-- All scalar types. -/
def all : List JsonScalar := [string, integer, float, boolean]

/-- The word of a declaration. -/
def keyword : JsonScalar → String
  | string => "str"
  | integer => "int"
  | float => "float"
  | boolean => "bool"

/-- The scalar type of a word. -/
def ofKeyword? (word : String) : Option JsonScalar := all.find? (·.keyword == word)

/-- The name of the type in signatures. -/
def signatureName : JsonScalar → String
  | string => "String"
  | integer => "Int"
  | float => "Float"
  | boolean => "Bool"

/-- The name of the type in programs. -/
def name : JsonScalar → String
  | string => "STRING"
  | integer => "NUMBER"
  | float => "FLOAT"
  | boolean => "BOOLEAN"

end JsonScalar

/-- The type of a JSON field. -/
inductive JsonFieldType where
  | scalar (item : JsonScalar)
  | null
  /-- A scalar or null. -/
  | optional (item : JsonScalar)
  | list (item : JsonScalar)
  /-- A list of objects of a named shape. -/
  | objects (name : String)
  /-- An object of a named shape. -/
  | object (name : String)
  deriving DecidableEq, Repr, Inhabited

namespace JsonFieldType

/-- The shape that the type refers to. -/
def reference? : JsonFieldType → Option String
  | objects name | object name => some name
  | _ => none

/-- The type as it is declared. -/
def declaration : JsonFieldType → String
  | scalar item => item.keyword
  | null => "null"
  | optional item => item.keyword ++ " | null"
  | list item => "list[" ++ item.keyword ++ "]"
  | objects name => "list[" ++ name ++ "]"
  | object name => name

/-- The type in a program. -/
def toJson : JsonFieldType → Json
  | scalar item => .obj [("kind", .str "PRIMITIVE"), ("item", .str item.name)]
  | null => .obj [("kind", .str "NULL")]
  | optional item => .obj [("kind", .str "OPTIONAL"), ("item", .str item.name)]
  | list item => .obj [("kind", .str "ARRAY"), ("item", .str item.name)]
  | objects name => .obj [("kind", .str "ARRAY_OBJECTS"), ("name", .str name)]
  | object name => .obj [("kind", .str "OBJECT"), ("name", .str name)]

end JsonFieldType

/-- A declared shape: the fields of an object, in order and with distinct names. -/
structure JsonShape where
  name : String
  /-- Whether the document is an array of such objects. -/
  isArray : Bool
  fields : List (String × JsonFieldType)
  deriving DecidableEq, Repr, Inhabited

namespace JsonShape

/-- The shapes that the fields refer to, in order. -/
def references (s : JsonShape) : List String :=
  s.fields.filterMap fun (_, type) => type.reference?

/-- Whether a key can be declared without quotes. -/
def isPlainKey (cs : List Char) : Bool :=
  match cs with
  | [] => false
  | c :: rest =>
      (Text.isAlphabetic c || c = '_') && rest.all fun c => Text.isAlphanumeric c || c = '_'

/-- A field as it is declared. -/
def fieldDeclaration (key : String) (type : JsonFieldType) : String :=
  "    " ++ (if isPlainKey key.toList then key else Text.quoted key) ++ ": " ++ type.declaration
    ++ "\n"

/-- The declaration of a shape. -/
def declaration (s : JsonShape) : String :=
  "json " ++ s.name ++ (if s.isArray then " array" else "") ++ " \x7b\n"
    ++ String.join (s.fields.map fun (key, type) => fieldDeclaration key type) ++ "\x7d"

/-- The declarations of shapes, with an empty line between them. -/
def declarations (shapes : List JsonShape) : String :=
  "\n\n".intercalate (shapes.map declaration)

end JsonShape

end Extractor
