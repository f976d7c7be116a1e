/-!
# Extractor.ValueType

The static types that flow along a chain: documents and lists of them, the
scalar types and lists of those, and the special results. The set is closed:
every operation takes a value of one of these types to another.
-/

namespace Extractor

/-- The type of a value at some point of a chain. -/
inductive ValueType where
  /-- One element, or the whole document. -/
  | document
  /-- A sequence of elements. -/
  | listDocument
  | string
  | listString
  | int
  | float
  | bool
  | listInt
  | listFloat
  /-- No value; what a validation hook yields. -/
  | null
  /-- The result of another schema. -/
  | nested
  /-- A value read into a declared JSON shape. -/
  | json
  /-- Marks defaults and returns, and is the type of JSON read without a shape. -/
  | any
  deriving DecidableEq, Repr, Inhabited

namespace ValueType

/-- All types in their order of declaration. -/
def all : List ValueType :=
  [document, listDocument, string, listString, int, float, bool, listInt, listFloat, null, nested,
    json, any]

/-- The name of the type in programs and messages. -/
def name : ValueType → String
  | document => "DOCUMENT"
  | listDocument => "LIST_DOCUMENT"
  | string => "STRING"
  | listString => "LIST_STRING"
  | int => "INT"
  | float => "FLOAT"
  | bool => "BOOL"
  | listInt => "LIST_INT"
  | listFloat => "LIST_FLOAT"
  | null => "NULL"
  | nested => "NESTED"
  | json => "JSON"
  | any => "ANY"

/-- The type of the given name. -/
def ofName? (name : String) : Option ValueType := all.find? (·.name == name)

/-- The element type of a sequence type. -/
def item? : ValueType → Option ValueType
  | listDocument => some document
  | listString => some string
  | listInt => some int
  | listFloat => some float
  | _ => none

/-- Whether the type is a sequence. -/
def isList (t : ValueType) : Bool := t.item?.isSome

/-- Whether an operation that takes `expected` may follow a value of type `actual`. The type `any`
matches in both directions. -/
def accepts (expected actual : ValueType) : Bool :=
  expected = actual || expected = any || actual = any

/-- Whether the type is a document or a list of documents, from which nothing is extracted yet. -/
def isMarkup : ValueType → Bool
  | document | listDocument => true
  | _ => false

/-- Whether a named field may end with this type. -/
def isFieldTerminal : ValueType → Bool
  | document | listDocument | null => false
  | _ => true

/-- The name of the type in the signature of a docstring. -/
def signatureName : ValueType → String
  | string => "String"
  | listString => "Array<String>"
  | int => "Int"
  | listInt => "Array<Int>"
  | float => "Float"
  | listFloat => "Array<Float>"
  | bool => "Bool"
  | null => "null"
  | document => "Document"
  | listDocument => "Array<Document>"
  | nested => "Struct"
  | json => "Json"
  | any => "Any"

end ValueType

end Extractor
