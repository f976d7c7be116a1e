import Extractor.Libraries
import Extractor.Text.Quoted
import Extractor.ValueType

/-!
# Extractor.Literal

Literal values of declarations: defaults, operands of assertions and signature
overrides. Fractions are decimals, so that the written form survives.
-/

namespace Extractor

/-- A literal value. The entries of a map are in order and have distinct keys. -/
inductive Literal where
  | null
  | bool (value : Bool)
  | int (value : Int)
  | float (value : Decimal)
  | str (value : String)
  | list (items : List Literal)
  | map (entries : List (String × Literal))
  deriving Inhabited

namespace Literal

/-- The double as a literal; what has no decimal form is null. -/
def ofBinary64 (x : Binary64) : Literal :=
  match Decimal.ofBinary64? x with
  | some d => .float d
  | none => .null

/-- The type of a scalar literal; null, lists and maps have none. -/
def valueType? : Literal → Option ValueType
  | .bool _ => some .bool
  | .int _ => some .int
  | .float _ => some .float
  | .str _ => some .string
  | _ => none

/-- Whether the literal is null. -/
def isNull : Literal → Bool
  | .null => true
  | _ => false

/-- The string of a string literal. -/
def asString? : Literal → Option String
  | .str s => some s
  | _ => none

/-- The short name of the literal's type in messages. -/
def typeName : Literal → String
  | .null => "null"
  | .bool _ => "bool"
  | .int _ => "int"
  | .float _ => "float"
  | .str _ => "str"
  | .list _ => "list"
  | .map _ => "map"

/-! ## text -/

variable [Libraries]

mutual

/-- The literal as a declaration writes it. -/
def text : Literal → String
  | .null => "null"
  | .bool b => if b then "true" else "false"
  | .int n => toString n
  | .float d => d.text
  | .str s => Text.quoted s
  | .list [] => "[]"
  | .list (item :: items) => "[" ++ text item ++ textItems items ++ "]"
  | .map [] => "\x7b\x7d"
  | .map ((key, value) :: entries) =>
      "\x7b" ++ Text.quoted key ++ ": " ++ text value ++ textEntries entries ++ "\x7d"

/-- The items after the first one of a list. -/
def textItems : List Literal → String
  | [] => ""
  | item :: items => ", " ++ text item ++ textItems items

/-- The entries after the first one of a map. -/
def textEntries : List (String × Literal) → String
  | [] => ""
  | (key, value) :: entries =>
      ", " ++ Text.quoted key ++ ": " ++ text value ++ textEntries entries

end

/-! ## JSON -/

mutual

/-- The literal as a JSON value; decimals become doubles. -/
def toJson : Literal → Json
  | .null => .null
  | .bool b => .bool b
  | .int n => .int n
  | .float d => .float d.toBinary64
  | .str s => .str s
  | .list items => .arr (itemsToJson items)
  | .map entries => .obj (entriesToJson entries)

/-- The items of a list as JSON values. -/
def itemsToJson : List Literal → List Json
  | [] => []
  | item :: items => toJson item :: itemsToJson items

/-- The entries of a map as JSON members. -/
def entriesToJson : List (String × Literal) → List (String × Json)
  | [] => []
  | (key, value) :: entries => (key, toJson value) :: entriesToJson entries

end

end Literal

end Extractor
