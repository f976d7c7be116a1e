import Extractor.JsonShape.Basic
import Extractor.Libraries
import Extractor.Number.Unsigned
import Extractor.Text.Split
import Extractor.Text.Uppercase

/-!
# Extractor.JsonShape.Infer

Shapes inferred from a sample document. Objects get a shape of their own, named
after the key that holds them; the shapes of inner objects come first and the
entry shape last. Lists are described by their first element.
-/

namespace Extractor

/-- Why no shapes can be inferred from a sample. -/
inductive InferError where
  | malformed
  | pathNotFound (path segment : String)
  /-- An array with items of different kinds. -/
  | mixedArray (key : String)
  /-- An array of arrays, for which there is no declaration. -/
  | nestedArray (key : String)
  | badName (name : String)
  | notAnObject (found : String)
  deriving DecidableEq, Repr, Inhabited

/-- The error in words. -/
def InferError.message : InferError → String
  | malformed => "invalid json: <json error>"
  | pathNotFound path segment =>
      "start path '" ++ path ++ "' not found at segment '" ++ segment ++ "'"
  | mixedArray key => "array '" ++ key ++ "' mixes item types"
  | nestedArray key =>
      "array '" ++ key ++ "' contains arrays, which have no json schema form"
  | badName name => "'" ++ name ++ "' is not a valid schema or field name"
  | notAnObject found => "expected a json object, got " ++ found

namespace JsonShape

/-! ## names -/

/-- A word with its first letter in upper case. -/
def capitalise : List Char → List Char
  | [] => []
  | c :: cs => Text.uppercase c ++ cs

/-- Joins the words between underscores, each with its first letter in upper case. -/
def upperCamelCase (s : String) : String :=
  String.ofList ((Text.splitOn '_' s.toList).flatMap capitalise)

/-- Whether a name cannot start like this. -/
def startsBadly (name : String) : Bool :=
  match name.toList with
  | [] => true
  | c :: _ => Text.isAsciiDigit c || !(Text.isAlphanumeric c || c = '_')

/-- The name of the shape for the object under a key. A name that is taken gets the name of the
parent in front. -/
def subShapeName (taken : List JsonShape) (parent key : String) : Except InferError String :=
  let cleaned := key.toList.map fun c => if Text.isAlphanumeric c then c else '_'
  let name := upperCamelCase (String.ofList cleaned)
  if startsBadly name then .error (.badName key)
  else if taken.any (·.name == name) then .ok (parent ++ name)
  else .ok name

/-! ## inference -/

/-- The kind of a value in words. -/
def kindOf : Json → String
  | .null => "null"
  | .bool _ => "bool"
  | .float _ => "float"
  | .int _ => "int"
  | .str _ => "str"
  | .arr _ => "array"
  | .obj _ => "object"

/-- The scalar type of an array's items; an item that is null counts as a string. -/
def itemScalar : Json → JsonScalar
  | .bool _ => .boolean
  | .float _ => .float
  | .int _ => .integer
  | _ => .string

mutual

/-- The type of a field, and the shapes so far with those that the field needs behind them. -/
def inferField (parent key : String) :
    Json → List JsonShape → Except InferError (JsonFieldType × List JsonShape)
  | .null, done => .ok (.null, done)
  | .bool _, done => .ok (.scalar .boolean, done)
  | .float _, done => .ok (.scalar .float, done)
  | .int _, done => .ok (.scalar .integer, done)
  | .str _, done => .ok (.scalar .string, done)
  | .obj members, done => do
      let name ← subShapeName done parent key
      let (fields, done) ← inferFields name members done
      return (.object name, done ++ [⟨name, false, Keyed.collect fields⟩])
  | .arr items, done => inferItems parent key items done

/-- The type of a field that holds an array. -/
def inferItems (parent key : String) :
    List Json → List JsonShape → Except InferError (JsonFieldType × List JsonShape)
  | [], done => .ok (.list .string, done)
  | first :: others, done =>
      if others.any fun item => kindOf item ≠ kindOf first then .error (.mixedArray key)
      else match first with
        | .obj members => do
            let name ← subShapeName done parent key
            let (fields, done) ← inferFields name members done
            return (.objects name, done ++ [⟨name, false, Keyed.collect fields⟩])
        | .arr _ => .error (.nestedArray key)
        | scalar => .ok (.list (itemScalar scalar), done)

/-- The types of the fields of an object. -/
def inferFields (parent : String) :
    List (String × Json) → List JsonShape →
      Except InferError (List (String × JsonFieldType) × List JsonShape)
  | [], done => .ok ([], done)
  | (key, value) :: rest, done => do
      let (type, done) ← inferField parent key value done
      let (types, done) ← inferFields parent rest done
      return ((key, type) :: types, done)

end

/-- The value at the end of a path of keys and indices. -/
def walk (path : String) : List (List Char) → Json → Except InferError Json
  | [], value => .ok value
  | segment :: segments, value =>
      let next := match value with
        | .arr items => Number.unsigned64? segment >>= fun i => items[i]?
        | .obj members => members.lookup (String.ofList segment)
        | _ => none
      match next with
      | some inner => walk path segments inner
      | none => .error (.pathNotFound path (String.ofList segment))

/-- The object that a value is described by, and whether it is the first item of an array. -/
def entryObject : Json → Except InferError (List (String × Json) × Bool)
  | .obj members => .ok (members, false)
  | .arr (.obj members :: _) => .ok (members, true)
  | .arr (other :: _) => .error (.notAnObject (kindOf other))
  | .arr [] => .error (.notAnObject "empty array")
  | other => .error (.notAnObject (kindOf other))

/-- The shapes of the value at the end of a path in a sample document. -/
def infer [Libraries] (sample entry path : String) : Except InferError (List JsonShape) := do
  if startsBadly entry then throw (.badName entry)
  match Libraries.readJson? sample with
  | none => throw .malformed
  | some document =>
      let segments := (Text.splitOn '.' path.toList).filter (!·.isEmpty)
      let value ← walk path segments document
      let (members, isArray) ← entryObject value
      let name := upperCamelCase entry
      let (fields, done) ← inferFields name members []
      return done ++ [⟨name, isArray, Keyed.collect fields⟩]

end JsonShape

end Extractor
