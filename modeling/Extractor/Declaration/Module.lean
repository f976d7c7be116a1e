import Extractor.Declaration.Expression
import Extractor.Module.Basic

/-!
# Extractor.Declaration.Module

Reading whole modules: an optional docstring, and declarations of JSON shapes
and schemas.
-/

namespace Extractor.Declaration

open Reading

variable [Libraries]

/-- Reads a string that stands where a docstring may. -/
def readDocstring : Reading (Option String) := do
  match ← current with
  | .string text =>
      advance
      return some text
  | _ => return none

/-! ## shapes -/

/-- The word that a token is, where keywords are words as well. -/
def keyOf? : Token → Option String
  | .identifier name => some name
  | .string s => some s
  | .keyword k => some k.word
  | .boolean b => some (if b then "true" else "false")
  | .null => some "null"
  | _ => none

/-- Reads the key of a field. -/
def readKey : Reading String := do
  match keyOf? (← current) with
  | some key =>
      advance
      return key
  | none => unexpected .fieldName

/-- The type of a list of the given items. -/
def listOf? : JsonFieldType → Option JsonFieldType
  | .scalar item => some (.list item)
  | .object name => some (.objects name)
  | _ => none

/-- The type of a word. -/
def wordType (word : String) : JsonFieldType :=
  match JsonScalar.ofKeyword? word with
  | some item => .scalar item
  | none => .object word

/-- Reads what may follow a type: that null is allowed. -/
def readNullable (base : JsonFieldType) (p : Position) : Reading JsonFieldType := do
  if ← accept .pipe then
    expect .null
    match base with
    | .scalar item => return .optional item
    | other => invalid (.notNullable other) p
  else return base

/-- Reads the type of a field. The first argument bounds the depth of lists. -/
def readType : Nat → Reading JsonFieldType
  | 0 => unexpected .jsonType
  | fuel + 1 => do
      let p ← position
      match ← current with
      | .null =>
          advance
          readNullable .null p
      | .identifier word =>
          advance
          if word = "list" then
            expect .leftBracket
            let item ← readType fuel
            match listOf? item with
            | none => invalid (.listItem item) p
            | some type =>
                expect .rightBracket
                readNullable type p
          else readNullable (wordType word) p
      | _ => unexpected .jsonType

/-- Reads the fields of a shape up to the closing brace. -/
def readFields : Nat → JsonShape → Reading JsonShape
  | 0, _ => unexpected .fieldName
  | fuel + 1, shape => do
      if ← accept .rightBrace then return shape
      let p ← position
      let key ← readKey
      if (shape.fields.lookup key).isSome then invalid (.fieldTwice key shape.name) p
      expect .colon
      let type ← readType fuel
      let _ ← accept .comma
      readFields fuel { shape with fields := shape.fields ++ [(key, type)] }

/-- Reads the declaration of a shape. -/
def readShape (fuel : Nat) : Reading JsonShape := do
  expect (.keyword .json)
  let name ← identifier
  let isArray ← accept (.identifier "array")
  expect .leftBrace
  readFields fuel ⟨name, isArray, []⟩

/-! ## schemas -/

/-- Reads the names of parents behind the first one. -/
def readParents : Nat → Reading (List String)
  | 0 => return []
  | fuel + 1 => do
      if ← accept .comma then
        let name ← identifier
        return name :: (← readParents fuel)
      else return []

/-- Whether a member has been declared. -/
def isDeclared (schema : Schema) (name : String) : Bool :=
  (schema.members.lookup name).isSome
    || (name = signatureMember && schema.signature.isSome)
    || (name = excludeSignatureMember && schema.excluded.isSome)

/-- Reads the names of the fields that the signature leaves out. -/
def readExcluded (fuel : Nat) : Reading (List String) := do
  let p ← position
  match ← readLiteral fuel with
  | .list items =>
      match items.mapM Literal.asString? with
      | some names => return names
      | none => invalid .excludedNoStrings p
  | _ => invalid .excludedNoList p

/-- Reads a member of a schema. -/
def readMember (fuel : Nat) (schema : Schema) : Reading Schema := do
  let p ← position
  let name ← identifier
  if isDeclared schema name then invalid (.memberTwice name schema.name) p
  expect .equals
  if name = signatureMember then return { schema with signature := some (← readLiteral fuel) }
  else if name = excludeSignatureMember then
    return { schema with excluded := some (← readExcluded fuel) }
  else if ← accept .null then return schema.setMember name none
  else return schema.setMember name (some (← readChain fuel))

/-- Reads the members of a schema up to the closing brace. -/
def readMembers : Nat → Schema → Reading Schema
  | 0, _ => unexpected .identifier
  | fuel + 1, schema => do
      if ← accept .rightBrace then return schema
      readMembers fuel (← readMember fuel schema)

/-- Reads the declaration of a schema. -/
def readSchema (fuel : Nat) : Reading Schema := do
  expect (.keyword .schema)
  let name ← identifier
  expect .colon
  let p ← position
  let word ← identifier
  match SchemaKind.ofWord? word with
  | none => invalid (.unknownKind word) p
  | some kind =>
      let parents ←
        if ← accept (.keyword .inherits) then
          let first ← identifier
          pure (first :: (← readParents fuel))
        else pure []
      expect .leftBrace
      let docstring ← readDocstring
      readMembers fuel { Schema.ofKind name kind with parents := parents, docstring := docstring }

/-! ## modules -/

/-- Adds a declaration, or fails at its place. -/
def adding (p : Position) (result : Except AssembleError Module) : Reading Module :=
  match result with
  | .ok m => return m
  | .error e => throw (.assemble e p)

/-- Reads declarations to the end. -/
def readDeclarations : Nat → Module → Reading Module
  | 0, _ => unexpected .declaration
  | fuel + 1, m => do
      let p ← position
      match ← current with
      | .endOfInput => return m
      | .keyword .json =>
          let shape ← readShape fuel
          readDeclarations fuel (← adding p (m.addShape shape))
      | .keyword .schema =>
          let schema ← readSchema fuel
          readDeclarations fuel (← adding p (m.addSchema schema))
      | _ => unexpected .declaration

/-- Reads a module. -/
def readModule (fuel : Nat) : Reading Module := do
  let docstring ← readDocstring
  readDeclarations fuel { Module.empty with docstring := docstring }

end Extractor.Declaration

namespace Extractor

open Declaration

variable [Libraries]

/-- Parses the source of a module. No reader takes more steps than there are tokens, counted three
times for what lies between them. -/
def Module.parse (source : String) : Except ParseError Module := do
  let lexed := Lexed.ofString source
  match lexed.lexemes, lexed.failure with
  | [], some e => throw (.lex e)
  | _, _ =>
      let (m, _) ← readModule (3 * lexed.lexemes.length + 3) lexed
      return m

end Extractor
