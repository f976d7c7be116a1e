import Extractor.AssembleError
import Extractor.JsonShape.Basic
import Extractor.Source.Token

/-!
# Extractor.Declaration.Error

Why declarations cannot be read: text that is no tokens, tokens in the wrong
place, calls with wrong arguments, calls that a chain refuses, and names that
are declared twice. Every error has a place in the source.
-/

namespace Extractor.Declaration

variable [Libraries]

/-- What is expected at a place. -/
inductive Expectation where
  | token (t : Token)
  | identifier
  | declaration
  | fieldName
  | jsonType
  | numberAfterMinus
  | literal
  | stringKey
  deriving DecidableEq, Repr, Inhabited

/-- The expectation in words. -/
def Expectation.text : Expectation → String
  | token t => t.text
  | identifier => "identifier"
  | declaration => "'schema' or 'json' declaration"
  | fieldName => "field name"
  | jsonType => "json type"
  | numberAfterMinus => "number after '-'"
  | literal => "literal"
  | stringKey => "string key"

/-- What an argument has to be. -/
inductive ArgumentSort where
  | string
  | integer
  | boolean
  | literal
  | schemaName
  | anyFilter
  | textFilter
  | elementFilter
  | map
  deriving DecidableEq, Repr, Inhabited

/-- The sort in words. -/
def ArgumentSort.text : ArgumentSort → String
  | string => "a string"
  | integer => "an integer"
  | boolean => "a boolean"
  | literal => "a literal"
  | schemaName => "a schema name"
  | anyFilter => "F() or FE()"
  | textFilter => "F()"
  | elementFilter => "FE()"
  | map => "a \x7b...\x7d map"

/-- What is wrong with the arguments of a call. -/
inductive ArgumentsFault where
  | missing (keyword : String)
  | wrongSort (keyword : String) (expected : ArgumentSort) (found : String)
  | negative (keyword : String)
  /-- A value in a map that is no string. -/
  | wrongValue (keyword found key : String)
  | noStrings
  | unexpectedKeyword (keyword : String)
  /-- An argument too many; the first has the number one. -/
  | unexpectedPosition (number : Nat)
  deriving DecidableEq, Repr, Inhabited

/-- The fault in words. -/
def ArgumentsFault.text : ArgumentsFault → String
  | missing keyword => "missing argument '" ++ keyword ++ "'"
  | wrongSort keyword expected found =>
      "'" ++ keyword ++ "' expects " ++ expected.text ++ ", got " ++ found
  | negative keyword => "'" ++ keyword ++ "' must not be negative"
  | wrongValue keyword found key =>
      "'" ++ keyword ++ "' values must be strings, got " ++ found ++ " for " ++ Text.quoted key
  | noStrings => "expects at least one string"
  | unexpectedKeyword keyword => "unexpected argument '" ++ keyword ++ "'"
  | unexpectedPosition number => "unexpected argument #" ++ toString number

/-- What is wrong with a declaration whose tokens are in place. -/
inductive Fault where
  | arguments (method : String) (fault : ArgumentsFault)
  | unknownMethod (method : String)
  | unknownFilterMethod (method : String)
  | unknownElementFilterMethod (method : String)
  /-- A method that narrowing chains do not have. -/
  | notNarrowing (method : String)
  | afterSubParser (method : String)
  /-- A narrowing chain without the schema it is for. -/
  | unfinishedNarrowing
  | chainStart (word : String)
  | argumentTwice (name : String)
  | positionalAfterKeyword
  | fieldTwice (key shape : String)
  | listItem (type : JsonFieldType)
  | notNullable (type : JsonFieldType)
  | unknownKind (word : String)
  | memberTwice (name schema : String)
  | excludedNoList
  | excludedNoStrings
  deriving DecidableEq, Repr, Inhabited

/-- The fault in words. -/
def Fault.text : Fault → String
  | arguments method fault => method ++ "(): " ++ fault.text
  | unknownMethod method => "unknown method '" ++ method ++ "'"
  | unknownFilterMethod method => "unknown filter method '" ++ method ++ "'"
  | unknownElementFilterMethod method => "unknown element filter method '" ++ method ++ "'"
  | notNarrowing method =>
      method ++ "() is not available on N(); "
        ++ "use css, xpath, is_css, is_xpath, has_attr or sub_parser"
  | afterSubParser method =>
      method ++ "() cannot follow sub_parser(); sub_parser() must be the last call"
  | unfinishedNarrowing => "N() chain must end with sub_parser(Name)"
  | chainStart word => "a chain starts with D(), N() or R(), found '" ++ word ++ "'"
  | argumentTwice name => "argument '" ++ name ++ "' given twice"
  | positionalAfterKeyword => "positional argument after keyword argument"
  | fieldTwice key shape => "field '" ++ key ++ "' declared twice in json '" ++ shape ++ "'"
  | listItem type =>
      "list items must be a primitive or a json name, got '" ++ type.declaration ++ "'"
  | notNullable type =>
      "'" ++ type.declaration ++ " | null' is not supported; only primitives are nullable"
  | unknownKind word => SchemaKind.unknownWord word
  | memberTwice name schema =>
      "member '" ++ name ++ "' declared twice in schema '" ++ schema ++ "'"
  | excludedNoList => excludeSignatureMember ++ " expects a list of field names"
  | excludedNoStrings => excludeSignatureMember ++ " entries must be strings"

/-- Why declarations cannot be read. -/
inductive ParseError where
  | lex (e : LexError)
  | unexpected (expected : Expectation) (found : Token) (position : Position)
  | invalid (fault : Fault) (position : Position)
  /-- A call that its chain or filter refuses. -/
  | build (e : BuildError) (position : Position)
  | assemble (e : AssembleError) (position : Position)
  deriving Inhabited

namespace ParseError

/-- Where the error was found. -/
def position : ParseError → Position
  | lex e => e.position
  | unexpected _ _ p | invalid _ p | build _ p | assemble _ p => p

/-- The error in words. -/
def message : ParseError → String
  | lex e => e.message
  | unexpected expected found p =>
      p.text ++ ": expected " ++ expected.text ++ ", found " ++ found.text
  | invalid fault p => p.text ++ ": " ++ fault.text
  | build e p => p.text ++ ": " ++ e.message
  | assemble e p => p.text ++ ": " ++ e.message

end ParseError

end Extractor.Declaration
