import Extractor.Libraries
import Extractor.Source.Position
import Extractor.Text.Quoted

/-!
# Extractor.Source.Token

The tokens of the declaration language and what can go wrong while a text is
cut into them.
-/

namespace Extractor

/-- The words that are no names. -/
inductive Keyword where
  | schema
  | json
  /-- Introduces the parents of a schema. -/
  | inherits
  deriving DecidableEq, Repr, Inhabited

/-- The word itself. -/
def Keyword.word : Keyword → String
  | schema => "schema"
  | json => "json"
  | inherits => "extends"

/-- A token of the declaration language. -/
inductive Token where
  /-- An integer below `2 ^ 63`; a sign is a token of its own. -/
  | integer (value : Nat)
  | float (value : Decimal)
  | string (value : String)
  | boolean (value : Bool)
  | null
  | identifier (name : String)
  | keyword (word : Keyword)
  | dot
  | comma
  | colon
  | equals
  | pipe
  | minus
  | leftParen
  | rightParen
  | leftBracket
  | rightBracket
  | leftBrace
  | rightBrace
  | endOfInput
  deriving DecidableEq, Repr, Inhabited

namespace Token

variable [Libraries]

/-- The token in the words of a message. -/
def text : Token → String
  | integer n => s!"integer {n}"
  | float d => "float " ++ d.text
  | string s => "string " ++ Text.quoted s
  | boolean b => if b then "true" else "false"
  | null => "null"
  | identifier name => s!"identifier '{name}'"
  | keyword k => "'" ++ k.word ++ "'"
  | dot => "'.'"
  | comma => "','"
  | colon => "':'"
  | equals => "'='"
  | pipe => "'|'"
  | minus => "'-'"
  | leftParen => "'('"
  | rightParen => "')'"
  | leftBracket => "'['"
  | rightBracket => "']'"
  | leftBrace => "'\x7b'"
  | rightBrace => "'\x7d'"
  | endOfInput => "end of input"

/-- The token that a word stands for: a keyword, a literal or a name. -/
def ofWord (word : String) : Token :=
  match word with
  | "schema" => keyword .schema
  | "json" => keyword .json
  | "extends" => keyword .inherits
  | "true" => boolean true
  | "false" => boolean false
  | "null" => null
  | _ => identifier word

end Token

/-- A token and the place where it starts. -/
structure Lexeme where
  token : Token
  position : Position
  deriving DecidableEq, Repr, Inhabited

/-- Why a text cannot be cut into tokens. -/
inductive LexError where
  | unterminatedString (position : Position)
  | invalidEscape (ch : Char) (position : Position)
  | invalidNumber (text : String) (position : Position)
  | unexpectedChar (ch : Char) (position : Position)
  deriving DecidableEq, Repr, Inhabited

namespace LexError

/-- Where the error was found. -/
def position : LexError → Position
  | unterminatedString p => p
  | invalidEscape _ p => p
  | invalidNumber _ p => p
  | unexpectedChar _ p => p

/-- The message of the error. -/
def message (e : LexError) : String :=
  e.position.text ++ ": " ++ match e with
    | unterminatedString _ => "unterminated string"
    | invalidEscape ch _ => "invalid escape sequence '\\" ++ String.ofList [ch] ++ "'"
    | invalidNumber text _ => "invalid number '" ++ text ++ "'"
    | unexpectedChar ch _ => "unexpected character '" ++ String.ofList [ch] ++ "'"

end LexError

end Extractor
