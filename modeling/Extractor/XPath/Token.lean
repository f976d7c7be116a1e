import Extractor.Text.Blank
import Extractor.Text.Numeric

/-!
# Extractor.XPath.Token

The tokens of XPath 1.0 and how a query is cut into them. A name may have a
prefix, and a prefix may stand before a star.
-/

namespace Extractor.XPath

/-- A token of a query. Of literals and numbers only the kind is kept. -/
inductive Token where
  | slash
  | doubleSlash
  | leftBracket
  | rightBracket
  | leftParen
  | rightParen
  | atSign
  | comma
  | doubleColon
  | dot
  | dotDot
  | pipe
  | plus
  | minus
  | eq
  | ne
  | lt
  | le
  | gt
  | ge
  | star
  | dollar
  | literal
  | number
  /-- A name, with or without a prefix, or a prefix with a star. -/
  | name (text : String)
  | endOfQuery
  deriving DecidableEq, Repr, Inhabited

/-- The token in the words of a message. -/
def Token.text : Token → String
  | slash => "Slash"
  | doubleSlash => "DoubleSlash"
  | leftBracket => "LBracket"
  | rightBracket => "RBracket"
  | leftParen => "LParen"
  | rightParen => "RParen"
  | atSign => "At"
  | comma => "Comma"
  | doubleColon => "ColonColon"
  | dot => "Dot"
  | dotDot => "DotDot"
  | pipe => "Pipe"
  | plus => "Plus"
  | minus => "Minus"
  | eq => "Eq"
  | ne => "Neq"
  | lt => "Lt"
  | le => "Le"
  | gt => "Gt"
  | ge => "Ge"
  | star => "Star"
  | dollar => "Dollar"
  | literal => "string literal"
  | number => "number"
  | name text => "'" ++ text ++ "'"
  | endOfQuery => "end of query"

/-- A token and the number of characters before it. -/
structure Lexeme where
  token : Token
  offset : Nat
  deriving DecidableEq, Repr, Inhabited

/-! ## errors -/

/-- What a query should have had where something else was found. -/
inductive Expectation where
  | token (t : Token)
  | variableName
  | knownAxis
  | nodeTest
  | endOfQuery
  deriving DecidableEq, Repr, Inhabited

/-- The expectation in the words of a message. -/
def Expectation.text : Expectation → String
  | token t => "expected " ++ t.text
  | variableName => "expected variable name"
  | knownAxis => "unknown axis"
  | nodeTest => "expected node test"
  | endOfQuery => "unexpected trailing input"

/-- Why a text is no query. -/
inductive Fault where
  | emptyQuery
  | unterminatedLiteral
  | unexpectedChar (c : Char)
  | unexpected (wanted : Expectation) (found : Token)
  deriving DecidableEq, Repr, Inhabited

/-- A fault and the number of characters before the place where it was noticed. -/
structure SyntaxError where
  fault : Fault
  offset : Nat
  deriving DecidableEq, Repr, Inhabited

/-- The message of the error. -/
def SyntaxError.message (e : SyntaxError) : String :=
  let what := match e.fault with
    | .emptyQuery => "empty query"
    | .unterminatedLiteral => "unterminated string literal"
    | .unexpectedChar c => "unexpected character '" ++ String.ofList [c] ++ "'"
    | .unexpected wanted found => wanted.text ++ ", found " ++ found.text
  what ++ s!" at offset {e.offset}"

/-! ## scanning -/

/-- Whether a name may start with the character. -/
def isNameStart (c : Char) : Bool := Text.isAlphabetic c || c == '_'

/-- Whether a name may continue with the character. -/
def isNamePart (c : Char) : Bool := Text.isAlphanumeric c || c == '_' || c == '-' || c == '.'

/-- Reads a name. A colon belongs to it if a star or the start of another name follows. -/
def readName (cs : List Char) : List Char × List Char :=
  let (head, rest) := cs.span isNamePart
  match rest with
  | ':' :: '*' :: rest => (head ++ [':', '*'], rest)
  | ':' :: c :: more =>
      if isNameStart c then
        let (tail, rest) := (c :: more).span isNamePart
        (head ++ ':' :: tail, rest)
      else (head, rest)
  | _ => (head, rest)

/-- What follows a number: digits, and a point with or without digits behind it. -/
def skipNumber (cs : List Char) : List Char :=
  match cs.dropWhile Text.isAsciiDigit with
  | '.' :: rest => rest.dropWhile Text.isAsciiDigit
  | rest => rest

/-- What follows the quote that closes a literal. -/
def skipLiteral? (quote : Char) : List Char → Option (List Char)
  | [] => none
  | c :: cs => if c = quote then some cs else skipLiteral? quote cs

/-- The token of a single character. -/
def single? : Char → Option Token
  | '/' => some .slash
  | '[' => some .leftBracket
  | ']' => some .rightBracket
  | '(' => some .leftParen
  | ')' => some .rightParen
  | '@' => some .atSign
  | ',' => some .comma
  | '|' => some .pipe
  | '+' => some .plus
  | '-' => some .minus
  | '=' => some .eq
  | '*' => some .star
  | '$' => some .dollar
  | '<' => some .lt
  | '>' => some .gt
  | '.' => some .dot
  | _ => none

/-- The token of two characters. -/
def double? : Char → Char → Option Token
  | '/', '/' => some .doubleSlash
  | ':', ':' => some .doubleColon
  | '!', '=' => some .ne
  | '<', '=' => some .le
  | '>', '=' => some .ge
  | '.', '.' => some .dotDot
  | _, _ => none

/-- Reads the token that starts with the given character; the fault comes with the characters behind
the place where it was noticed. -/
def readToken (c : Char) (cs : List Char) : Except (Fault × List Char) (Token × List Char) :=
  match cs.head?.bind (double? c) with
  | some t => .ok (t, cs.tail)
  | none =>
      if Text.isAsciiDigit c || (c = '.' && cs.head?.any Text.isAsciiDigit) then
        .ok (.number, skipNumber (c :: cs))
      else match single? c with
        | some t => .ok (t, cs)
        | none =>
            if c = '"' || c = '\'' then
              match skipLiteral? c cs with
              | some rest => .ok (.literal, rest)
              | none => .error (.unterminatedLiteral, [])
            else if isNameStart c then
              let (name, rest) := readName (c :: cs)
              .ok (.name (String.ofList name), rest)
            else .error (.unexpectedChar c, c :: cs)

/-- The tokens of the characters that are left of a query with `size` characters, the end of the
query included. The first argument bounds the number of tokens. -/
def scanFrom (size : Nat) : Nat → List Char → Except SyntaxError (List Lexeme)
  | 0, _ => .ok []
  | fuel + 1, cs =>
      match cs.dropWhile Text.isBlank with
      | [] => .ok [⟨.endOfQuery, size⟩]
      | c :: more =>
          match readToken c more with
          | .error (fault, rest) => .error ⟨fault, size - rest.length⟩
          | .ok (t, rest) => do
              let others ← scanFrom size fuel rest
              return ⟨t, size - (more.length + 1)⟩ :: others

/-- The tokens of a query. -/
def scan (cs : List Char) : Except SyntaxError (List Lexeme) :=
  scanFrom cs.length (cs.length + 1) cs

end Extractor.XPath
