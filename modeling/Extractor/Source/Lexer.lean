import Extractor.Source.Token
import Extractor.Text.Blank
import Extractor.Text.Numeric

/-!
# Extractor.Source.Lexer

Cutting a declaration text into tokens. Every reader takes the place and the
characters that are left, and gives back the place and the characters behind
what it has read. White space and comments, which run from `#` to the end of
the line, separate tokens and are skipped.
-/

namespace Extractor

variable [Libraries]

/-- The characters that are left of a text, and the place of the first of them. -/
structure Cursor where
  position : Position
  rest : List Char
  deriving Inhabited

namespace Lexer

/-! ## pieces of tokens -/

/-- Skips white space and comments. A comment ends before a line break, which is white space. -/
def skipTrivia (inComment : Bool) (p : Position) : List Char → Cursor
  | [] => ⟨p, []⟩
  | c :: cs =>
      if inComment then skipTrivia (c != '\n') (p.advance c) cs
      else if Text.isBlank c then skipTrivia false (p.advance c) cs
      else if c = '#' then skipTrivia true (p.advance c) cs
      else ⟨p, c :: cs⟩

/-- Whether a name may start with the character. -/
def isNameStart (c : Char) : Bool := Text.isAlphabetic c || c = '_'

/-- Whether a name may continue with the character. -/
def isNamePart (c : Char) : Bool := Text.isAlphanumeric c || c = '_'

/-- The characters of a name, and what follows it. -/
def readName (p : Position) : List Char → List Char × Cursor
  | [] => ([], ⟨p, []⟩)
  | c :: cs =>
      if isNamePart c then
        let (name, next) := readName (p.advance c) cs
        (c :: name, next)
      else ([], ⟨p, c :: cs⟩)

/-- The character that an escape stands for. -/
def unescape? : Char → Option Char
  | 'n' => some '\n'
  | 't' => some '\t'
  | 'r' => some '\r'
  | '"' => some '"'
  | '\'' => some '\''
  | '\\' => some '\\'
  | _ => none

/-- The characters of a string up to its closing quote, escapes resolved; `opening` is the place of
the opening quote. -/
def readString (quote : Char) (opening p : Position) :
    List Char → Except LexError (List Char × Cursor)
  | [] => .error (.unterminatedString opening)
  | ['\\'] => .error (.unterminatedString opening)
  | '\\' :: e :: cs =>
      match unescape? e with
      | none => .error (.invalidEscape e p)
      | some c => do
          let (body, next) ← readString quote opening ((p.advance '\\').advance e) cs
          return (c :: body, next)
  | c :: cs =>
      if c = quote then .ok ([], ⟨p.advance c, cs⟩)
      else do
        let (body, next) ← readString quote opening (p.advance c) cs
        return (c :: body, next)

/-- The characters of a raw string up to its closing quote. -/
def readRawString (quote : Char) (opening p : Position) :
    List Char → Except LexError (List Char × Cursor)
  | [] => .error (.unterminatedString opening)
  | c :: cs =>
      if c = quote then .ok ([], ⟨p.advance c, cs⟩)
      else do
        let (body, next) ← readRawString quote opening (p.advance c) cs
        return (c :: body, next)

/-- The digits of a number, underscores left out, and whether there is a point among them. A point
belongs to the number if it is the first one and a digit follows. -/
def readDigits (fraction : Bool) (p : Position) : List Char → List Char × Bool × Cursor
  | [] => ([], fraction, ⟨p, []⟩)
  | c :: cs =>
      if Text.isAsciiDigit c then
        let (digits, fraction, next) := readDigits fraction (p.advance c) cs
        (c :: digits, fraction, next)
      else if c = '_' then readDigits fraction (p.advance c) cs
      else if c = '.' && !fraction && cs.head?.any Text.isAsciiDigit then
        let (digits, fraction, next) := readDigits true (p.advance c) cs
        (c :: digits, fraction, next)
      else ([], fraction, ⟨p, c :: cs⟩)

/-- The value of a sequence of digits. -/
def digitsValue (digits : List Char) : Nat :=
  digits.foldl (fun n c => n * 10 + Decimal.digitValue c) 0

/-- The token of a number read at `p`: a decimal if it has a point, otherwise an integer that fits
63 bits. -/
def numberToken (p : Position) (digits : List Char) (fraction : Bool) : Except LexError Token :=
  if fraction then
    match Libraries.readDecimal? digits with
    | some d => .ok (.float d)
    | none => .error (.invalidNumber (String.ofList digits) p)
  else if digitsValue digits < Nat.pow 2 63 then .ok (.integer (digitsValue digits))
  else .error (.invalidNumber (String.ofList digits) p)

/-- The token that a single character is. -/
def punctuation? : Char → Option Token
  | '.' => some .dot
  | ',' => some .comma
  | ':' => some .colon
  | '=' => some .equals
  | '|' => some .pipe
  | '-' => some .minus
  | '(' => some .leftParen
  | ')' => some .rightParen
  | '[' => some .leftBracket
  | ']' => some .rightBracket
  | '{' => some .leftBrace
  | '}' => some .rightBrace
  | _ => none

/-- Whether the character opens and closes strings. -/
def isQuote (c : Char) : Bool := c = '"' || c = '\''

/-! ## tokens -/

/-- The token that starts at the first of some characters, and what follows it. -/
def readToken (p : Position) (c : Char) (cs : List Char) : Except LexError (Token × Cursor) :=
  match punctuation? c with
  | some token => .ok (token, ⟨p.advance c, cs⟩)
  | none =>
      if isQuote c then do
        let (body, next) ← readString c p (p.advance c) cs
        return (.string (String.ofList body), next)
      else if c = 'r' && cs.head?.any isQuote then do
        let quote := cs.headD '"'
        let (body, next) ← readRawString quote p ((p.advance c).advance quote) cs.tail
        return (.string (String.ofList body), next)
      else if isNameStart c then
        let (name, next) := readName p (c :: cs)
        .ok (.ofWord (String.ofList name), next)
      else if Text.isAsciiDigit c then do
        let (digits, fraction, next) := readDigits false p (c :: cs)
        let token ← numberToken p digits fraction
        return (token, next)
      else .error (.unexpectedChar c p)

/-- The next token behind white space and comments, and what follows it. -/
def next (cursor : Cursor) : Except LexError (Lexeme × Cursor) :=
  let start := skipTrivia false cursor.position cursor.rest
  match start.rest with
  | [] => .ok (⟨.endOfInput, start.position⟩, start)
  | c :: cs => do
      let (token, after) ← readToken start.position c cs
      return (⟨token, start.position⟩, after)

end Lexer

/-- The tokens of a text: all of them, the last being the end of input, or those before an error. -/
structure Lexed where
  lexemes : List Lexeme
  failure : Option LexError
  deriving DecidableEq, Repr, Inhabited

namespace Lexed

/-- Puts a token in front. -/
def cons (l : Lexeme) (rest : Lexed) : Lexed := { rest with lexemes := l :: rest.lexemes }

/-- The tokens from a cursor on. The first argument bounds the number of tokens; it exceeds the
number of characters that are left, and every token but the last takes at least one. -/
def ofCursor : Nat → Cursor → Lexed
  | 0, _ => ⟨[], none⟩
  | fuel + 1, cursor =>
      match Lexer.next cursor with
      | .error e => ⟨[], some e⟩
      | .ok (l, after) =>
          if l.token = .endOfInput then ⟨[l], none⟩ else (ofCursor fuel after).cons l

/-- The tokens of a text. -/
def ofChars (cs : List Char) : Lexed := ofCursor (cs.length + 1) ⟨.start, cs⟩

/-- The tokens of a string. -/
def ofString (source : String) : Lexed := ofChars source.toList

/-- The tokens, if the whole text could be cut into them. -/
def toExcept (l : Lexed) : Except LexError (List Lexeme) :=
  match l.failure with
  | some e => .error e
  | none => .ok l.lexemes

end Lexed

/-- The tokens of a string with their places, the end of input included. -/
def tokenize (source : String) : Except LexError (List Lexeme) := (Lexed.ofString source).toExcept

end Extractor
