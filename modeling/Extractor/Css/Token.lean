import Extractor.Json.Reader

/-!
# Extractor.Css.Token

Cutting a CSS text into tokens as the CSS syntax module defines them. Of a
token only what the selector grammar asks for is kept: the name of an
identifier, the sign and form of a number. Comments leave no token.
-/

namespace Extractor.Css

/-- The three pairs of brackets. -/
inductive Bracket where
  | paren
  | square
  | curly
  deriving DecidableEq, Repr, Inhabited

/-- A CSS token. -/
inductive Token where
  | ident (name : List Char)
  /-- A name with an opening parenthesis. -/
  | function (name : List Char)
  /-- A `#` with a name that is an identifier, or with one that is not. -/
  | hash (isIdent : Bool)
  | atKeyword
  | string
  | badString
  | url
  | badUrl
  | delim (c : Char)
  | number (signed isInteger : Bool)
  | dimension (signed isInteger : Bool) (unit : List Char)
  | percentage
  | whitespace
  | colon
  | semicolon
  | comma
  /-- One of the operators `~= |= ^= $= *=`. -/
  | matchOperator
  /-- One of the comment marks of old pages. -/
  | commentMark
  | opening (b : Bracket)
  | closing (b : Bracket)
  deriving DecidableEq, Repr, Inhabited

/-- Whether the token is an error wherever it stands: a bad string or address, or a closing bracket
that closes nothing. -/
def Token.isError : Token → Bool
  | .badString | .badUrl | .closing _ => true
  | _ => false

/-! ## character classes -/

/-- White space of CSS. -/
def isSpace (c : Char) : Bool := c == ' ' || c == '\t' || isNewline c
where
  /-- Line breaks of CSS. -/
  isNewline (c : Char) : Bool := c == '\n' || c == '\r' || c == '\x0c'

/-- Line breaks of CSS. -/
def isNewline (c : Char) : Bool := isSpace.isNewline c

/-- The decimal digits. -/
def isDigit (c : Char) : Bool := '0' ≤ c && c ≤ '9'

/-- The ASCII letters. -/
def isLetter (c : Char) : Bool := ('a' ≤ c && c ≤ 'z') || ('A' ≤ c && c ≤ 'Z')

/-- Whether the character is outside ASCII. -/
def isWide (c : Char) : Bool := c.toNat ≥ 128

/-- Characters that start a name without looking further. -/
def isNameStart (c : Char) : Bool := isLetter c || c == '_' || c == '\x00' || isWide c

/-- Characters inside a name. -/
def isNamePart (c : Char) : Bool := isNameStart c || isDigit c || c == '-'

/-- The ASCII lower case of a name. -/
def lower (name : List Char) : List Char := name.map Char.toLower

/-- Whether an identifier starts here. A backslash at the end of the text counts as an escape. -/
def startsIdent : List Char → Bool
  | '-' :: c :: _ => isNameStart c || c == '-' || c == '\\'
  | '\\' :: c :: _ => !isNewline c
  | ['\\'] => true
  | c :: _ => isNameStart c
  | [] => false

/-! ## names and escapes -/

/-- Up to `n` hexadecimal digits, their value and what follows. -/
def readHex : Nat → Nat → List Char → Nat × List Char
  | 0, value, cs => (value, cs)
  | _ + 1, value, [] => (value, [])
  | n + 1, value, c :: cs =>
      match Json.hexValue? c with
      | some d => readHex n (value * 16 + d) cs
      | none => (value, c :: cs)

/-- Skips the one white space that may end a hexadecimal escape. -/
def skipOneSpace : List Char → List Char
  | '\r' :: '\n' :: cs => cs
  | c :: cs => if isSpace c then cs else c :: cs
  | [] => []

/-- The character with the given code point; the replacement character if there is none. -/
def charOfCode (n : Nat) : Char :=
  if n == 0 || n ≥ 0x110000 || (0xD800 ≤ n && n ≤ 0xDFFF) then '�' else Char.ofNat n

/-- The character an escape stands for, its backslash having been read. -/
def readEscape : List Char → Char × List Char
  | [] => ('�', [])
  | c :: cs =>
      match Json.hexValue? c with
      | some _ =>
          let (n, rest) := readHex 6 0 (c :: cs)
          (charOfCode n, skipOneSpace rest)
      | none => (if c == '\x00' then '�' else c, cs)

/-- The characters of a name and what follows it. The first argument bounds the number of
characters. -/
def readName : Nat → List Char → List Char × List Char
  | 0, cs => ([], cs)
  | _ + 1, [] => ([], [])
  | fuel + 1, c :: cs =>
      if isNamePart c then
        let (name, rest) := readName fuel cs
        (c :: name, rest)
      else if c == '\\' && !cs.head?.any isNewline then
        let (e, rest) := readEscape cs
        let (name, rest) := readName fuel rest
        (e :: name, rest)
      else ([], c :: cs)

/-! ## strings, comments and addresses -/

/-- Reads a string behind its opening quote. The end of the text closes it; a line break makes it a
bad string and stays. `escape` is the number of digits that a hexadecimal escape in progress may
still have; such an escape takes one white space behind it. -/
def readString (quote : Char) : Option Nat → List Char → Token × List Char
  | _, [] => (.string, [])
  | escape, '\r' :: '\n' :: cs =>
      if escape.isSome then readString quote none cs else (.badString, '\r' :: '\n' :: cs)
  | escape, c :: cs =>
      match escape, Json.hexValue? c with
      | some (n + 1), some _ => readString quote (some n) cs
      | _, _ =>
          if escape.isSome && isSpace c then readString quote none cs
          else if c == quote then (.string, cs)
          else if isNewline c then (.badString, c :: cs)
          else if c == '\\' then
            match cs with
            | [] => (.string, [])
            | '\r' :: '\n' :: cs => readString quote none cs
            | e :: cs => readString quote ((Json.hexValue? e).map fun _ => 5) cs
          else readString quote none cs

/-- Skips a comment behind its opening mark; the end of the text closes it. -/
def skipComment : List Char → List Char
  | [] => []
  | '*' :: '/' :: cs => cs
  | _ :: cs => skipComment cs

/-- Skips to behind the parenthesis that ends a bad address. -/
def skipBadUrl : List Char → List Char
  | [] => []
  | '\\' :: ')' :: cs => skipBadUrl cs
  | '\\' :: '\\' :: cs => skipBadUrl cs
  | ')' :: cs => cs
  | _ :: cs => skipBadUrl cs

/-- Characters that an address without quotes may not hold. -/
def isBadInUrl (c : Char) : Bool :=
  c == '"' || c == '\'' || c == '(' || c.toNat == 127 || c.toNat == 11
    || (0 < c.toNat && c.toNat ≤ 8) || (14 ≤ c.toNat && c.toNat ≤ 31)

/-- Reads an address without quotes up to its closing parenthesis; `ended` tells that white space
has ended it. -/
def readUrl (ended : Bool) : List Char → Token × List Char
  | [] => (.url, [])
  | ')' :: cs => (.url, cs)
  | '\\' :: c :: cs =>
      if ended || isNewline c then (.badUrl, skipBadUrl (c :: cs)) else readUrl false cs
  | c :: cs =>
      if isSpace c then readUrl true cs
      else if ended || isBadInUrl c then (.badUrl, skipBadUrl cs)
      else readUrl false cs

/-! ## numbers -/

/-- Reads a number without its sign: whether it is an integer, and what follows it. -/
def readUnsigned (cs : List Char) : Bool × List Char :=
  let afterDigits := cs.dropWhile isDigit
  let (isInteger, rest) := match afterDigits with
    | '.' :: c :: more => if isDigit c then (false, more.dropWhile isDigit) else (true, afterDigits)
    | _ => (true, afterDigits)
  match rest with
  | e :: c :: more =>
      if e != 'e' && e != 'E' then (isInteger, rest)
      else if isDigit c then (false, more.dropWhile isDigit)
      else if (c == '+' || c == '-') && more.head?.any isDigit then (false, more.dropWhile isDigit)
      else (isInteger, rest)
  | _ => (isInteger, rest)

/-- Reads a number, a percentage or a dimension whose sign has been read. -/
def readNumeric (signed : Bool) (cs : List Char) : Token × List Char :=
  let (isInteger, rest) := readUnsigned cs
  match rest with
  | '%' :: rest => (.percentage, rest)
  | _ =>
      if startsIdent rest then
        let (unit, rest) := readName rest.length rest
        (.dimension signed isInteger unit, rest)
      else (.number signed isInteger, rest)

/-- Whether a number without sign starts here: a digit, or a point and a digit. -/
def startsNumber : List Char → Bool
  | '.' :: c :: _ => isDigit c
  | c :: _ => isDigit c
  | [] => false

/-! ## tokens -/

/-- Reads an identifier, a function or an address. -/
def readIdentLike (cs : List Char) : Token × List Char :=
  let (name, rest) := readName cs.length cs
  match rest with
  | '(' :: rest =>
      if lower name == ['u', 'r', 'l'] then
        match rest.dropWhile isSpace with
        | '"' :: _ => (.function name, rest)
        | '\'' :: _ => (.function name, rest)
        | more => readUrl false more
      else (.function name, rest)
  | _ => (.ident name, rest)

/-- The token of a single character. -/
def single (c : Char) : Token :=
  match c with
  | '(' => .opening .paren
  | ')' => .closing .paren
  | '[' => .opening .square
  | ']' => .closing .square
  | '{' => .opening .curly
  | '}' => .closing .curly
  | ',' => .comma
  | ':' => .colon
  | ';' => .semicolon
  | c => .delim c

/-- Whether the character and `=` together are an operator. -/
def isMatchSign (c : Char) : Bool := c == '~' || c == '|' || c == '^' || c == '$' || c == '*'

/-- Reads the token that starts with the given character. -/
def readToken (c : Char) (cs : List Char) : Token × List Char :=
  if isSpace c then (.whitespace, cs.dropWhile isSpace)
  else if c == '"' || c == '\'' then readString c none cs
  else if c == '#' then
    if startsIdent cs then (.hash true, (readName cs.length cs).2)
    else if cs.head?.any fun d => isDigit d || d == '-' then
      (.hash false, (readName cs.length cs).2)
    else (.delim c, cs)
  else if (c == '+' || c == '-') && startsNumber cs then readNumeric true cs
  else if startsNumber (c :: cs) then readNumeric false (c :: cs)
  else if c == '-' && (['-', '>'] : List Char).isPrefixOf cs then (.commentMark, cs.drop 2)
  else if startsIdent (c :: cs) then readIdentLike (c :: cs)
  else if c == '<' && (['!', '-', '-'] : List Char).isPrefixOf cs then (.commentMark, cs.drop 3)
  else if c == '@' && startsIdent cs then (.atKeyword, (readName cs.length cs).2)
  else if isMatchSign c && cs.head? == some '=' then (.matchOperator, cs.drop 1)
  else (single c, cs)

/-- The tokens of a text. The first argument bounds their number; the length of the text is enough,
since every token and every comment takes a character. -/
def tokens : Nat → List Char → List Token
  | 0, _ => []
  | _ + 1, [] => []
  | fuel + 1, '/' :: '*' :: cs => tokens fuel (skipComment cs)
  | fuel + 1, c :: cs =>
      let (t, rest) := readToken c cs
      t :: tokens fuel rest

end Extractor.Css
