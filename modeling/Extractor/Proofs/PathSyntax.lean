import Mathlib.Data.List.Basic

/-!
# Extractor.Proofs.PathSyntax

A part of XPath 1.0, large enough for the queries that selectors are converted
to: unions of relative paths with predicates, in which expressions are joined
by `or`, `and`, `=` and `-`. A query is cut into tokens that keep what they
say, and the tokens are read as paths; a query outside of this part has no
reading (`parse`).
-/

namespace Extractor.XPath.Fragment

/-! ## tokens -/

/-- A token and what it says. -/
inductive Token where
  | name (text : List Char)
  | literal (text : List Char)
  | number (value : Nat)
  /-- The mark between an axis and a node test. -/
  | doubleColon
  /-- A bracket, an operator or a separator of one character. -/
  | sign (c : Char)
  deriving DecidableEq, Repr

/-- Where the reading of tokens stands between two characters. -/
inductive Lexing where
  | between
  | inName (read : List Char)
  | inNumber (read : Nat)
  | inLiteral (quote : Char) (read : List Char)
  /-- Behind the first of two colons. -/
  | inColons
  deriving DecidableEq, Repr

/-- White space between tokens, and between the words of a text. -/
def isSpace (c : Char) : Bool := c == ' ' || c == '\t' || c == '\n' || c == '\r'

/-- Whether a name can start with the character. -/
def isNameStart (c : Char) : Bool := c.isAlpha || c == '_'

/-- Whether a name can go on with the character. -/
def isNameChar (c : Char) : Bool := c.isAlphanum || c == '_' || c == '-' || c == '.'

/-- The signs of one character. -/
def signs : List Char := ['/', '|', '[', ']', '(', ')', '@', ',', '=', '-', '*']

/-- A character that starts a token, or stands between two. -/
def opening (c : Char) : Option (List Token × Lexing) :=
  if isSpace c then some ([], .between)
  else if isNameStart c then some ([], .inName [c])
  else if c.isDigit then some ([], .inNumber (c.toNat - '0'.toNat))
  else if c == '\'' || c == '"' then some ([], .inLiteral c [])
  else if c == ':' then some ([], .inColons)
  else if signs.contains c then some ([.sign c], .between)
  else none

/-- The tokens that a character ends, and where the reading stands behind it. -/
def advance (c : Char) : Lexing → Option (List Token × Lexing)
  | .between => opening c
  | .inName read =>
      if isNameChar c then some ([], .inName (read ++ [c]))
      else (opening c).map fun (tokens, s) => (.name read :: tokens, s)
  | .inNumber read =>
      if c.isDigit then some ([], .inNumber (10 * read + (c.toNat - '0'.toNat)))
      else (opening c).map fun (tokens, s) => (.number read :: tokens, s)
  | .inLiteral quote read =>
      if c == quote then some ([.literal read], .between)
      else some ([], .inLiteral quote (read ++ [c]))
  | .inColons => if c == ':' then some ([.doubleColon], .between) else none

/-- The tokens that end within some characters, and where the reading stands behind them. -/
def lex : Lexing → List Char → Option (List Token × Lexing)
  | s, [] => some ([], s)
  | s, c :: cs => do
      let (tokens, s) ← advance c s
      let (later, s) ← lex s cs
      return (tokens ++ later, s)

/-- The token that the end of the query ends, if the query may end here. -/
def Lexing.last : Lexing → Option (List Token)
  | between => some []
  | inName read => some [.name read]
  | inNumber read => some [.number read]
  | inLiteral .. | inColons => none

/-- The tokens of the rest of a query. -/
def tokens (s : Lexing) (query : List Char) : Option (List Token) := do
  let (tokens, s) ← lex s query
  let last ← s.last
  return tokens ++ last

/-! ## paths -/

/-- An axis from one node of the tree to others. -/
inductive Axis where
  | child
  | descendantOrSelf
  | followingSibling
  | precedingSibling
  deriving DecidableEq, Repr

/-- What a node has to be: an element, or an element of a name. -/
inductive NodeTest where
  | any
  | named (name : List Char)
  deriving DecidableEq, Repr

/-- An expression in a predicate. -/
inductive Expr where
  | or (left right : Expr)
  | and (left right : Expr)
  | equal (left right : Expr)
  | minus (left right : Expr)
  | literal (text : List Char)
  | number (value : Nat)
  | attribute (name : List Char)
  | elements (axis : Axis) (test : NodeTest)
  | position
  | name
  | length
  | count (nodes : Expr)
  | not (condition : Expr)
  | normalizeSpace (text : Expr)
  | lengthOf (text : Expr)
  | contains (text part : Expr)
  | startsWith (text part : Expr)
  | substring (text start : Expr)
  | concat (first second third : Expr)
  deriving DecidableEq, Repr

/-- A step of a path. -/
structure Step where
  axis : Axis
  test : NodeTest
  predicates : List Expr
  deriving DecidableEq, Repr

/-- A path, taken step by step. -/
abbrev Path := List Step

/-! ## reading -/

/-- An axis by its name. -/
def axis? (name : List Char) : Option Axis :=
  [("child".toList, Axis.child), ("descendant-or-self".toList, .descendantOrSelf),
    ("following-sibling".toList, .followingSibling),
    ("preceding-sibling".toList, .precedingSibling)].lookup name

/-- A call of a function by its name and arguments. -/
def call? (name : List Char) : List Expr → Option Expr
  | [] => [("position".toList, Expr.position), ("name".toList, .name),
      ("string-length".toList, .length)].lookup name
  | [a] => [("count".toList, Expr.count a), ("not".toList, .not a),
      ("normalize-space".toList, .normalizeSpace a), ("string-length".toList, .lengthOf a)].lookup
      name
  | [a, b] => [("contains".toList, Expr.contains a b), ("starts-with".toList, .startsWith a b),
      ("substring".toList, .substring a b)].lookup name
  | [a, b, c] => [("concat".toList, Expr.concat a b c)].lookup name
  | _ => none

/-- An operator in front of some tokens, how strongly it binds, and the tokens behind it. -/
def operator? : List Token → Option ((Expr → Expr → Expr) × Nat × List Token)
  | .name text :: rest =>
      if text = "or".toList then some (.or, 1, rest)
      else if text = "and".toList then some (.and, 2, rest)
      else none
  | .sign '=' :: rest => some (.equal, 3, rest)
  | .sign '-' :: rest => some (.minus, 4, rest)
  | _ => none

/-- A node test in front of some tokens. -/
def nodeTest? : List Token → Option (NodeTest × List Token)
  | .sign '*' :: rest => some (.any, rest)
  | .name text :: rest => some (.named text, rest)
  | _ => none

/-- An axis, or none for that of the children, and a node test in front of some tokens. -/
def axisTest? : List Token → Option (Axis × NodeTest × List Token)
  | .name text :: .doubleColon :: rest => do
      let axis ← axis? text
      let (test, rest) ← nodeTest? rest
      return (axis, test, rest)
  | tokens => (nodeTest? tokens).map (Axis.child, ·)

/-- The tokens behind a sign that has to be in front of them. -/
def behind (c : Char) : List Token → Option (List Token)
  | .sign c' :: rest => if c = c' then some rest else none
  | _ => none

mutual

/-- An expression in front of some tokens, whose operators bind at least as strongly as `least`. -/
def expression : Nat → Nat → List Token → Option (Expr × List Token)
  | 0, _, _ => none
  | fuel + 1, least, tokens => do
      let (left, rest) ← operand fuel tokens
      operators fuel least left rest

/-- The rest of an expression behind its left operand. Operators of one strength are taken from left
to right. -/
def operators : Nat → Nat → Expr → List Token → Option (Expr × List Token)
  | 0, _, _, _ => none
  | fuel + 1, least, left, tokens =>
      match operator? tokens with
      | some (join, strength, rest) =>
          if least ≤ strength then do
            let (right, rest) ← expression fuel (strength + 1) rest
            operators fuel least (join left right) rest
          else some (left, tokens)
      | none => some (left, tokens)

/-- An operand in front of some tokens. -/
def operand : Nat → List Token → Option (Expr × List Token)
  | 0, _ => none
  | _ + 1, .literal text :: rest => some (.literal text, rest)
  | _ + 1, .number value :: rest => some (.number value, rest)
  | _ + 1, .sign '@' :: .name text :: rest => some (.attribute text, rest)
  | fuel + 1, .sign '(' :: rest => do
      let (inner, rest) ← expression fuel 0 rest
      let rest ← behind ')' rest
      return (inner, rest)
  | fuel + 1, .name text :: .sign '(' :: rest => do
      let (inner, rest) ← arguments fuel rest
      let call ← call? text inner
      return (call, rest)
  | _ + 1, tokens => do
      let (axis, test, rest) ← axisTest? tokens
      return (.elements axis test, rest)

/-- The arguments of a call and its closing bracket in front of some tokens. -/
def arguments : Nat → List Token → Option (List Expr × List Token)
  | 0, _ => none
  | _ + 1, .sign ')' :: rest => some ([], rest)
  | fuel + 1, tokens => do
      let (first, rest) ← expression fuel 0 tokens
      match rest with
      | .sign ',' :: rest => do
          let (later, rest) ← arguments fuel rest
          return (first :: later, rest)
      | rest => do
          let rest ← behind ')' rest
          return ([first], rest)

end

/-- The predicates in front of some tokens. -/
def predicates : Nat → List Token → Option (List Expr × List Token)
  | 0, _ => none
  | fuel + 1, .sign '[' :: rest => do
      let (first, rest) ← expression fuel 0 rest
      let rest ← behind ']' rest
      let (later, rest) ← predicates fuel rest
      return (first :: later, rest)
  | _ + 1, tokens => some ([], tokens)

mutual

/-- A path in front of some tokens. -/
def path : Nat → List Token → Option (Path × List Token)
  | 0, _ => none
  | fuel + 1, tokens => do
      let (axis, test, rest) ← axisTest? tokens
      let (predicates, rest) ← predicates fuel rest
      let (later, rest) ← furtherSteps fuel rest
      return (⟨axis, test, predicates⟩ :: later, rest)

/-- The steps behind a first one. -/
def furtherSteps : Nat → List Token → Option (Path × List Token)
  | 0, _ => none
  | fuel + 1, .sign '/' :: rest => path fuel rest
  | _ + 1, tokens => some ([], tokens)

end

/-- Paths with bars between them, up to the end. -/
def union : Nat → List Token → Option (List Path)
  | 0, _ => none
  | fuel + 1, tokens => do
      let (first, rest) ← path fuel tokens
      match rest with
      | [] => return [first]
      | rest => do
          let later ← union fuel (← behind '|' rest)
          return first :: later

/-- The paths of a query. No reading takes more than a few calls for each token. -/
def parse (query : List Char) : Option (List Path) := do
  let tokens ← tokens .between query
  union (8 * (tokens.length + 1)) tokens

end Extractor.XPath.Fragment
