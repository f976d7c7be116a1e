import Extractor.XPath.Token

/-!
# Extractor.XPath.Grammar

Which token sequences are XPath 1.0 expressions. The recogniser follows the
grammar of the standard: six levels of binary operators, unary minus, unions of
paths, and paths made of steps with predicates. Names of functions are not
checked; a name before a parenthesis is a function unless it is a node type.
-/

namespace Extractor.XPath

/-! ## vocabulary -/

/-- The node types, which look like functions but are node tests. -/
def nodeTypes : List String := ["comment", "text", "processing-instruction", "node"]

/-- The axes. -/
def axes : List String :=
  ["ancestor", "ancestor-or-self", "attribute", "child", "descendant", "descendant-or-self",
    "following", "following-sibling", "namespace", "parent", "preceding", "preceding-sibling",
    "self"]

/-- Whether the token is a binary operator of the given level, from the loosest, 0, to the tightest,
5. -/
def isOperator : Nat → Token → Bool
  | 0, t => t = .name "or"
  | 1, t => t = .name "and"
  | 2, t => t = .eq || t = .ne
  | 3, t => t = .lt || t = .le || t = .gt || t = .ge
  | 4, t => t = .plus || t = .minus
  | 5, t => t = .star || t = .name "div" || t = .name "mod"
  | _, _ => false

/-- The number of levels of binary operators. -/
def levels : Nat := 6

/-! ## positions in the token sequence -/

/-- The current token; the end of the query if nothing is left. -/
def current (ts : List Lexeme) : Token := (ts.head?.map Lexeme.token).getD .endOfQuery

/-- The failure to find something at the current token. -/
def unexpected {α : Type} (wanted : Expectation) (ts : List Lexeme) : Except SyntaxError α :=
  .error ⟨.unexpected wanted (current ts), (ts.head?.map Lexeme.offset).getD 0⟩

/-- Passes the given token. -/
def expect (t : Token) (ts : List Lexeme) : Except SyntaxError (List Lexeme) :=
  if current ts = t then .ok ts.tail else unexpected (.token t) ts

/-- Whether the token separates steps. -/
def isStepSeparator (t : Token) : Bool := t = .slash || t = .doubleSlash

/-- Whether a step can start with the token. -/
def startsStep : Token → Bool
  | .name _ | .star | .atSign | .dot | .dotDot => true
  | _ => false

/-- Whether a path starts with an expression other than a step: a literal, a number, a variable, a
parenthesis or a function call. -/
def startsFilter (ts : List Lexeme) : Bool :=
  match current ts with
  | .literal | .number | .dollar | .leftParen => true
  | .name n => current ts.tail = .leftParen && n ∉ nodeTypes
  | _ => false

/-- Passes the axis of a step: an at sign, a known axis with its colons, or nothing. -/
def readAxis (ts : List Lexeme) : Except SyntaxError (List Lexeme) :=
  match current ts with
  | .atSign => .ok ts.tail
  | .name n =>
      if current ts.tail = .doubleColon then
        if n ∈ axes then .ok ts.tail.tail else unexpected .knownAxis ts
      else .ok ts
  | _ => .ok ts

/-- Passes a node test: a star, a name, or a node type with its parentheses. -/
def readNodeTest (ts : List Lexeme) : Except SyntaxError (List Lexeme) :=
  match current ts with
  | .star => .ok ts.tail
  | .name n =>
      let rest := ts.tail
      if n ∈ nodeTypes && current rest = .leftParen then
        let inside := rest.tail
        if n = "processing-instruction" && current inside = .literal then
          expect .rightParen inside.tail
        else expect .rightParen inside
      else .ok rest
  | _ => unexpected .nodeTest ts

/-! ## expressions -/

mutual

/-- An expression of the given level of binary operators: operands of the next level with operators
of this level between them. -/
def readBinary : Nat → Nat → List Lexeme → Except SyntaxError (List Lexeme)
  | 0, _, ts => .ok ts
  | fuel + 1, level, ts =>
      if level < levels then do
        let rest ← readBinary fuel (level + 1) ts
        readOperands fuel level rest
      else readUnion fuel (ts.dropWhile fun t => t.token = .minus)

/-- The operators of a level with an operand behind each. -/
def readOperands : Nat → Nat → List Lexeme → Except SyntaxError (List Lexeme)
  | 0, _, ts => .ok ts
  | fuel + 1, level, ts =>
      if isOperator level (current ts) then do
        let rest ← readBinary fuel (level + 1) ts.tail
        readOperands fuel level rest
      else .ok ts

/-- Paths with bars between them. -/
def readUnion : Nat → List Lexeme → Except SyntaxError (List Lexeme)
  | 0, ts => .ok ts
  | fuel + 1, ts => do
      let rest ← readPath fuel ts
      if current rest = .pipe then readUnion fuel rest.tail else return rest

/-- A path: a filter expression perhaps followed by steps, or a location path. -/
def readPath : Nat → List Lexeme → Except SyntaxError (List Lexeme)
  | 0, ts => .ok ts
  | fuel + 1, ts =>
      if startsFilter ts then do
        let rest ← readPrimary fuel ts
        let rest ← readPredicates fuel rest
        if isStepSeparator (current rest) then readSteps fuel rest.tail else return rest
      else match current ts with
        | .slash => if startsStep (current ts.tail) then readSteps fuel ts.tail else .ok ts.tail
        | .doubleSlash => readSteps fuel ts.tail
        | _ => readSteps fuel ts

/-- A literal, a number, a variable, an expression in parentheses or a function call. -/
def readPrimary : Nat → List Lexeme → Except SyntaxError (List Lexeme)
  | 0, ts => .ok ts
  | fuel + 1, ts =>
      match current ts with
      | .dollar =>
          match current ts.tail with
          | .name _ => .ok ts.tail.tail
          | _ => unexpected .variableName ts.tail
      | .leftParen => do
          let rest ← readBinary fuel 0 ts.tail
          expect .rightParen rest
      | .name _ => do
          let rest ← expect .leftParen ts.tail
          if current rest = .rightParen then return rest.tail else readArguments fuel rest
      | _ => .ok ts.tail

/-- The arguments of a function call, at least one, and the closing parenthesis. -/
def readArguments : Nat → List Lexeme → Except SyntaxError (List Lexeme)
  | 0, ts => .ok ts
  | fuel + 1, ts => do
      let rest ← readBinary fuel 0 ts
      if current rest = .comma then readArguments fuel rest.tail else expect .rightParen rest

/-- Steps with separators between them. -/
def readSteps : Nat → List Lexeme → Except SyntaxError (List Lexeme)
  | 0, ts => .ok ts
  | fuel + 1, ts => do
      let rest ← readStep fuel ts
      if isStepSeparator (current rest) then readSteps fuel rest.tail else return rest

/-- A step: one of the abbreviations `.` and `..`, or an axis, a node test and predicates. -/
def readStep : Nat → List Lexeme → Except SyntaxError (List Lexeme)
  | 0, ts => .ok ts
  | fuel + 1, ts =>
      if current ts = .dot || current ts = .dotDot then .ok ts.tail
      else do
        let rest ← readAxis ts
        let rest ← readNodeTest rest
        readPredicates fuel rest

/-- Any number of predicates in square brackets. -/
def readPredicates : Nat → List Lexeme → Except SyntaxError (List Lexeme)
  | 0, ts => .ok ts
  | fuel + 1, ts =>
      if current ts = .leftBracket then do
        let rest ← readBinary fuel 0 ts.tail
        let rest ← expect .rightBracket rest
        readPredicates fuel rest
      else .ok ts

end

/-- Checks that the tokens up to the end of the query are an expression. Between two nested
expressions lie fewer than sixteen steps of the readers, and a token. -/
def recognise (ts : List Lexeme) : Except SyntaxError Unit := do
  let rest ← readBinary (16 * (ts.length + 1)) 0 ts
  if current rest = .endOfQuery then return () else unexpected .endOfQuery rest

/-- Checks that the text is an XPath expression. -/
def checkSyntax (query : String) : Except SyntaxError Unit :=
  if Text.isBlankString query then .error ⟨.emptyQuery, 0⟩
  else do
    let ts ← scan query.toList
    recognise ts

/-- Whether the text is an XPath expression. -/
def accepts (query : String) : Bool := (checkSyntax query).toBool

end Extractor.XPath
