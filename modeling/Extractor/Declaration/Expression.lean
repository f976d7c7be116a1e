import Extractor.Declaration.Method
import Extractor.Source.Lexer

/-!
# Extractor.Declaration.Expression

Reading literals, calls, filters and chains. The calls of a chain are made as
they are read, so that an error carries the place of the call.
-/

namespace Extractor.Declaration

variable [Libraries]

/-! ## tokens -/

/-- Reads tokens, or fails. The first token left is the current one. -/
abbrev Reading := StateT Lexed (Except ParseError)

namespace Reading

/-- The current token and its place. -/
def currentLexeme : Reading Lexeme := do
  return (← get).lexemes.headD ⟨.endOfInput, .start⟩

/-- The current token. -/
def current : Reading Token := do return (← currentLexeme).token

/-- The place of the current token. -/
def position : Reading Position := do return (← currentLexeme).position

/-- Whether the current token is the given one. -/
def isAt (t : Token) : Reading Bool := do return (← current) = t

/-- Fails at the current token. -/
def unexpected {α : Type} (expected : Expectation) : Reading α := do
  let l ← currentLexeme
  throw (.unexpected expected l.token l.position)

/-- Fails at a place. -/
def invalid {α : Type} (fault : Fault) (p : Position) : Reading α := throw (.invalid fault p)

/-- Moves on to the next token; text that is no token is noticed here. -/
def advance : Reading Unit := fun s =>
  match s.lexemes with
  | _ :: next :: rest => .ok ((), { s with lexemes := next :: rest })
  | _ =>
      match s.failure with
      | some e => .error (.lex e)
      | none => .ok ((), s)

/-- Passes the given token. -/
def expect (t : Token) : Reading Unit := do
  if ← isAt t then advance else unexpected (.token t)

/-- Passes the given token if it is there, and tells whether it was. -/
def accept (t : Token) : Reading Bool := do
  if ← isAt t then
    advance
    return true
  else return false

/-- Reads an identifier. -/
def identifier : Reading String := do
  match ← current with
  | .identifier name =>
      advance
      return name
  | _ => unexpected .identifier

/-- Makes a call and passes on its error at a place. -/
def calling {α : Type} (p : Position) (result : Except CallError α) : Reading α :=
  match result with
  | .ok value => return value
  | .error e => throw (e.at p)

end Reading

open Reading

/-! ## literals -/

/-- Reads a number behind a minus sign. -/
def readNegative : Reading Literal := do
  match ← current with
  | .integer n =>
      advance
      return .int (-n)
  | .float d =>
      advance
      return .float d.neg
  | _ => unexpected .numberAfterMinus

mutual

/-- Reads a literal. The first argument bounds the number of steps. -/
def readLiteral : Nat → Reading Literal
  | 0 => unexpected .literal
  | fuel + 1 => do
      match ← current with
      | .leftBracket =>
          advance
          return .list (← readItems fuel)
      | .leftBrace =>
          advance
          return .map (Keyed.collect (← readEntries fuel))
      | .minus =>
          advance
          readNegative
      | .integer n =>
          advance
          return .int n
      | .float d =>
          advance
          return .float d
      | .string s =>
          advance
          return .str s
      | .boolean b =>
          advance
          return .bool b
      | .null =>
          advance
          return .null
      | _ => unexpected .literal

/-- Reads the items of a list up to its closing bracket. -/
def readItems : Nat → Reading (List Literal)
  | 0 => unexpected .literal
  | fuel + 1 => do
      if ← accept .rightBracket then return []
      let item ← readLiteral fuel
      unless ← isAt .rightBracket do expect .comma
      return item :: (← readItems fuel)

/-- Reads the entries of a map up to its closing brace. -/
def readEntries : Nat → Reading (List (String × Literal))
  | 0 => unexpected .literal
  | fuel + 1 => do
      if ← accept .rightBrace then return []
      match ← current with
      | .string key =>
          advance
          expect .colon
          let value ← readLiteral fuel
          unless ← isAt .rightBrace do expect .comma
          return (key, value) :: (← readEntries fuel)
      | _ => unexpected .stringKey

end

/-! ## arguments -/

/-- Adds an argument by position, which has to come before those by keyword. -/
def addPositional (args : Arguments) (value : Argument) (p : Position) : Reading Arguments :=
  if args.keywords.isEmpty then
    return { args with positional := args.positional ++ [some value] }
  else invalid .positionalAfterKeyword p

/-- Adds an argument by keyword, which has to be new. -/
def addKeyword (args : Arguments) (name : String) (value : Argument) (p : Position) :
    Reading Arguments :=
  if (args.keywords.lookup name).isSome then invalid (.argumentTwice name) p
  else return { args with keywords := args.keywords ++ [(name, value)] }

mutual

/-- Reads arguments up to the closing parenthesis. The first argument bounds the number of steps. -/
def readArguments : Nat → Arguments → Reading Arguments
  | 0, _ => unexpected .literal
  | fuel + 1, args => do
      if ← isAt .rightParen then
        advance
        return args
      let p ← position
      let args ← readArgument fuel args p
      if ← accept .comma then readArguments fuel args
      else
        expect .rightParen
        return args

/-- Reads an argument and adds it to those before. -/
def readArgument : Nat → Arguments → Position → Reading Arguments
  | 0, _, _ => unexpected .literal
  | fuel + 1, args, p => do
      match ← current with
      | .identifier name =>
          advance
          if ← accept .equals then
            let value ← readValue fuel
            addKeyword args name value p
          else
            let value ← readWord fuel name
            addPositional args value p
      | _ =>
          let value ← readLiteral fuel
          addPositional args (.literal value) p

/-- Reads the value of an argument by keyword. -/
def readValue : Nat → Reading Argument
  | 0 => unexpected .literal
  | fuel + 1 => do
      match ← current with
      | .identifier name =>
          advance
          readWord fuel name
      | _ => return .literal (← readLiteral fuel)

/-- Reads what a word starts: a filter, or nothing but the word. -/
def readWord : Nat → String → Reading Argument
  | 0, _ => unexpected .literal
  | fuel + 1, name => do
      let opens ← isAt .leftParen
      if name = "F" && opens then
        advance
        expect .rightParen
        return .textFilter (← readTextFilter fuel .empty)
      else if name = "FE" && opens then
        advance
        expect .rightParen
        return .elementFilter (← readElementFilter fuel .empty)
      else return .name name

/-- Reads the calls of a filter of texts. -/
def readTextFilter : Nat → TextFilter → Reading TextFilter
  | 0, _ => unexpected .literal
  | fuel + 1, f => do
      if ← accept .dot then
        let p ← position
        let method ← identifier
        expect .leftParen
        let args ← readArguments fuel .none
        let f ← calling p (callTextFilter f method args)
        readTextFilter fuel f
      else return f

/-- Reads the calls of a filter of elements. -/
def readElementFilter : Nat → ElementFilter → Reading ElementFilter
  | 0, _ => unexpected .literal
  | fuel + 1, f => do
      if ← accept .dot then
        let p ← position
        let method ← identifier
        expect .leftParen
        let args ← readArguments fuel .none
        let f ← calling p (callElementFilter f method args)
        readElementFilter fuel f
      else return f

end

/-! ## chains -/

/-- The chain that a word starts. -/
def openChain? : String → Option OpenChain
  | "D" => some (.ordinary .document)
  | "R" => some (.ordinary .source)
  | "N" => some (.narrowing .document)
  | _ => none

/-- Reads the calls of a chain. -/
def readCalls : Nat → OpenChain → Reading OpenChain
  | 0, _ => unexpected .literal
  | fuel + 1, chain => do
      if ← accept .dot then
        let p ← position
        let method ← identifier
        expect .leftParen
        let args ← readArguments fuel .none
        let chain ← calling p (chain.call method args)
        readCalls fuel chain
      else return chain

/-- Reads a chain. -/
def readChain (fuel : Nat) : Reading Chain := do
  let p ← position
  let word ← identifier
  match openChain? word with
  | none => invalid (.chainStart word) p
  | some start =>
      expect .leftParen
      expect .rightParen
      match ← readCalls fuel start with
      | .ordinary d => return d.chain
      | .closed chain => return chain
      | .narrowing _ => invalid .unfinishedNarrowing p

end Extractor.Declaration
