import Extractor.Css.Selector
import Extractor.Number.Unsigned
import Extractor.Text.Blank
import Extractor.Text.Numeric

/-!
# Extractor.Css.Reader

Reading a selector that is to become XPath. The reader is lenient where the
conversion does not care, and refuses what has no counterpart. A refusal tells
the characters that were left, from which the offset follows.
-/

namespace Extractor.Css

/-! ## refusals -/

/-- What has no XPath counterpart, or is no selector. -/
inductive Obstacle where
  | missing (c : Char)
  | emptyAttributeName
  | attributeOperator
  | attributeFlags
  | pseudoElement
  | nthChildArgument
  | pseudoClass (name : List Char)
  | expectedSelector
  | unexpectedCharacter
  deriving DecidableEq, Repr, Inhabited

/-- The obstacle in the words of a message. -/
def Obstacle.text : Obstacle → String
  | missing c => "missing '" ++ String.ofList [c] ++ "'"
  | emptyAttributeName => "empty attribute name"
  | attributeOperator => "attribute operator"
  | attributeFlags => "attribute flags"
  | pseudoElement => "pseudo-element"
  | nthChildArgument => "nth-child argument"
  | pseudoClass name => "pseudo-class ':" ++ String.ofList name ++ "'"
  | expectedSelector => "expected selector"
  | unexpectedCharacter => "unexpected character"

/-- An obstacle and the characters that were left when it was met. -/
structure Refusal where
  obstacle : Obstacle
  left : List Char
  deriving DecidableEq, Repr, Inhabited

/-! ## pieces -/

namespace Reader

/-- The text behind leading white space. -/
def skipBlanks (cs : List Char) : List Char := cs.dropWhile Text.isBlank

/-- Whether the character belongs to an identifier. -/
def isIdentPart (c : Char) : Bool :=
  Text.isAlphanumeric c || c = '-' || c = '_' || c.toNat ≥ 128

/-- Reads an identifier; a backslash stands before a character that is taken as it is. -/
def readIdent : List Char → List Char × List Char
  | [] => ([], [])
  | ['\\'] => ([], [])
  | '\\' :: c :: cs =>
      let (name, rest) := readIdent cs
      (c :: name, rest)
  | c :: cs =>
      if isIdentPart c then
        let (name, rest) := readIdent cs
        (c :: name, rest)
      else ([], c :: cs)

/-- Reads up to the given character and passes it. -/
def readUntil (close : Char) : List Char → Except Refusal (List Char × List Char)
  | [] => .error ⟨.missing close, []⟩
  | c :: cs =>
      if c = close then .ok ([], cs)
      else do
        let (body, rest) ← readUntil close cs
        return (c :: body, rest)

/-- Reads the value of an attribute test: a quoted text or an identifier. -/
def readValue (cs : List Char) : Except Refusal (List Char × List Char) :=
  match skipBlanks cs with
  | '"' :: rest => readUntil '"' rest
  | '\'' :: rest => readUntil '\'' rest
  | rest => .ok (readIdent rest)

/-- The operator whose first sign is the given one; the second is `=`. -/
def operatorOf? : Char → Option AttributeOperator
  | '~' => some .word
  | '|' => some .dash
  | '^' => some .starts
  | '$' => some .ends
  | '*' => some .contains
  | _ => none

/-- Reads the operator of an attribute test. -/
def readOperator (cs : List Char) : Except Refusal (AttributeOperator × List Char) :=
  match cs with
  | '=' :: rest => .ok (.equals, rest)
  | c :: rest =>
      match operatorOf? c with
      | some op =>
          match rest with
          | '=' :: rest => .ok (op, rest)
          | _ => .error ⟨.attributeOperator, rest⟩
      | none => .error ⟨.attributeOperator, cs⟩
  | [] => .error ⟨.attributeOperator, []⟩

/-- Reads an attribute selector behind its opening bracket. -/
def readAttribute (cs : List Char) : Except Refusal (Condition × List Char) := do
  let (name, rest) := readIdent (skipBlanks cs)
  if name.isEmpty then throw ⟨.emptyAttributeName, rest⟩
  match skipBlanks rest with
  | ']' :: rest => return (.hasAttribute name, rest)
  | rest =>
      let (op, rest) ← readOperator rest
      let (value, rest) ← readValue rest
      match skipBlanks rest with
      | ']' :: rest => return (.attributeIs name op value, rest)
      | rest => throw ⟨.attributeFlags, rest⟩

/-- Reads the argument of a pseudo-class in parentheses, if there is one. -/
def readArgument (cs : List Char) : Except Refusal (Option (List Char) × List Char) :=
  match cs with
  | '(' :: rest => do
      let (body, rest) ← readUntil ')' rest
      return (some (Text.trim body), rest)
  | _ => .ok (none, cs)

/-- The condition that a pseudo-class states. -/
def pseudoCondition (name : List Char) (argument : Option (List Char)) :
    Except Obstacle Condition :=
  match String.ofList name, argument with
  | "first-child", none => .ok .firstChild
  | "last-child", none => .ok .lastChild
  | "only-child", none => .ok .onlyChild
  | "empty", none => .ok .empty
  | "nth-child", some n =>
      match Number.unsigned64? n with
      | some (n + 1) => .ok (.nthChild (n + 1))
      | _ => .error .nthChildArgument
  | _, _ => .error (.pseudoClass name)

/-- Reads a pseudo-class behind its colon. -/
def readPseudo (cs : List Char) : Except Refusal (Condition × List Char) := do
  if cs.head? = some ':' then throw ⟨.pseudoElement, cs⟩
  let (name, rest) := readIdent cs
  let (argument, rest) ← readArgument rest
  match pseudoCondition (name.map Char.toLower) argument with
  | .ok condition => return (condition, rest)
  | .error obstacle => throw ⟨obstacle, rest⟩

/-! ## selectors -/

/-- Reads the condition that starts here, if one does. -/
def readCondition? (cs : List Char) : Except Refusal (Option (Condition × List Char)) :=
  match cs with
  | '.' :: rest =>
      let (name, rest) := readIdent rest
      .ok (some (.hasClass name, rest))
  | '#' :: rest =>
      let (name, rest) := readIdent rest
      .ok (some (.hasId name, rest))
  | '[' :: rest => do
      let read ← readAttribute rest
      return some read
  | ':' :: rest => do
      let read ← readPseudo rest
      return some read
  | _ => .ok none

/-- Reads conditions as long as they follow each other. The first argument bounds their number; the
number of characters is enough. -/
def readConditions : Nat → List Char → Except Refusal (List Condition × List Char)
  | 0, cs => .ok ([], cs)
  | fuel + 1, cs => do
      match ← readCondition? cs with
      | none => return ([], cs)
      | some (condition, rest) =>
          let (conditions, rest) ← readConditions fuel rest
          return (condition :: conditions, rest)

/-- Reads the type of a compound selector, if there is one. -/
def readElement (cs : List Char) : Option (List Char) × List Char :=
  match cs with
  | '*' :: rest => (some ['*'], rest)
  | c :: _ =>
      if Text.isAlphabetic c || c = '_' then
        let (name, rest) := readIdent cs
        (some name, rest)
      else (none, cs)
  | [] => (none, [])

/-- Reads a compound selector. -/
def readCompound (cs : List Char) : Except Refusal (Compound × List Char) := do
  let (element, rest) := readElement cs
  let (conditions, rest) ← readConditions rest.length rest
  if element.isNone && conditions.isEmpty then throw ⟨.expectedSelector, rest⟩
  return (⟨element, conditions⟩, rest)

/-- The combinator of a sign. -/
def combinatorOf? : Char → Option Combinator
  | '>' => some .child
  | '+' => some .adjacent
  | '~' => some .sibling
  | _ => none

/-- Reads a combinator, if the selector goes on; what is left when it does not is behind the white
space. -/
def readCombinator (cs : List Char) : Option Combinator × List Char :=
  match skipBlanks cs with
  | [] => (none, [])
  | c :: rest =>
      match combinatorOf? c with
      | some combinator => (some combinator, skipBlanks rest)
      | none =>
          if c ≠ ',' && cs.head?.any Text.isBlank then (some .descendant, c :: rest)
          else (none, c :: rest)

/-- Reads combinators with a compound selector behind each. The first argument bounds their
number. -/
def readTail : Nat → List Char → Except Refusal (List (Combinator × Compound) × List Char)
  | 0, cs => .ok ([], cs)
  | fuel + 1, cs =>
      match readCombinator cs with
      | (none, rest) => .ok ([], rest)
      | (some combinator, rest) => do
          let (compound, rest) ← readCompound rest
          let (others, rest) ← readTail fuel rest
          return ((combinator, compound) :: others, rest)

/-- Reads a complex selector. -/
def readComplex (cs : List Char) : Except Refusal (Complex × List Char) := do
  let (head, rest) ← readCompound (skipBlanks cs)
  let (tail, rest) ← readTail (rest.length + 1) rest
  return (⟨head, tail⟩, rest)

/-- Reads complex selectors with commas between them, to the end of the text. The first argument
bounds their number. -/
def readGroup : Nat → List Char → Except Refusal (List Complex)
  | 0, cs => .error ⟨.unexpectedCharacter, cs⟩
  | fuel + 1, cs => do
      let (selector, rest) ← readComplex cs
      match skipBlanks rest with
      | [] => return [selector]
      | ',' :: rest =>
          let others ← readGroup fuel rest
          return selector :: others
      | rest => throw ⟨.unexpectedCharacter, rest⟩

end Reader

/-- Reads a group of selectors. -/
def readSelectors (cs : List Char) : Except Refusal (List Complex) :=
  Reader.readGroup (cs.length + 1) cs

end Extractor.Css
