import Extractor.Failure
import Extractor.Number.Unsigned
import Extractor.XPath.Predicate
import Extractor.XPath.TopLevel

/-!
# Extractor.XPath.ToCss

The CSS selector that selects what an XPath query selects. The query is cut
into paths, the paths into steps, the steps into an axis, a node test and
predicates; whatever has no counterpart is refused. Counting siblings may leave 64
bits, which is no refusal but an overflow.
-/

namespace Extractor.XPath

/-- What has no CSS counterpart. -/
inductive Obstacle where
  | emptyPath
  | nodeTest (text : List Char)
  | axis (text : List Char)
  | unexpected (c : Char)
  | unclosedPredicate
  | mixedAttributes
  | siblingCount
  | predicate (text : List Char)
  deriving DecidableEq, Repr, Inhabited

/-- The obstacle in the words of a message. -/
def Obstacle.text : Obstacle → String
  | emptyPath => "empty path"
  | nodeTest text => "node test '" ++ String.ofList text ++ "'"
  | axis text => "axis '" ++ String.ofList text ++ "'"
  | unexpected c => "unexpected '" ++ String.ofList [c] ++ "'"
  | unclosedPredicate => "unclosed predicate"
  | mixedAttributes => "predicate mixes attributes"
  | siblingCount => "sibling count"
  | predicate text => "predicate '" ++ String.ofList text ++ "'"

/-! ## predicates -/

/-- Whether the character is an ASCII letter or an underscore. -/
def isIdentStart (c : Char) : Bool :=
  ('a' ≤ c && c ≤ 'z') || ('A' ≤ c && c ≤ 'Z') || c = '_'

/-- Whether the text is an identifier: a letter or underscore, perhaps behind a dash, and then word
characters and dashes. -/
def isIdent (cs : List Char) : Bool :=
  let body := match cs with
    | '-' :: rest => rest
    | rest => rest
  match body with
  | [] => false
  | c :: rest => isIdentStart c && rest.all Recogniser.isNamePart

/-- A value in quotes: double ones, or single ones if it holds a double one. -/
def cssValue (value : List Char) : List Char :=
  if '"' ∈ value then '\'' :: (value ++ ['\'']) else '"' :: (value ++ ['"'])

/-- An attribute test in brackets. -/
def cssAttribute (name : List Char) (operator : Css.AttributeOperator) (value : List Char) :
    List Char :=
  '[' :: name ++ operator.sign ++ cssValue value ++ [']']

/-- The selector of an attribute predicate. Classes and identifiers have a short form where the
value is an identifier. -/
def attributeSelector (name : List Char) (operator : Css.AttributeOperator) (value : List Char) :
    List Char :=
  if operator = .word && name = "class".toList && isIdent value then '.' :: value
  else if operator = .equals && name = "id".toList && isIdent value then '#' :: value
  else cssAttribute name operator value

/-- The selector of a number of preceding siblings. The place is one more, and a number of 64 bits
as well. -/
def countSelector (digits : List Char) : Except (Failure Obstacle) (List Char) :=
  match Number.unsigned64? digits with
  | none => .error (.refused .siblingCount)
  | some 0 => .ok ":first-child".toList
  | some n =>
      if n + 1 < Nat.pow 2 64 then
        .ok (":nth-child(".toList ++ Nat.toDigits 10 (n + 1) ++ [')'])
      else .error .overflow

/-- The selector of a predicate. -/
def Predicate.toCss : Predicate → Except (Failure Obstacle) (List Char)
  | .attributeIs name operator value => .ok (attributeSelector name operator value)
  | .hasAttribute name => .ok ('[' :: (name ++ [']']))
  | .onlyChild => .ok ":only-child".toList
  | .precedingCount digits => countSelector digits
  | .lastChild => .ok ":last-child".toList
  | .empty => .ok ":empty".toList
  | .position digits => .ok (":nth-of-type(".toList ++ digits ++ [')'])
  | .last => .ok ":last-of-type".toList

/-- Whether all the texts are the same. -/
def agree : List (List Char) → Bool
  | [] => true
  | name :: names => names.all (· == name)

/-- The selector of a predicate's text. -/
def predicateSelector (cs : List Char) : Except (Failure Obstacle) (List Char) :=
  match recognisePredicate? cs with
  | none => .error (.refused (.predicate cs))
  | some r => if agree r.names then r.predicate.toCss else .error (.refused .mixedAttributes)

/-- The texts of the predicates behind a node test. `seen` is what has been read since the last
opening bracket at the outermost level, in reverse. -/
def splitPredicates (depth : Nat) (quote : Option Char) (seen : List Char) :
    List Char → Except Obstacle (List (List Char))
  | [] => if depth = 0 then .ok [] else .error .unclosedPredicate
  | c :: cs =>
      match quote with
      | some q => splitPredicates depth (if c = q then none else some q) (c :: seen) cs
      | none =>
          if c = '\'' || c = '"' then splitPredicates depth (some c) (c :: seen) cs
          else if c = '[' then
            splitPredicates (depth + 1) none (if depth = 0 then [] else c :: seen) cs
          else if c = ']' then
            if depth ≤ 1 then do
              let others ← splitPredicates 0 none (c :: seen) cs
              return Text.trim seen.reverse :: others
            else splitPredicates (depth - 1) none (c :: seen) cs
          else if depth = 0 && !Text.isBlank c then .error (.unexpected c)
          else splitPredicates depth none (c :: seen) cs

/-! ## steps -/

/-- The element that a node test asks for, if it asks for one. -/
def testElement (test : List Char) : Except Obstacle (Option (List Char)) :=
  if test = ['*'] || test = "node()".toList then .ok none
  else if isIdent test then .ok (some test)
  else .error (.nodeTest test)

/-- The combinator of an axis, the element and the predicates that are left. `pending` is the
combinator that the separator before the step stands for. -/
def stepCombinator (axis : List Char) (pending : Css.Combinator) (element : Option (List Char))
    (predicates : List (List Char)) :
    Except Obstacle (Css.Combinator × Option (List Char) × List (List Char)) :=
  if axis = "child".toList then .ok (pending, element, predicates)
  else if axis = "descendant".toList || axis = "descendant-or-self".toList then
    .ok (.descendant, element, predicates)
  else if axis = "following-sibling".toList then
    match predicates with
    | [] => .ok (.sibling, element, [])
    | first :: others =>
        match Recogniser.adjacent first with
        | some (some name) => .ok (.adjacent, some name, others)
        | some none => .ok (.adjacent, element, others)
        | none => .ok (.sibling, element, predicates)
  else .error (.axis axis)

/-- The text of a compound selector. -/
def compoundText (element : Option (List Char)) (conditions : List Char) : List Char :=
  match element with
  | some name => if name = ['*'] then universal conditions else name ++ conditions
  | none => universal conditions
where
  /-- Without a type the conditions stand alone, and a star stands for none. -/
  universal (conditions : List Char) : List Char :=
    if conditions.isEmpty then ['*'] else conditions

/-- The combinator and the compound selector of a step. -/
def stepSelector (cs : List Char) (pending : Css.Combinator) :
    Except (Failure Obstacle) (Css.Combinator × List Char) := do
  let (head, tail) := cs.span (· ≠ '[')
  let (axis, test) := (Text.splitFirst? [':', ':'] head).getD ("child".toList, head)
  let predicates ← splitPredicates 0 none [] tail
  let element ← testElement (Text.trim test)
  let (combinator, element, predicates) ←
    stepCombinator (Text.trim axis) pending element predicates
  let conditions ← predicates.mapM predicateSelector
  return (combinator, compoundText element conditions.flatten)

/-! ## paths -/

/-- The combinator between two compound selectors. -/
def combinatorText : Css.Combinator → List Char
  | .descendant => [' ']
  | .child => [' ', '>', ' ']
  | .adjacent => [' ', '+', ' ']
  | .sibling => [' ', '~', ' ']

/-- Whether a step that is not the last only says that the next one may lie deeper. -/
def isDeepening (step : List Char) : Bool :=
  step.isEmpty || step = "descendant-or-self::*".toList
    || step = "descendant-or-self::node()".toList

/-- Adds the selectors of the steps that are left to the text so far. -/
def pathFrom (css : List Char) (pending : Css.Combinator) :
    List (List Char) → Except (Failure Obstacle) (List Char)
  | [] => .ok css
  | step :: steps =>
      let step := Text.trim step
      if isDeepening step && !steps.isEmpty then pathFrom css .descendant steps
      else do
        let (combinator, compound) ← stepSelector step pending
        let joint := if css.isEmpty then [] else combinatorText combinator
        pathFrom (css ++ joint ++ compound) .child steps

/-- What a path starts with: the combinator of its first step, and its steps as one text. A dot
before a slash is dropped. -/
def pathStart (cs : List Char) : Css.Combinator × List Char :=
  let cs := match cs with
    | '.' :: '/' :: rest => '/' :: rest
    | cs => cs
  match cs with
  | '/' :: '/' :: rest => (.descendant, rest)
  | '/' :: rest => (.child, rest)
  | rest => (.child, rest)

/-- The selector of a path. -/
def pathSelector (cs : List Char) : Except (Failure Obstacle) (List Char) := do
  let (pending, steps) := pathStart (Text.trim cs)
  let css ← pathFrom [] pending (splitTopLevel '/' steps)
  if css.isEmpty then throw (.refused .emptyPath) else return css

/-- The selector group of a query. -/
def selectorsOf (cs : List Char) : Except (Failure Obstacle) (List Char) := do
  let selectors ← (splitTopLevel '|' (Text.trim cs)).mapM pathSelector
  return ", ".toList.intercalate selectors

end Extractor.XPath
