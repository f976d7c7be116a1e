import Extractor.Css.Component

/-!
# Extractor.Css.Grammar

Which texts are lists of CSS selectors. A reader takes the components that are
left and gives back those behind what it has read; on a failure it gives back
those behind the place where it failed, because the forgiving pseudo-classes
`:is` and `:where` accept a selector that fails if no broken component follows.
-/

namespace Extractor.Css

/-- The components behind what was read, or behind the place of a failure. -/
abbrev Outcome := Except (List Component) (List Component)

/-- What the surrounding pseudo-classes forbid. -/
structure Context where
  /-- No combinators, as inside `:host`. -/
  noCombinators : Bool := false
  /-- No relational pseudo-class, as inside another one. -/
  noHas : Bool := false
  deriving DecidableEq, Repr, Inhabited

/-! ## combinators -/

/-- Whether the component is one of the written combinators. -/
def isCombinatorSign : Component → Bool
  | .token (.delim c) => c == '>' || c == '+' || c == '~'
  | _ => false

/-- Reads a combinator: white space, or a sign with white space before it. What follows white space
alone must be something, or the selector has simply ended. -/
def readCombinator? (cs : List Component) : Option (List Component) :=
  match skipSpace cs with
  | [] => none
  | c :: rest =>
      if isCombinatorSign c then some rest
      else if cs.head?.any Component.isSpace then some (c :: rest)
      else none

/-! ## names -/

/-- Reads the local name behind the bar of a qualified name. -/
def readLocalName (inAttribute : Bool) : List Component → Outcome
  | [] => .error []
  | .token (.ident _) :: rest => .ok rest
  | .token (.delim '*') :: rest => if inAttribute then .error rest else .ok rest
  | _ :: rest => .error rest

/-- Reads a qualified name, if there is one: a name or a star, each possibly behind a bar whose
prefix is empty or a star. Named prefixes are not known. -/
def readQualifiedName (inAttribute : Bool) (cs : List Component) :
    Except (List Component) (Bool × List Component) :=
  match cs with
  | .token (.ident _) :: .token (.delim '|') :: rest => .error rest
  | .token (.ident _) :: rest => .ok (true, rest)
  | .token (.delim '*') :: .token (.delim '|') :: rest => do
      let rest ← readLocalName inAttribute rest
      return (true, rest)
  | .token (.delim '*') :: rest => if inAttribute then .error rest else .ok (true, rest)
  | .token (.delim '|') :: rest => do
      let rest ← readLocalName inAttribute rest
      return (true, rest)
  | _ => .ok (false, cs)

/-! ## attributes -/

/-- Whether nothing or only white space is left. -/
def isExhausted (cs : List Component) : Bool := (skipSpace cs).isEmpty

/-- Whether the components are what may follow the value of an attribute test: nothing, or one of
the letters `i` and `s`. -/
def isAttributeFlag (cs : List Component) : Bool :=
  match skipSpace cs with
  | [] => true
  | .token (.ident name) :: rest =>
      (lower name == ['i'] || lower name == ['s']) && isExhausted rest
  | _ => false

/-- Whether the components are what may follow the name of an attribute: nothing, or an operator
with a value and perhaps a flag. -/
def isAttributeTest (cs : List Component) : Bool :=
  match skipSpace cs with
  | [] => true
  | .token operator :: rest =>
      (operator = .delim '=' || operator = .matchOperator) &&
        match skipSpace rest with
        | .token (.ident _) :: rest => isAttributeFlag rest
        | .token .string :: rest => isAttributeFlag rest
        | _ => false
  | _ => false

/-- Whether the contents of square brackets are an attribute selector. -/
def isAttribute (cs : List Component) : Bool :=
  match readQualifiedName true (skipSpace cs) with
  | .ok (true, rest) => isAttributeTest rest
  | _ => false

/-! ## positions -/

/-- Whether the name is `n-` with digits behind it. -/
def isNDashDigits (name : List Char) : Bool :=
  match lower name with
  | 'n' :: '-' :: d :: ds => (d :: ds).all isDigit
  | _ => false

/-- Whether the components are a number without sign and nothing else. -/
def isSignlessNumber (cs : List Component) : Bool :=
  match skipSpace cs with
  | .token (.number false true) :: rest => isExhausted rest
  | _ => false

/-- Whether the components are what may follow `n`: nothing, or a signed number whose sign may stand
apart. -/
def isOffset (cs : List Component) : Bool :=
  match skipSpace cs with
  | .token (.delim '+') :: rest => isSignlessNumber rest
  | .token (.delim '-') :: rest => isSignlessNumber rest
  | .token (.number true true) :: rest => isExhausted rest
  | rest => rest.isEmpty

/-- Whether a name and what follows it are a position such as `n`, `n- 2` or `n-2`. -/
def isNamedPosition (name : List Char) (rest : List Component) : Bool :=
  if lower name == ['n'] then isOffset rest
  else if lower name == ['n', '-'] then isSignlessNumber rest
  else isNDashDigits name && isExhausted rest

/-- Whether the components are a position of the form `An+B`. -/
def isPosition (cs : List Component) : Bool :=
  match skipSpace cs with
  | .token (.number _ true) :: rest => isExhausted rest
  | .token (.dimension _ true unit) :: rest => isNamedPosition unit rest
  | .token (.ident name) :: rest =>
      if lower name == "even".toList || lower name == "odd".toList then isExhausted rest
      else match name with
        | '-' :: name => isNamedPosition name rest
        | name => isNamedPosition name rest
  | .token (.delim '+') :: .token (.ident name) :: rest => isNamedPosition name rest
  | _ => false

/-! ## pseudo-classes -/

/-- The pseudo-classes without arguments. -/
def plainPseudoClasses : List (List Char) :=
  ["first-child", "last-child", "only-child", "root", "empty", "scope", "first-of-type",
    "last-of-type", "only-of-type"].map String.toList

/-- The pseudo-classes that take a position. -/
def positionPseudoClasses : List (List Char) :=
  ["nth-child", "nth-last-child", "nth-of-type", "nth-last-of-type"].map String.toList

/-! ## selectors -/

mutual

/-- Reads the simple selectors of a compound selector; `found` tells whether there is one yet. The
result tells whether there was any. -/
def readSimples : Nat → Context → Bool → List Component →
    Except (List Component) (Bool × List Component)
  | 0, _, _, cs => .error cs
  | fuel + 1, context, found, cs =>
      match cs with
      | .token (.hash true) :: rest => readSimples fuel context true rest
      | .token (.delim '.') :: .token (.ident _) :: rest => readSimples fuel context true rest
      | .token (.delim '.') :: rest => .error rest.tail
      | .block .square contents :: rest =>
          if isAttribute contents then readSimples fuel context true rest else .error rest
      | .token .colon :: .token .colon :: rest => .error rest.tail
      | .token .colon :: .token (.ident name) :: rest =>
          if lower name ∈ plainPseudoClasses then readSimples fuel context true rest
          else .error rest
      | .token .colon :: .function name contents :: rest =>
          if isFunctional fuel context (lower name) contents then readSimples fuel context true rest
          else .error rest
      | .token .colon :: rest => .error rest.tail
      | _ => .ok (found, cs)

/-- Whether a pseudo-class takes the contents of its parentheses. -/
def isFunctional : Nat → Context → List Char → List Component → Bool
  | 0, _, _, _ => false
  | fuel + 1, context, name, contents =>
      if name ∈ positionPseudoClasses then isPosition contents
      else if name == "not".toList then
        (splitCommas contents).all fun piece => isSelector fuel context false piece
      else if name == "has".toList then
        !context.noHas && (splitCommas contents).all fun piece =>
          isSelector fuel { context with noHas := true } true piece
      else if name == "host".toList then
        isSelector fuel { context with noCombinators := true } false contents
      else if name == "is".toList || name == "where".toList then
        (splitCommas contents).all fun piece => isForgiven fuel context piece
      else false

/-- Reads a compound selector: perhaps a type, then simple selectors, at least one of the two. -/
def readCompound : Nat → Context → List Component → Outcome
  | 0, _, cs => .error cs
  | fuel + 1, context, cs => do
      let (found, rest) ← readQualifiedName false (skipSpace cs)
      let (found, rest) ← readSimples fuel context found rest
      if found then return rest else throw rest

/-- Reads compound selectors joined by combinators. -/
def readComplex : Nat → Context → List Component → Outcome
  | 0, _, cs => .error cs
  | fuel + 1, context, cs => do
      let rest ← readCompound fuel context cs
      match readCombinator? rest with
      | none => return rest
      | some after =>
          if context.noCombinators then throw after else readComplex fuel context after

/-- Reads a selector; a relative one may start with the sign of a combinator. -/
def readSelector : Nat → Context → Bool → List Component → Outcome
  | 0, _, _, cs => .error cs
  | fuel + 1, context, relative, cs =>
      match skipSpace cs with
      | c :: rest =>
          if relative && isCombinatorSign c then readComplex fuel context rest
          else readComplex fuel context (c :: rest)
      | [] => .error []

/-- Whether the components are a selector and nothing else. -/
def isSelector : Nat → Context → Bool → List Component → Bool
  | 0, _, _, _ => false
  | fuel + 1, context, relative, cs =>
      match readSelector fuel context relative cs with
      | .ok rest => isExhausted rest
      | .error _ => false

/-- Whether the components are a selector, or hold no error behind the place where they stop being
one. -/
def isForgiven : Nat → Context → List Component → Bool
  | 0, _, _ => false
  | fuel + 1, context, cs =>
      match readSelector fuel context false cs with
      | .ok rest => isExhausted rest || !Component.anyError rest
      | .error rest => !Component.anyError rest

end

/-- Whether the text is a list of selectors. Every step of the readers enters a component or passes
to the next reader, of which there are fewer than eight, so that eight steps for each character are
enough. -/
def isSelectorList (cs : List Char) : Bool :=
  (splitCommas (Component.ofChars cs)).all fun piece =>
    isSelector (8 * cs.length + 16) {} false piece

end Extractor.Css
