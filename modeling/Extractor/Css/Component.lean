import Extractor.Css.Token

/-!
# Extractor.Css.Component

Tokens grouped by their brackets. A block runs from an opening bracket to the
closing one of the same kind, or to the end of the text; a closing bracket of
another kind inside it is an ordinary component.
-/

namespace Extractor.Css

/-- A token that opens no block, or a block with what is in it. -/
inductive Component where
  | token (t : Token)
  | block (b : Bracket) (contents : List Component)
  /-- A name with a block in parentheses. -/
  | function (name : List Char) (contents : List Component)
  deriving Inhabited

namespace Component

/-- Groups tokens up to the closing bracket of the surrounding block, if there is one, and gives the
tokens behind that bracket. The first argument bounds the number of steps. -/
def group : Nat → Option Bracket → List Token → List Component × List Token
  | 0, _, ts => ([], ts)
  | _ + 1, _, [] => ([], [])
  | fuel + 1, inside, t :: ts =>
      match t with
      | .opening b =>
          let (contents, rest) := group fuel (some b) ts
          let (more, rest) := group fuel inside rest
          (.block b contents :: more, rest)
      | .function name =>
          let (contents, rest) := group fuel (some .paren) ts
          let (more, rest) := group fuel inside rest
          (.function name contents :: more, rest)
      | .closing b =>
          if inside = some b then ([], ts)
          else
            let (more, rest) := group fuel inside ts
            (.token t :: more, rest)
      | t =>
          let (more, rest) := group fuel inside ts
          (.token t :: more, rest)

/-- The components of a text. -/
def ofChars (cs : List Char) : List Component :=
  let ts := tokens cs.length cs
  (group (ts.length + 1) none ts).1

/-- Whether the component is white space. -/
def isSpace : Component → Bool
  | .token .whitespace => true
  | _ => false

/-- Whether the component is a comma. -/
def isComma : Component → Bool
  | .token .comma => true
  | _ => false

mutual

/-- Whether the component is or holds an error: a bad string or address, or a closing bracket that
closes nothing. -/
def hasError : Component → Bool
  | .token t => t.isError
  | .block _ contents => anyError contents
  | .function _ contents => anyError contents

/-- Whether one of the components is or holds an error. -/
def anyError : List Component → Bool
  | [] => false
  | c :: cs => hasError c || anyError cs

end

end Component

/-- The components without leading white space. -/
def skipSpace (cs : List Component) : List Component := cs.dropWhile Component.isSpace

/-- The pieces between the commas of a list of components. -/
def splitCommas : List Component → List (List Component)
  | [] => [[]]
  | c :: cs =>
      if c.isComma then [] :: splitCommas cs
      else match splitCommas cs with
        | [] => [[c]]
        | piece :: rest => (c :: piece) :: rest

end Extractor.Css
