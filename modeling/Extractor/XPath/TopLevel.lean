/-!
# Extractor.XPath.TopLevel

Cutting a query at a separator that stands outside brackets, parentheses and
literals.
-/

namespace Extractor.XPath

/-- Where in a query a character stands: how many brackets and parentheses are open, and in which
literal, if any. -/
structure Nesting where
  depth : Nat
  quote : Option Char
  deriving DecidableEq, Repr, Inhabited

namespace Nesting

/-- The start of a query. -/
def start : Nesting := ⟨0, none⟩

/-- Whether the place is outside everything. -/
def isTop (n : Nesting) : Bool := n.depth = 0 && n.quote.isNone

/-- The place behind a character. -/
def advance (n : Nesting) (c : Char) : Nesting :=
  match n.quote with
  | some q => if c = q then { n with quote := none } else n
  | none =>
      if c = '\'' || c = '"' then { n with quote := some c }
      else if c = '[' || c = '(' then { n with depth := n.depth + 1 }
      else if c = ']' || c = ')' then { n with depth := n.depth - 1 }
      else n

end Nesting

/-- Whether the character opens or closes something. -/
def isDelimiter (c : Char) : Bool :=
  c = '\'' || c = '"' || c = '[' || c = '(' || c = ']' || c = ')'

/-- The pieces of a text between the separators at its top level, the text starting at the given
place. -/
def splitFrom (sep : Char) : Nesting → List Char → List (List Char)
  | _, [] => [[]]
  | n, c :: cs =>
      if c = sep && n.isTop && !isDelimiter c then [] :: splitFrom sep n cs
      else match splitFrom sep (n.advance c) cs with
        | [] => [[c]]
        | piece :: rest => (c :: piece) :: rest

/-- The pieces of a text between the separators outside brackets, parentheses and literals. -/
def splitTopLevel (sep : Char) (cs : List Char) : List (List Char) := splitFrom sep .start cs

end Extractor.XPath
