import Extractor.Css.Selector
import Extractor.Text.Blank
import Extractor.Text.Split
import Extractor.Text.Word

/-!
# Extractor.XPath.Predicate

The predicates that have a CSS counterpart, and how a predicate's text is
recognised as one of them. Each recogniser reads one form to the end of the
text; white space is free around equality signs and nowhere else.
-/

namespace Extractor.XPath

/-- What a predicate says of an element. -/
inductive Predicate where
  /-- An attribute compared with a value. -/
  | attributeIs (name : List Char) (operator : Css.AttributeOperator) (value : List Char)
  | hasAttribute (name : List Char)
  | onlyChild
  /-- The number of siblings before the element, in digits. -/
  | precedingCount (digits : List Char)
  | lastChild
  | empty
  /-- The place among the nodes of the step, in digits. -/
  | position (digits : List Char)
  /-- The last of the nodes of the step. -/
  | last
  deriving DecidableEq, Repr, Inhabited

/-- A recognised predicate. The names are those of all the attributes that its text mentions, which
have to agree. -/
structure Recognised where
  names : List (List Char)
  predicate : Predicate
  deriving DecidableEq, Repr, Inhabited

namespace Recogniser

/-- Passes a fixed text. -/
def fixed (s : String) (cs : List Char) : Option (List Char) := Text.stripPrefix? s.toList cs

/-- Passes white space. -/
def blanks (cs : List Char) : List Char := cs.dropWhile Text.isBlank

/-- Whether the character belongs to an attribute name. -/
def isNamePart (c : Char) : Bool := Text.isWord c || c == '-'

/-- Reads an attribute: an at sign and a name. -/
def attributeName (cs : List Char) : Option (List Char × List Char) :=
  match cs with
  | '@' :: rest =>
      let (name, rest) := rest.span isNamePart
      if name.isEmpty then none else some (name, rest)
  | _ => none

/-- Reads the literal between quotes of either kind. -/
def quoted (cs : List Char) : Option (List Char × List Char) :=
  match cs with
  | '\'' :: rest => close '\'' rest
  | '"' :: rest => close '"' rest
  | _ => none
where
  /-- Reads up to the closing quote. -/
  close (q : Char) : List Char → Option (List Char × List Char)
    | [] => none
    | c :: cs =>
        if c = q then some ([], cs)
        else (close q cs).map fun (body, rest) => (c :: body, rest)

/-- Reads digits, at least one. -/
def digits (cs : List Char) : Option (List Char × List Char) :=
  let (ds, rest) := cs.span Text.isWordDigit
  if ds.isEmpty then none else some (ds, rest)

/-- Passes an equality sign with white space around it. -/
def equalsSign (cs : List Char) : Option (List Char) := (fixed "=" (blanks cs)).map blanks

/-- Succeeds at the end of the text. -/
def done {α : Type} (value : α) (cs : List Char) : Option α :=
  if cs.isEmpty then some value else none

/-- Reads an attribute with `and` behind it, if the text starts with one. -/
def guarded (cs : List Char) : Option (List (List Char) × List Char) :=
  match cs with
  | '@' :: _ => do
      let (name, rest) ← attributeName cs
      let rest ← fixed " and " rest
      return ([name], rest)
  | _ => some ([], cs)

/-- The test for a word of an attribute; blanks around the word do not count. -/
def word (cs : List Char) : Option Recognised := do
  let (a, rest) ← attributeName cs
  let rest ← fixed " and contains(concat(' ', normalize-space(" rest
  let (b, rest) ← attributeName rest
  let rest ← fixed "), ' '), " rest
  let (value, rest) ← quoted rest
  let rest ← fixed ")" rest
  done ⟨[a, b], .attributeIs a .word (Text.trim value)⟩ rest

/-- The test for an attribute or its part before a dash. -/
def dash (cs : List Char) : Option Recognised := do
  let (a, rest) ← attributeName cs
  let rest ← fixed " and (" rest
  let (b, rest) ← attributeName rest
  let rest ← equalsSign rest
  let (value, rest) ← quoted rest
  let rest ← fixed " or starts-with(" rest
  let (c, rest) ← attributeName rest
  let rest ← fixed ", " rest
  let (_, rest) ← quoted rest
  let rest ← fixed "))" rest
  done ⟨[a, b, c], .attributeIs a .dash value⟩ rest

/-- A function of an attribute and a literal, perhaps behind a test for the attribute. -/
def call (function : String) (operator : Css.AttributeOperator) (cs : List Char) :
    Option Recognised := do
  let (names, rest) ← guarded cs
  let rest ← fixed function rest
  let (a, rest) ← attributeName rest
  let rest ← fixed "," rest
  let (value, rest) ← quoted (blanks rest)
  let rest ← fixed ")" rest
  done ⟨names ++ [a], .attributeIs a operator value⟩ rest

/-- The test for the end of an attribute. -/
def ends (cs : List Char) : Option Recognised := do
  let (a, rest) ← attributeName cs
  let rest ← fixed " and substring(" rest
  let (b, rest) ← attributeName rest
  let rest ← fixed ", string-length(" rest
  let (c, rest) ← attributeName rest
  let rest ← fixed ")" rest
  let rest ← fixed "-" (blanks rest)
  let (_, rest) ← digits (blanks rest)
  let rest ← fixed ")" rest
  let rest ← equalsSign rest
  let (value, rest) ← quoted rest
  done ⟨[a, b, c], .attributeIs a .ends value⟩ rest

/-- The comparison of an attribute with a literal. -/
def equals (cs : List Char) : Option Recognised := do
  let (a, rest) ← attributeName cs
  let rest ← equalsSign rest
  let (value, rest) ← quoted rest
  done ⟨[a], .attributeIs a .equals value⟩ rest

/-- The test for an attribute. -/
def hasAttribute (cs : List Char) : Option Recognised := do
  let (a, rest) ← attributeName cs
  done ⟨[a], .hasAttribute a⟩ rest

/-- The test for an element without siblings. -/
def onlyChild (cs : List Char) : Option Recognised := do
  let rest ← fixed "count(preceding-sibling::*)" cs
  let rest ← equalsSign rest
  let rest ← fixed "0 and count(following-sibling::*)" rest
  let rest ← equalsSign rest
  let rest ← fixed "0" rest
  done ⟨[], .onlyChild⟩ rest

/-- The number of siblings before the element. -/
def precedingCount (cs : List Char) : Option Recognised := do
  let rest ← fixed "count(preceding-sibling::*)" cs
  let rest ← equalsSign rest
  let (ds, rest) ← digits rest
  done ⟨[], .precedingCount ds⟩ rest

/-- The test for an element without later siblings. -/
def lastChild (cs : List Char) : Option Recognised := do
  let rest ← fixed "count(following-sibling::*)" cs
  let rest ← equalsSign rest
  let rest ← fixed "0" rest
  done ⟨[], .lastChild⟩ rest

/-- The test for an element without elements and text. -/
def empty (cs : List Char) : Option Recognised := do
  let rest ← fixed "not(*) and not(string-length())" cs
  done ⟨[], .empty⟩ rest

/-- The place among the nodes of the step, with or without the function's name. -/
def position (cs : List Char) : Option Recognised := do
  let rest ← match fixed "position()" cs with
    | some rest => equalsSign rest
    | none => some cs
  let (ds, rest) ← digits rest
  done ⟨[], .position ds⟩ rest

/-- The last of the nodes of the step. -/
def last (cs : List Char) : Option Recognised := do
  let rest ← fixed "last()" cs
  done ⟨[], .last⟩ rest

/-- All forms. -/
def all : List (List Char → Option Recognised) :=
  [word, dash, call "starts-with(" .starts, ends, call "contains(" .contains, equals,
    hasAttribute, onlyChild, precedingCount, lastChild, empty, position, last]

/-- Reads the test for the name of a sibling with `and` behind it, if the text starts with one. -/
def siblingName (cs : List Char) : Option (Option (List Char) × List Char) :=
  match fixed "(name()" cs with
  | some rest => do
      let rest ← equalsSign rest
      let (name, rest) ← quoted rest
      let rest ← fixed ") and " rest
      return (some name, rest)
  | none => some (none, cs)

/-- The test for an adjacent sibling: the first node of its step, perhaps with a name. The result is
the name. -/
def adjacent (cs : List Char) : Option (Option (List Char)) := do
  let (name, rest) ← siblingName cs
  let rest := (fixed "(" rest).getD rest
  let rest ← fixed "position()" rest
  let rest ← equalsSign rest
  let rest ← fixed "1" rest
  let rest := (fixed ")" rest).getD rest
  done name rest

end Recogniser

/-- Recognises the text of a predicate. -/
def recognisePredicate? (cs : List Char) : Option Recognised :=
  Recogniser.all.findSome? fun recogniser => recogniser cs

end Extractor.XPath
