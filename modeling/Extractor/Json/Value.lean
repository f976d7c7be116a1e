import Extractor.Keyed
import Extractor.Number.Shortest

/-!
# Extractor.Json.Value

JSON values whose objects keep the order of their members, and their text in
the compact and the indented form. A number is an integer or a double, since
the two are told apart when a sample is described.
-/

namespace Extractor

/-- A JSON value; the members of an object are in order and have distinct names. -/
inductive Json where
  | null
  | bool (value : Bool)
  | int (value : Int)
  | float (value : Binary64)
  | str (value : String)
  | arr (items : List Json)
  | obj (members : List (String × Json))
  deriving Inhabited

namespace Json

/-! ## members -/

/-- The member of the given name, if the value is an object that has one. -/
def get? (key : String) : Json → Option Json
  | .obj members => members.lookup key
  | _ => none

/-! ## text -/

/-- The digits of a number below 65536 as four hexadecimal digits. -/
def hex4 (n : Nat) : List Char :=
  let digits := Nat.toDigits 16 n
  List.replicate (4 - digits.length) '0' ++ digits

/-- The written form of one character inside a JSON string. -/
def escapeChar (c : Char) : List Char :=
  if c = '"' then ['\\', '"']
  else if c = '\\' then ['\\', '\\']
  else if c = '\n' then ['\\', 'n']
  else if c = '\r' then ['\\', 'r']
  else if c = '\t' then ['\\', 't']
  else if c = '\x08' then ['\\', 'b']
  else if c = '\x0c' then ['\\', 'f']
  else if c.toNat < 32 then ['\\', 'u'] ++ hex4 c.toNat
  else [c]

/-- A string as JSON text. -/
def stringText (s : String) : String :=
  String.ofList ('"' :: (s.toList.flatMap escapeChar ++ ['"']))

/-- The text between two pieces of an array or object: a line break and the indentation, or nothing
in the compact form. -/
def lineBreak (indent : Option Nat) : String :=
  match indent with
  | some n => "\n" ++ String.ofList (List.replicate (2 * n) ' ')
  | none => ""

/-- The indentation one level further in. -/
def deeper (indent : Option Nat) : Option Nat := indent.map (· + 1)

mutual

/-- The text of a value. With an indentation every item and member has a line of its own, two spaces
further in; without one there is no white space at all. -/
def write (indent : Option Nat) : Json → String
  | .null => "null"
  | .bool b => if b then "true" else "false"
  | .int n => toString n
  | .float x => x.text
  | .str s => stringText s
  | .arr [] => "[]"
  | .arr (item :: items) =>
      "[" ++ lineBreak (deeper indent) ++ write (deeper indent) item
        ++ writeItems (deeper indent) items ++ lineBreak indent ++ "]"
  | .obj [] => "\x7b\x7d"
  | .obj ((key, value) :: members) =>
      "\x7b" ++ lineBreak (deeper indent) ++ stringText key ++ colon indent
        ++ write (deeper indent) value ++ writeMembers (deeper indent) members
        ++ lineBreak indent ++ "\x7d"

/-- The items after the first one of an array. -/
def writeItems (indent : Option Nat) : List Json → String
  | [] => ""
  | item :: items => "," ++ lineBreak indent ++ write indent item ++ writeItems indent items

/-- The members after the first one of an object. -/
def writeMembers (indent : Option Nat) : List (String × Json) → String
  | [] => ""
  | (key, value) :: members =>
      "," ++ lineBreak indent ++ stringText key ++ colon indent ++ write indent value
        ++ writeMembers indent members

/-- What stands between a member's name and its value. -/
def colon (indent : Option Nat) : String := if indent.isSome then ": " else ":"

end

/-- The text of a value on one line, without white space. -/
def compact (j : Json) : String := write none j

/-- The text of a value with two spaces of indentation for each level. -/
def pretty (j : Json) : String := write (some 0) j

end Json

end Extractor
