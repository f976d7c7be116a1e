/-!
# Extractor.Text.Split

Cutting texts at known pieces: a fixed beginning or end, the last place of a
piece, and a separator character. Each function is a recursion on the text, so
that what it cuts out and what it leaves is read off its equations.
-/

namespace Extractor.Text

/-- What follows `piece` at the start of the text, if the text starts with it. -/
def stripPrefix? : List Char → List Char → Option (List Char)
  | [], cs => some cs
  | _ :: _, [] => none
  | p :: piece, c :: cs => if p = c then stripPrefix? piece cs else none

/-- What precedes `piece` at the end of the text, if the text ends with it. -/
def stripSuffix? (piece cs : List Char) : Option (List Char) :=
  (stripPrefix? piece.reverse cs.reverse).map List.reverse

/-- The text before and after the last place where the non-empty `piece` stands. -/
def splitLast? (piece : List Char) : List Char → Option (List Char × List Char)
  | [] => none
  | c :: cs =>
      match splitLast? piece cs with
      | some (before, after) => some (c :: before, after)
      | none => (stripPrefix? piece (c :: cs)).map fun after => ([], after)

/-- The text before and after the first place where the non-empty `piece` stands. -/
def splitFirst? (piece : List Char) : List Char → Option (List Char × List Char)
  | [] => none
  | c :: cs =>
      match stripPrefix? piece (c :: cs) with
      | some after => some ([], after)
      | none => (splitFirst? piece cs).map fun (before, after) => (c :: before, after)

/-- The pieces between the places where `sep` stands; one more piece than there are places. -/
def splitOn (sep : Char) : List Char → List (List Char)
  | [] => [[]]
  | c :: cs =>
      if c = sep then [] :: splitOn sep cs
      else match splitOn sep cs with
        | [] => [[c]]
        | piece :: rest => (c :: piece) :: rest

/-- Whether `piece` stands somewhere in the text. -/
def occursIn (piece cs : List Char) : Bool := (splitFirst? piece cs).isSome || piece.isEmpty

end Extractor.Text
