import Extractor.BuildError
import Extractor.Libraries
import Extractor.Text.Blank

/-!
# Extractor.Pattern

Patterns as chains store them: the flags of a leading flag group are lifted
out, and verbose patterns are flattened. Then the pattern is checked, and its
capturing groups are compared with what the operation needs.
-/

namespace Extractor

/-- A pattern with the flags that are stored beside it. -/
structure Pattern where
  source : String
  ignoreCase : Bool
  /-- Whether a dot matches a line break. -/
  dotAll : Bool
  deriving DecidableEq, Repr, Inhabited

namespace Pattern

/-! ## flags -/

/-- The letters of a leading flag group and what follows it. Groups with anything but ASCII letters
are left alone. -/
def leadingFlags? (cs : List Char) : Option (List Char × List Char) :=
  match cs with
  | '(' :: '?' :: inner =>
      match inner.span (· ≠ ')') with
      | (flags, ')' :: rest) =>
          if !flags.isEmpty && flags.all Char.isAlpha then some (flags, rest) else none
      | _ => none
  | _ => none

/-- Whether the letter is a flag that is not kept in the pattern. -/
def isLifted (c : Char) : Bool := c = 'i' || c = 's' || c = 'x'

/-- Drops what verbose patterns ignore: white space, and comments up to the end of the line, except
in brackets. The first argument tells whether a bracket is open, the second whether a comment is.
The backslash before a space or a hash sign goes as well, since both are literals now. -/
def flatten (inClass inComment : Bool) : List Char → List Char
  | [] => []
  | c :: cs =>
      if inComment then flatten inClass (c ≠ '\n') cs
      else if c = '\\' then
        match cs with
        | [] => ['\\']
        | next :: rest =>
            if next = '#' || next = ' ' then next :: flatten inClass false rest
            else '\\' :: next :: flatten inClass false rest
      else if c = '[' && !inClass then c :: flatten true false cs
      else if c = ']' && inClass then c :: flatten false false cs
      else if c = '#' && !inClass then flatten inClass true cs
      else if Text.isBlank c && !inClass then flatten inClass false cs
      else c :: flatten inClass false cs

/-- Lifts the flags of a leading group out of a pattern. -/
def normalise (source : String) (ignoreCase dotAll : Bool) : Pattern :=
  match leadingFlags? source.toList with
  | none => ⟨source, ignoreCase, dotAll⟩
  | some (flags, rest) =>
      let kept := flags.filter (!isLifted ·)
      let body := if flags.contains 'x' then flatten false false rest else rest
      let whole := if kept.isEmpty then body else '(' :: '?' :: (kept ++ ')' :: body)
      ⟨String.ofList whole, ignoreCase || flags.contains 'i', dotAll || flags.contains 's'⟩

/-! ## checks -/

variable [Libraries]

/-- The number of capturing groups of a pattern, which has to be accepted. -/
def countGroups (source : String) : Except BuildError Nat :=
  match Libraries.groups? source with
  | some n => .ok n
  | none => .error (.pattern source .malformed)

/-- What is wrong with asking a pattern with so many groups for a group: the first one has to be the
only one, a later one has to be there. -/
def groupFault? (found : Nat) : Nat → Option PatternFault
  | 0 => some .groupZero
  | 1 => if found = 1 then none else some (.notOneGroup found)
  | group => if found < group then some (.missingGroup group found) else none

/-- Checks that a pattern with so many groups has the given one. -/
def checkGroup (source : String) (found group : Nat) : Except BuildError Unit :=
  match groupFault? found group with
  | some fault => .error (.pattern source fault)
  | none => .ok ()

/-- Checks that a pattern with so many groups can be asked for all matches. -/
def checkFindAll (source : String) (found : Nat) : Except BuildError Unit :=
  if found > 1 then .error (.pattern source (.severalGroups found)) else .ok ()

/-- A normalised pattern that is accepted. -/
def checked (source : String) (ignoreCase dotAll : Bool) : Except BuildError Pattern := do
  let p := normalise source ignoreCase dotAll
  let _ ← countGroups p.source
  return p

end Pattern

end Extractor
