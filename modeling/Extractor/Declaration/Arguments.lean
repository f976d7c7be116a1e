import Extractor.Declaration.Error
import Extractor.Draft.Basic

/-!
# Extractor.Declaration.Arguments

The arguments of a call as they are written, and how a method takes them one
after the other: by keyword, or else by position. What no method takes is an
error.
-/

namespace Extractor.Declaration

/-- An argument. -/
inductive Argument where
  | literal (value : Literal)
  /-- A word, such as the name of a schema. -/
  | name (word : String)
  | textFilter (f : TextFilter)
  | elementFilter (f : ElementFilter)
  deriving Inhabited

/-- The argument in the words of a message. -/
def Argument.description : Argument → String
  | literal value => value.typeName
  | name word => "identifier '" ++ word ++ "'"
  | textFilter _ => "filter"
  | elementFilter _ => "element filter"

/-- The arguments of a call; those by position that are taken leave a gap. -/
structure Arguments where
  positional : List (Option Argument)
  keywords : List (String × Argument)
  deriving Inhabited

/-- No arguments. -/
def Arguments.none : Arguments := ⟨[], []⟩

/-- Takes arguments, or fails. -/
abbrev Taking := StateT Arguments (Except ArgumentsFault)

namespace Taking

/-- The argument of the given keyword or, if that is not there, position. -/
def optional (index : Nat) (keyword : String) : Taking (Option Argument) := fun args =>
  match args.keywords.lookup keyword with
  | some value =>
      .ok (some value, { args with keywords := args.keywords.filter (·.1 ≠ keyword) })
  | none =>
      match args.positional[index]? with
      | some (some value) =>
          .ok (some value, { args with positional := args.positional.set index Option.none })
      | _ => .ok (Option.none, args)

/-- An argument that has to be there. -/
def required (index : Nat) (keyword : String) : Taking Argument := do
  match ← optional index keyword with
  | some value => return value
  | none => throw (.missing keyword)

/-- Fails because of an argument of the wrong sort. -/
def wrongSort {α : Type} (keyword : String) (expected : ArgumentSort) (found : Argument) :
    Taking α :=
  throw (.wrongSort keyword expected found.description)

/-- The string that an argument is. -/
def asString (keyword : String) : Argument → Taking String
  | .literal (.str s) => return s
  | other => wrongSort keyword .string other

/-- A string. -/
def string (index : Nat) (keyword : String) : Taking String := do
  asString keyword (← required index keyword)

/-- A string that may be missing. -/
def string? (index : Nat) (keyword : String) : Taking (Option String) := do
  match ← optional index keyword with
  | some value => some <$> asString keyword value
  | none => return Option.none

/-- A message that may be missing. -/
def message (index : Nat) : Taking String := do
  return (← string? index "msg").getD ""

/-- An integer. -/
def integer (index : Nat) (keyword : String) : Taking Int := do
  match ← required index keyword with
  | .literal (.int n) => return n
  | other => wrongSort keyword .integer other

/-- A number that may be missing. -/
def natural? (index : Nat) (keyword : String) : Taking (Option Nat) := do
  match ← optional index keyword with
  | some (.literal (.int n)) => if n < 0 then throw (.negative keyword) else return some n.toNat
  | some other => wrongSort keyword .integer other
  | none => return Option.none

/-- A number. -/
def natural (index : Nat) (keyword : String) : Taking Nat := do
  match ← natural? index keyword with
  | some n => return n
  | none => throw (.missing keyword)

/-- A flag, which is off if it is missing. -/
def flag (index : Nat) (keyword : String) : Taking Bool := do
  match ← optional index keyword with
  | some (.literal (.bool b)) => return b
  | some other => wrongSort keyword .boolean other
  | none => return false

/-- A literal. -/
def literal (index : Nat) (keyword : String) : Taking Literal := do
  match ← required index keyword with
  | .literal value => return value
  | other => wrongSort keyword .literal other

/-- The name of a schema, as a word or as a string. -/
def schemaName (index : Nat) (keyword : String) : Taking String := do
  match ← required index keyword with
  | .name word => return word
  | .literal (.str s) => return s
  | other => wrongSort keyword .schemaName other

/-- A filter on texts. -/
def textFilter (index : Nat) (keyword : String) : Taking TextFilter := do
  match ← required index keyword with
  | .textFilter f => return f
  | other => wrongSort keyword .textFilter other

/-- A filter on elements. -/
def elementFilter (index : Nat) (keyword : String) : Taking ElementFilter := do
  match ← required index keyword with
  | .elementFilter f => return f
  | other => wrongSort keyword .elementFilter other

/-- A table of strings. -/
def table (index : Nat) (keyword : String) : Taking (List (String × String)) := do
  match ← required index keyword with
  | .literal (.map entries) =>
      entries.mapM fun (key, value) =>
        match value with
        | .str s => return (key, s)
        | other => throw (.wrongValue keyword other.typeName key)
  | other => wrongSort keyword .map other

/-- All arguments by position that are left, at least one, as strings. -/
def strings : Taking (List String) := do
  let args ← get
  set { args with positional := args.positional.map fun _ => Option.none }
  let values ← (args.positional.filterMap id).mapM (asString "values")
  if values.isEmpty then throw .noStrings else return values

end Taking

/-- What is wrong with arguments that nothing has taken. -/
def Arguments.leftover? (args : Arguments) : Option ArgumentsFault :=
  match args.keywords with
  | (keyword, _) :: _ => some (.unexpectedKeyword keyword)
  | [] =>
      let taken := args.positional.takeWhile Option.isNone
      if taken.length < args.positional.length then some (.unexpectedPosition (taken.length + 1))
      else Option.none

end Extractor.Declaration
