import Extractor.Text.Ranges
import Extractor.Text.Split

/-!
# Extractor.Text.Runs

Tables that give a code to every code point, as runs of code points with the same
code. A table is written as lines of words. A word is a code, with the length of
its run behind a star unless it is one, or some codes that take turns.
-/

namespace Extractor.Text

/-- The runs of a table, from the first code point on, with the code and the length of each. -/
abbrev Runs := List (List Char × Nat)

namespace Runs

/-- The runs that a word stands for: one run of its code, or codes between slashes that take turns
as often as the number says. -/
def ofWord (word : List Char) : Runs :=
  let (codes, count) := match splitFirst? ['*'] word with
    | some (codes, count) => (codes, Nat.ofDigitChars 10 count 0)
    | none => (word, 1)
  match splitOn '/' codes with
  | [code] => [(code, count)]
  | turns => (List.replicate count (turns.map (·, 1))).flatten

/-- The runs that lines of words list. -/
def ofLines (lines : List String) : Runs :=
  lines.flatMap fun line => (splitOn ' ' line.toList).flatMap ofWord

/-- The code points from `next` on whose code passes the test. -/
def selectFrom (test : List Char → Bool) (next : Nat) : Runs → List (Nat × Nat)
  | [] => []
  | (code, length) :: rest =>
      let others := selectFrom test (next + length) rest
      if test code then (next, next + length - 1) :: others else others

/-- The characters whose code passes the test. -/
def select (test : List Char → Bool) (runs : Runs) : Ranges :=
  (Ranges.ofRanges (runs.selectFrom test 0)).flatMap Ranges.characters

end Runs

end Extractor.Text
