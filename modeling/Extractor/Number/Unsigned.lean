import Extractor.Text.Numeric

/-!
# Extractor.Number.Unsigned

Counts as they are written in queries: decimal digits that fit 64 bits.
-/

namespace Extractor.Number

/-- The number that a text of digits denotes, perhaps behind a plus sign, if it fits 64 bits. -/
def unsigned64? (cs : List Char) : Option Nat :=
  let digits := match cs with
    | '+' :: rest => rest
    | rest => rest
  let value := digits.foldl (fun n c => n * 10 + (c.toNat - '0'.toNat)) 0
  if !digits.isEmpty && digits.all Text.isAsciiDigit && value < Nat.pow 2 64 then some value
  else none

end Extractor.Number
