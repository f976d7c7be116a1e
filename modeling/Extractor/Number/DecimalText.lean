import Extractor.Number.Decimal
import Extractor.Text.Numeric

/-!
# Extractor.Number.DecimalText

Reading and writing decimals. Reading keeps as many digits as fit and rounds the
next one; writing gives all digits of the scale.
-/

namespace Extractor.Decimal

/-! ## reading -/

/-- Ends the reading at a digit that no longer fits: the mantissa is rounded by it. If that makes it
too large, the last digit kept is rounded away instead. -/
def roundOff (mantissa scale : Nat) (next : Char) : Option (Nat × Nat) :=
  if digitValue next < 5 then some (mantissa, scale)
  else if mantissa + 1 < mantissaBound then some (mantissa + 1, scale)
  else if scale == 0 then none
  else some ((mantissa + 1 + 4) / 10, scale - 1)

/-- Reads the digits after the point; anything but a digit is refused. -/
def readFraction : Nat → Nat → List Char → Option (Nat × Nat)
  | mantissa, scale, [] => some (mantissa, scale)
  | mantissa, scale, c :: cs =>
      if !Text.isAsciiDigit c then none
      else if scale == maxScale || mantissa * 10 + digitValue c ≥ mantissaBound then
        roundOff mantissa scale c
      else readFraction (mantissa * 10 + digitValue c) (scale + 1) cs

/-- Reads the digits before the point, and those after it. -/
def readInteger : Nat → List Char → Option (Nat × Nat)
  | mantissa, [] => some (mantissa, 0)
  | mantissa, c :: cs =>
      if c == '.' then readFraction mantissa 0 cs
      else if !Text.isAsciiDigit c then none
      else if mantissa * 10 + digitValue c ≥ mantissaBound then none
      else readInteger (mantissa * 10 + digitValue c) cs

/-- Reads digits with at most one point, and at least one digit. -/
def readUnsigned? (cs : List Char) : Option (Nat × Nat) :=
  if cs.any Text.isAsciiDigit then readInteger 0 cs else none

/-- Reads a decimal with an optional sign. A zero that is read has no sign. -/
def parse? (cs : List Char) : Option Decimal :=
  let (negative, digits) := match cs with
    | '-' :: rest => (true, rest)
    | '+' :: rest => (false, rest)
    | rest => (false, rest)
  (readUnsigned? digits).map fun (mantissa, scale) =>
    ⟨negative && mantissa != 0, mantissa, scale⟩

/-! ## writing -/

/-- The digits of the mantissa, with zeros in front where the scale needs them. -/
def paddedDigits (d : Decimal) : List Char :=
  let digits := Nat.toDigits 10 d.mantissa
  List.replicate (d.scale + 1 - digits.length) '0' ++ digits

/-- The characters of the decimal, all digits of its scale written. -/
def chars (d : Decimal) : List Char :=
  let digits := d.paddedDigits
  let lead := digits.length - d.scale
  let body := if d.scale == 0 then digits else digits.take lead ++ '.' :: digits.drop lead
  if d.negative then '-' :: body else body

end Extractor.Decimal
