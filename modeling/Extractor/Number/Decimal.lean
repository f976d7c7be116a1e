import Extractor.Number.Binary64

/-!
# Extractor.Number.Decimal

Decimal fractions that keep their written form: a mantissa below `2 ^ 96` and
the number of digits after the point, at most 28. `1.50` stays `1.50`.
-/

namespace Extractor

/-- The decimal `mantissa / 10 ^ scale`, negated if `negative`. -/
structure Decimal where
  negative : Bool
  mantissa : Nat
  scale : Nat
  deriving DecidableEq, Repr, Inhabited

namespace Decimal

/-- Mantissas are below this bound. -/
def mantissaBound : Nat := Nat.pow 2 96

/-- No decimal has more digits after the point. -/
def maxScale : Nat := 28

/-- The value of a digit character. -/
def digitValue (c : Char) : Nat := c.toNat - '0'.toNat

/-- The decimal with the opposite sign; zero has both signs. -/
def neg (d : Decimal) : Decimal := { d with negative := !d.negative }

/-! ## doubles -/

/-- The decimal as a double. An integer is rounded once. A fraction is added to the integer part,
and the sum is rounded to the decimal's own scale. -/
def toBinary64 (d : Decimal) : Binary64 :=
  let sign (x : Binary64) : Binary64 := if d.negative then x.neg else x
  if d.scale == 0 then
    if d.mantissa == 0 then .zero false else sign (.ofNat d.mantissa)
  else
    let unit := Nat.pow 10 d.scale
    let integer := Binary64.ofNat (d.mantissa / unit)
    if d.mantissa % unit == 0 then sign integer
    else
      let one := Binary64.ofNat unit
      let value := integer.add ((Binary64.ofNat (d.mantissa % unit)).div one)
      sign ((value.mul one).round.div one)

/-- Removes the factors of two and adds factors of five until the binary fraction `m / 2 ^ k` has
become a decimal one. Where the mantissa would overflow it is halved instead. The result is the
mantissa and the power of ten that goes with it. -/
def absorbHalves : Nat → Nat → Int → Nat × Int
  | 0, m, e => (m, e)
  | k + 1, m, e =>
      if m % 2 == 0 then absorbHalves k (m / 2) (e + 1)
      else if m * 5 < mantissaBound then absorbHalves k (m * 5) e
      else absorbHalves k (m / 2) (e + 1)

/-- Multiplies by two where that fits and otherwise divides by five, `k` times: the integer `m * 2 ^
k` as a mantissa and a power of ten. -/
def absorbDoubles : Nat → Nat → Int → Nat × Int
  | 0, m, e => (m, e)
  | k + 1, m, e =>
      if m < Nat.pow 2 95 then absorbDoubles k (m * 2) (e - 1) else absorbDoubles k (m / 5) e

/-- Multiplies by ten until the power of ten is gone; `none` if the mantissa overflows. -/
def absorbTens : Nat → Nat → Option Nat
  | 0, m => some m
  | k + 1, m => if m * 10 < mantissaBound then absorbTens k (m * 10) else none

/-- Divides by ten, rounding, until the scale is at most 28. -/
def reduceScale : Nat → Nat → Nat → Nat × Nat
  | 0, m, s => (m, s)
  | fuel + 1, m, s =>
      if s ≤ maxScale then (m, s)
      else if m / 10 == 0 then (0, 0)
      else reduceScale fuel (if m % 10 ≥ 5 then m / 10 + 1 else m / 10) (s - 1)

/-- Divides by ten, rounding, until the mantissa has no more bits than that of a double. -/
def reducePrecision : Nat → Nat → Nat × Nat
  | m, 0 => (m, 0)
  | m, s + 1 =>
      if m < Nat.pow 2 52 then (m, s + 1)
      else reducePrecision (if m % 10 ≥ 5 then m / 10 + 1 else m / 10) s

/-- Drops the zeros at the end of the fraction. -/
def dropZeros : Nat → Nat → Nat × Nat
  | m, 0 => (m, 0)
  | m, s + 1 => if m % 10 == 0 then dropZeros (m / 10) s else (m, s + 1)

/-- The decimal nearest to a double at the precision a double guarantees, about 16 digits; `none` if
the double is too large. -/
def ofBinary64? (x : Binary64) : Option Decimal :=
  if x.isZero then some ⟨x.negative, 0, 0⟩
  else
    let (m, e) :=
      if x.exponent < 0 then absorbHalves (-x.exponent).toNat x.mantissa x.exponent
      else absorbDoubles x.exponent.toNat x.mantissa x.exponent
    let fraction? : Option (Nat × Nat) :=
      if 0 < e then (absorbTens e.toNat m).map (·, 0) else some (m, (-e).toNat)
    fraction?.map fun (m, s) =>
      let (m, s) := reduceScale s m s
      let (m, s) := reducePrecision m s
      let (m, s) := dropZeros m s
      ⟨x.negative, m, s⟩

end Decimal

end Extractor
