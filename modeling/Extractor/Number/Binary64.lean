/-!
# Extractor.Number.Binary64

Finite double-precision numbers with exact integer arithmetic: a sign, a
mantissa below `2 ^ 53` and a power of two. Every operation computes the exact
rational result and rounds it once, to the nearest double and to the even one of
two equally near, as the standard for binary floating point asks.
-/

namespace Extractor

/-- A finite double: `mantissa * 2 ^ exponent`, negated if `negative`. The mantissa is below `2 ^
53`, and at least `2 ^ 52` unless the exponent is the least one, `-1074`. -/
structure Binary64 where
  negative : Bool
  mantissa : Nat
  exponent : Int
  deriving DecidableEq, Repr, Inhabited

namespace Binary64

/-- Zero with the given sign. -/
def zero (negative : Bool) : Binary64 := ⟨negative, 0, -1074⟩

/-- Whether the number is zero, of either sign. -/
def isZero (x : Binary64) : Bool := x.mantissa == 0

/-- The number with the opposite sign. -/
def neg (x : Binary64) : Binary64 := { x with negative := !x.negative }

/-! ## rounding -/

/-- The quotient `num / den` rounded to the nearest integer, a half to the even neighbour. -/
def roundHalfEven (num den : Nat) : Nat :=
  let q := num / den
  let r := num % den
  if 2 * r > den || (2 * r == den && q % 2 == 1) then q + 1 else q

/-- The quotient `num / den` rounded to the nearest integer, a half away from zero. -/
def roundHalfUp (num den : Nat) : Nat := (2 * num + den) / (2 * den)

/-- `num / den` as a multiple of `2 ^ e`: the pair whose quotient it is. -/
def scaled (num den : Nat) (e : Int) : Nat × Nat :=
  if 0 ≤ e then (num, den * Nat.pow 2 e.toNat) else (num * Nat.pow 2 (-e).toNat, den)

/-- The least exponent at which the integer part of `num / den` fits the mantissa, found from the
bit lengths and corrected by one where they underestimate. -/
def fitExponent (num den : Nat) : Int :=
  let guess : Int := max (-1074) ((num.log2 : Int) - den.log2 - 53)
  let fits (e : Int) : Bool := (scaled num den e).1 / (scaled num den e).2 < Nat.pow 2 53
  if fits guess then guess else if fits (guess + 1) then guess + 1 else guess + 2

/-- The double nearest to `num / den`, with the given sign; `none` if it exceeds every finite
double. The denominator is positive. -/
def ofRatio? (negative : Bool) (num den : Nat) : Option Binary64 :=
  if num == 0 then some (zero negative)
  else
    let e := fitExponent num den
    let m := roundHalfEven (scaled num den e).1 (scaled num den e).2
    let (m, e) := if m == Nat.pow 2 53 then (Nat.pow 2 52, e + 1) else (m, e)
    if e > 971 then none else some ⟨negative, m, e⟩

/-- The double nearest to the decimal `digits * 10 ^ exponent`; `none` if it exceeds every finite
double. Exponents far out of range are decided from the number of digits alone. -/
def ofDecimal? (negative : Bool) (digits : Nat) (exponent : Int) : Option Binary64 :=
  let size : Int := (Nat.toDigits 10 digits).length + exponent
  if digits == 0 || size < -400 then some (zero negative)
  else if size > 400 then none
  else if 0 ≤ exponent then ofRatio? negative (digits * Nat.pow 10 exponent.toNat) 1
  else ofRatio? negative digits (Nat.pow 10 (-exponent).toNat)

/-- A natural number as a double; numbers above the finite range do not occur among the numbers this
is used for, which are below `10 ^ 60`. -/
def ofNat (n : Nat) : Binary64 := (ofRatio? false n 1).getD (zero false)

/-! ## arithmetic on magnitudes -/

/-- The magnitude as a quotient of natural numbers. -/
def ratio (x : Binary64) : Nat × Nat := scaledBack x.mantissa x.exponent
where
  /-- `m * 2 ^ e` as a quotient. -/
  scaledBack (m : Nat) (e : Int) : Nat × Nat :=
    if 0 ≤ e then (m * Nat.pow 2 e.toNat, 1) else (m, Nat.pow 2 (-e).toNat)

/-- The sum of two magnitudes. -/
def add (x y : Binary64) : Binary64 :=
  let (a, b) := x.ratio
  let (c, d) := y.ratio
  (ofRatio? false (a * d + c * b) (b * d)).getD (zero false)

/-- The product of two magnitudes. -/
def mul (x y : Binary64) : Binary64 :=
  let (a, b) := x.ratio
  let (c, d) := y.ratio
  (ofRatio? false (a * c) (b * d)).getD (zero false)

/-- The quotient of two magnitudes, the second not zero. -/
def div (x y : Binary64) : Binary64 :=
  let (a, b) := x.ratio
  let (c, d) := y.ratio
  (ofRatio? false (a * d) (b * c)).getD (zero false)

/-- The magnitude rounded to an integer, a half away from zero. -/
def round (x : Binary64) : Binary64 := ofNat (roundHalfUp x.ratio.1 x.ratio.2)

end Binary64

end Extractor
