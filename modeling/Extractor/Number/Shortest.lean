import Extractor.Number.Binary64

/-!
# Extractor.Number.Shortest

The shortest decimal that reads back as a given double, and its text. Among the
decimals with the fewest digits that round to the double the nearest one is
taken, and the one with the even last digit if two are equally near.
-/

namespace Extractor

/-- A positive decimal `digits * 10 ^ exponent`. -/
structure DecimalDigits where
  digits : Nat
  exponent : Int
  deriving DecidableEq, Repr

namespace Binary64

/-- The rationals that round to a positive double, as quotients over `den`: those between `low` and
`high`, the ends included if `closed`. The value itself is `mid / den`. -/
structure Interval where
  low : Nat
  mid : Nat
  high : Nat
  den : Nat
  closed : Bool

/-- The interval of a positive double. Below a power of two the next double is only half as far away
as above it. -/
def interval (x : Binary64) : Interval :=
  let (n, d) := ratio.scaledBack 1 x.exponent
  let lowGap := if x.mantissa == Nat.pow 2 52 && x.exponent > -1074 then 1 else 2
  { low := (4 * x.mantissa - lowGap) * n
    mid := 4 * x.mantissa * n
    high := (4 * x.mantissa + 2) * n
    den := 4 * d
    closed := x.mantissa % 2 == 0 }

/-- Whether the decimal `k * 10 ^ e` lies in the interval. -/
def Interval.holds (i : Interval) (k : Nat) (e : Int) : Bool :=
  let v := k * Nat.pow 10 e.toNat * i.den
  let unit := Nat.pow 10 (-e).toNat
  if i.closed then i.low * unit ≤ v && v ≤ i.high * unit
  else i.low * unit < v && v < i.high * unit

/-- The best multiple of `10 ^ e` in the interval, if one of the two around the value is in it. -/
def Interval.onGrid? (i : Interval) (e : Int) : Option Nat :=
  let unit := Nat.pow 10 (-e).toNat
  let step := Nat.pow 10 e.toNat * i.den
  let below := i.mid * unit / step
  match i.holds below e && below != 0, i.holds (below + 1) e with
  | true, true =>
      let rest := 2 * (i.mid * unit % step)
      if rest < step || (rest == step && below % 2 == 0) then some below else some (below + 1)
  | true, false => some below
  | false, true => some (below + 1)
  | false, false => none

/-- The number of digits before the point of `mid / den`, negative for leading zeros after it. -/
def Interval.magnitude (i : Interval) : Int :=
  let estimate : Int := ((i.mid.log2 : Int) - i.den.log2) * 30103 / 100000
  let exceeds (k : Int) : Bool :=
    Nat.pow 10 k.toNat * i.den ≤ i.mid * Nat.pow 10 (-k).toNat
  let rec climb : Nat → Int → Int
    | 0, k => k
    | fuel + 1, k => if exceeds k then climb fuel (k + 1) else k
  climb 5 (estimate - 1)

/-- Drops trailing zeros from the digits. -/
def stripZeros : Nat → Nat → Int → DecimalDigits
  | 0, k, e => ⟨k, e⟩
  | fuel + 1, k, e => if k % 10 == 0 && k != 0 then stripZeros fuel (k / 10) (e + 1) else ⟨k, e⟩

/-- The decimal with the fewest digits in the interval, tried with `count` digits and more. -/
def Interval.search (i : Interval) (magnitude : Int) : Nat → Nat → DecimalDigits
  | 0, _ => ⟨0, 0⟩
  | fuel + 1, count =>
      let e := magnitude - count
      match i.onGrid? e with
      | some k => stripZeros 20 k e
      | none => search i magnitude fuel (count + 1)

/-- The shortest decimal that rounds to the positive double. Seventeen digits always suffice. -/
def shortest (x : Binary64) : DecimalDigits :=
  let i := x.interval
  i.search i.magnitude 18 1

/-! ## text -/

/-- How a double is written: positionally while the point stands at most `maxLead` digits from the
start and at most `maxZeros` zeros follow it; otherwise with an exponent. -/
structure NumberFormat where
  maxLead : Int
  maxZeros : Int

/-- Numbers of the printed program have up to 16 digits before the point and up to four zeros after
it. -/
def plainFormat : NumberFormat := ⟨16, 4⟩

/-- The exponent with its sign. -/
def exponentText (e : Int) : String :=
  if e < 0 then "e-" ++ toString (-e) else "e+" ++ toString e

/-- The text of a positive decimal: always with a point or an exponent. -/
def NumberFormat.text (f : NumberFormat) (d : DecimalDigits) : String :=
  let digits := Nat.toDigits 10 d.digits
  let lead : Int := digits.length + d.exponent
  if 0 ≤ d.exponent && lead ≤ f.maxLead then
    String.ofList (digits ++ List.replicate d.exponent.toNat '0') ++ ".0"
  else if 0 < lead && lead ≤ f.maxLead then
    String.ofList (digits.take lead.toNat ++ '.' :: digits.drop lead.toNat)
  else if lead ≤ 0 && -lead ≤ f.maxZeros then
    "0." ++ String.ofList (List.replicate (-lead).toNat '0' ++ digits)
  else
    match digits with
    | [] => "0.0"
    | [c] => String.ofList [c] ++ exponentText (lead - 1)
    | c :: rest => String.ofList (c :: '.' :: rest) ++ exponentText (lead - 1)

/-- The text of a double, with the fewest digits that read back. -/
def text (x : Binary64) : String :=
  let sign := if x.negative then "-" else ""
  if x.isZero then sign ++ "0.0" else sign ++ plainFormat.text x.shortest

end Binary64

end Extractor
