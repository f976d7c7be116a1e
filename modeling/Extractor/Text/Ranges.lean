/-!
# Extractor.Text.Ranges

Character classes as sorted lists of code-point ranges. The tables of the
Unicode properties that the library consults are values of this type, and so
are the sets that a pattern spells out, for which there are the operations on
sets.
-/

namespace Extractor.Text

/-- A set of characters, as disjoint inclusive ranges of code points in increasing order. -/
abbrev Ranges := List (Nat × Nat)

/-- The ranges that lengths describe from the code point `next` on: so many code points are left out,
so many are in the set, and so on in turn. -/
def Ranges.ofLengthsFrom (next : Nat) : List Nat → Ranges
  | gap :: length :: rest =>
      (next + gap, next + gap + length - 1) :: Ranges.ofLengthsFrom (next + gap + length) rest
  | _ => []

/-- The set that lengths describe, which is how long tables are written. -/
def Ranges.ofLengths (lengths : List Nat) : Ranges := Ranges.ofLengthsFrom 0 lengths

/-- Whether one of the ranges holds the code point. The search ends at the first range that starts
beyond it, which is enough because the ranges are in increasing order. -/
def Ranges.holds : Ranges → Nat → Bool
  | [], _ => false
  | (first, last) :: rest, n =>
      if n < first then false
      else if n ≤ last then true
      else Ranges.holds rest n

/-- Whether the character belongs to the set. -/
def Ranges.contains (r : Ranges) (c : Char) : Bool := r.holds c.toNat

/-! ## operations -/

namespace Ranges

/-- Joins a range with those behind it that overlap or touch it. -/
def mergeFrom (first last : Nat) : Ranges → Ranges
  | [] => [(first, last)]
  | (a, b) :: rest =>
      if a ≤ last + 1 then mergeFrom first (max last b) rest
      else (first, last) :: mergeFrom a b rest

/-- The set of the code points in one of the ranges, which may be in any order. -/
def ofRanges (rs : List (Nat × Nat)) : Ranges :=
  match rs.mergeSort (fun a b => decide (a.1 ≤ b.1)) with
  | [] => []
  | (a, b) :: rest => mergeFrom a b rest

/-- The union of two sets. -/
def union (r s : Ranges) : Ranges := ofRanges (r ++ s)

/-- The part of a range that are characters: code points in the surrogate area are not. -/
def characters (range : Nat × Nat) : Ranges :=
  (if range.1 < 0xD800 then [(range.1, min range.2 0xD7FF)] else [])
    ++ if 0xDFFF < range.2 then [(max range.1 0xE000, range.2)] else []

/-- The code points from `next` on that are in none of the ranges. -/
def gapsFrom (next : Nat) : Ranges → Ranges
  | [] => if next ≤ 0x10FFFF then [(next, 0x10FFFF)] else []
  | (a, b) :: rest =>
      if next < a then (next, a - 1) :: gapsFrom (b + 1) rest else gapsFrom (b + 1) rest

/-- The characters that are not in the set. -/
def complement (r : Ranges) : Ranges := (gapsFrom 0 r).flatMap characters

/-- The intersection of two sets. -/
def intersection (r s : Ranges) : Ranges := (r.complement.union s.complement).complement

/-- The characters of the first set that are not in the second. -/
def difference (r s : Ranges) : Ranges := r.intersection s.complement

end Ranges

end Extractor.Text
