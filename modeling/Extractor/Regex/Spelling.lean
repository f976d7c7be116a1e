import Extractor.Text.Ranges

/-!
# Extractor.Regex.Spelling

How the characters of a set are spelled in bytes. An automaton over bytes
recognises a set by sequences of byte ranges: each sequence stands for a block
of code points whose spellings have one length and vary in their last bytes
only.

* `Ranges.spellings` are the sequences of a set, in the order of the code points.
* `prefixCount` and `suffixStates` say how many states they share from either end.
-/

namespace Extractor.Regex

/-- A sequence of byte ranges. -/
abbrev Spelling := List (Nat × Nat)

/-- The number of code points that a byte leaves open if `count` bytes follow it. -/
def blockSize (count : Nat) : Nat := Nat.pow 64 count

/-- The spellings of a range of code points with a lead byte and `count` bytes behind it, where the
lead byte counts from `lead` on. A range that starts or ends inside the block of a lead byte is cut
there. -/
def spellBlocks (lead : Nat) : Nat → Nat → Nat → List Spelling
  | 0, first, last => [[(lead + first, lead + last)]]
  | count + 1, first, last =>
      let size := blockSize (count + 1)
      let (a, b) := (first / size, last / size)
      let within (byte lower upper : Nat) : List Spelling :=
        (spellBlocks 0x80 count lower upper).map ((lead + byte, lead + byte) :: ·)
      if a = b then within a (first % size) (last % size)
      else
        let cutFirst := first % size ≠ 0
        let cutLast := last % size ≠ size - 1
        let (lower, upper) := (if cutFirst then a + 1 else a, if cutLast then b else b + 1)
        (if cutFirst then within a (first % size) (size - 1) else [])
          ++ (if lower < upper then
                [(lead + lower, lead + upper - 1) :: List.replicate (count + 1) (0x80, 0xBF)]
              else [])
          ++ if cutLast then within b 0 (last % size) else []

/-- The areas of code points whose spellings have the same length, with that length and the first
lead byte. Surrogates have no spelling. -/
def spellingAreas : List ((Nat × Nat) × Nat × Nat) := [
  ((0x0, 0x7F), 0, 0x00), ((0x80, 0x7FF), 1, 0xC0), ((0x800, 0xD7FF), 2, 0xE0),
  ((0xE000, 0xFFFF), 2, 0xE0), ((0x10000, 0x10FFFF), 3, 0xF0)]

/-- The spellings of a range of code points. -/
def spellRange (range : Nat × Nat) : List Spelling :=
  spellingAreas.flatMap fun (area, count, lead) =>
    let (first, last) := (max range.1 area.1, min range.2 area.2)
    if first ≤ last then spellBlocks lead count first last else []

/-- The spellings of a set. -/
def spellings (r : Text.Ranges) : List Spelling := r.flatMap spellRange

/-! ## sharing -/

/-- The length of the common start of two sequences. -/
def commonLength : Spelling → Spelling → Nat
  | a :: as, b :: bs => if a = b then 1 + commonLength as bs else 0
  | _, _ => 0

/-- The number of different starts, behind the sequence given first. Equal starts stand together,
since the sequences are in order. -/
def prefixCount (previous : Spelling) : List Spelling → Nat
  | [] => 0
  | s :: rest => (s.length - commonLength previous s) + prefixCount s rest

/-- Groups sequences that follow each other and start with the same range; gives what is left of
them. -/
def groupTails : List Spelling → List (List Spelling)
  | [] => []
  | [] :: rest => groupTails rest
  | (range :: tail) :: rest =>
      match rest, groupTails rest with
      | (next :: _) :: _, group :: groups =>
          if range = next then (tail :: group) :: groups else [tail] :: group :: groups
      | _, groups => [tail] :: groups

/-- The states that recognise the sequences: each is given by the sequences that lead on from it.
The first argument bounds the length of the sequences. -/
def suffixStates : Nat → List Spelling → List (List Spelling)
  | 0, _ => []
  | count + 1, rest =>
      if rest.all List.isEmpty then [] else rest :: (groupTails rest).flatMap (suffixStates count)

end Extractor.Regex
