import Extractor.Regex.Form
import Extractor.Regex.Spelling
import Extractor.Regex.Trie

/-!
# Extractor.Regex.Size

How much memory the automaton of a pattern takes. Repetitions are unrolled in
it, so that a short pattern can ask for millions of states; patterns beyond the
limit are refused.

A pattern has two automata, one that reads forwards and knows the groups, and
one that reads backwards and does not. Both have to stay within the limit.
-/

namespace Extractor.Regex

/-- The directions in which an automaton reads. -/
inductive Direction where
  | forward
  | backward
  deriving DecidableEq, Repr, Inhabited

/-- The memory of one state. -/
def stateSize : Nat := 32

/-- The memory of one of the transitions of a state that chooses between bytes. -/
def transitionSize : Nat := 8

/-- The memory of one of the links of a fork. -/
def linkSize : Nat := 4

/-- The greatest size that is accepted. -/
def sizeLimit : Nat := 10 * Nat.pow 2 20

/-! ## fragments -/

/-- A part of an automaton. -/
structure Fragment where
  size : Nat
  /-- Whether it ends in a fork, for which every link takes memory. -/
  endsInFork : Bool
  deriving DecidableEq, Repr, Inhabited

namespace Fragment

/-- The size once the end is linked to a further state. -/
def linked (f : Fragment) : Nat := f.size + if f.endsInFork then linkSize else 0

/-- A fragment that ends in a plain state. -/
def plain (size : Nat) : Fragment := ⟨size, false⟩

/-- One fragment after the other. -/
def append (f g : Fragment) : Fragment := ⟨f.linked + g.size, g.endsInFork⟩

/-- So many copies one after the other. -/
def copies (f : Fragment) : Nat → Fragment
  | 0 => plain stateSize
  | n + 1 => ⟨n * f.linked + f.size, f.endsInFork⟩

/-- The fragment or nothing: a fork before it and a state behind it. -/
def optional (f : Fragment) : Fragment := plain (f.linked + 2 * stateSize + 2 * linkSize)

/-- Any number of copies from the given one on. A loop around what may match an empty text is
entered by a second fork. -/
def atLeast (f : Fragment) (consumes : Bool) : Nat → Fragment
  | 0 =>
      if consumes then ⟨f.linked + stateSize + linkSize, true⟩
      else plain (f.linked + 3 * stateSize + 4 * linkSize)
  | 1 => ⟨f.linked + stateSize + linkSize, true⟩
  | n + 2 => ⟨(f.copies (n + 1)).linked + f.linked + stateSize + linkSize, true⟩

/-- Between `least` and `most` copies. -/
def between (f : Fragment) (least most : Nat) : Fragment :=
  if least = most then f.copies least
  else if least = 0 && most = 1 then f.optional
  else plain ((f.copies least).linked + stateSize
    + (most - least) * (f.linked + stateSize + 2 * linkSize))

/-- One of the fragments: a fork before them and a state behind them. -/
def oneOf (fs : List Fragment) : Fragment :=
  plain (fs.foldl (fun size f => size + f.linked + linkSize) (2 * stateSize))

/-- The fragments one after the other. -/
def inOrder (direction : Direction) (fs : List Fragment) : Fragment :=
  match (match direction with | .forward => fs | .backward => fs.reverse) with
  | [] => plain stateSize
  | f :: fs => fs.foldl append f

end Fragment

/-! ## characters -/

/-- The size of the choice between ranges of bytes. -/
def choiceSize (count : Nat) : Nat := stateSize + count * transitionSize

/-- The size of listed characters. ASCII characters take one state that chooses; others are spelled,
and the spellings share their ends forwards and their starts backwards. -/
def rangesSize (direction : Direction) (r : Text.Ranges) : Nat :=
  if r.all (·.2 < 128) then stateSize + choiceSize r.length
  else
    match direction with
    | .forward =>
        (suffixStates 4 (spellings r)).eraseDups.foldl
          (fun size state => size + choiceSize (groupTails state).length) stateSize
    | .backward =>
        2 * stateSize + (spellings r).length * linkSize
          + prefixCount [] (spellings r) * stateSize

/-- The bytes of a text in the order in which they are read. -/
def bytesInOrder (direction : Direction) (cs : List Char) : List UInt8 :=
  match direction with
  | .forward => cs.flatMap String.utf8EncodeChar
  | .backward => (cs.flatMap String.utf8EncodeChar).reverse

/-- The size of the edges that lie between two marks: a plain state or one that chooses, and its
link. -/
def edgesSize : Nat → Nat
  | 0 => 0
  | 1 => stateSize + linkSize
  | count => choiceSize count + linkSize

/-- The size of a tree of words, where `count` edges lie between the last mark and here. Every inner
node is a fork, and every end of a word is a link. -/
def Trie.edgeSizes (count : Nat) : Trie → Nat
  | nil => edgesSize count
  | mark rest => edgesSize count + linkSize + rest.edgeSizes 0
  | edge _ child rest =>
      (if child.isLeaf then 0 else stateSize + child.edgeSizes 0) + rest.edgeSizes (count + 1)

/-- The size of a choice between texts. -/
def textsSize (direction : Direction) (texts : List (List Char)) : Nat :=
  2 * stateSize + (Trie.ofWords (texts.map (bytesInOrder direction))).edgeSizes 0

/-! ## forms -/

/-- The text that the form is, if it is one. -/
def Form.text? : Form → Option (List Char)
  | literal cs => some cs
  | _ => none

mutual

/-- The automaton of a form. -/
def Form.fragment (direction : Direction) : Form → Fragment
  | .empty | .assertion _ => .plain stateSize
  | .literal cs => .plain ((bytesInOrder direction cs).length * stateSize)
  | .set chars => .plain (rangesSize direction chars)
  | .repetition sub least most =>
      let f := sub.fragment direction
      match most with
      | none => f.atLeast sub.consumes least
      | some most => f.between least most
  | .capture sub =>
      let f := sub.fragment direction
      match direction with
      | .forward => .plain (f.linked + 2 * stateSize)
      | .backward => f
  | .sequence parts => .inOrder direction (fragments direction parts)
  | .choice branches =>
      match branches.mapM Form.text? with
      | some texts => .plain (textsSize direction texts)
      | none => .oneOf (fragments direction branches)

/-- The automata of forms. -/
def fragments (direction : Direction) : List Form → List Fragment
  | [] => []
  | f :: fs => f.fragment direction :: fragments direction fs

end

mutual

/-- Whether the form matches only at the end of the text at which the automaton starts. -/
def Form.isAnchored (direction : Direction) : Form → Bool
  | .empty | .literal _ | .set _ => false
  | .assertion a => a = match direction with
    | .forward => .textStart
    | .backward => .textEnd
  | .repetition sub least _ => 0 < least && sub.isAnchored direction
  | .capture sub => sub.isAnchored direction
  | .sequence parts =>
      match direction with
      | .forward => anchorsFirst direction parts
      | .backward => anchorsLast direction parts
  | .choice branches => anchorsAll direction branches

/-- Whether one of the forms before the first that consumes a character is anchored, or that one. -/
def anchorsFirst (direction : Direction) : List Form → Bool
  | [] => false
  | f :: fs => f.isAnchored direction || (f.isZeroWidth && anchorsFirst direction fs)

/-- Whether one of the forms behind the last that consumes a character is anchored, or that one. -/
def anchorsLast (direction : Direction) : List Form → Bool
  | [] => false
  | f :: fs =>
      anchorsLast direction fs || (Form.areZeroWidth fs && f.isAnchored direction)

/-- Whether all forms are anchored. -/
def anchorsAll (direction : Direction) : List Form → Bool
  | [] => true
  | f :: fs => f.isAnchored direction && anchorsAll direction fs

end

/-- The size of the automaton of a form. Unless the form is anchored, a loop over all bytes stands
before it; the whole match is a group, and a last state accepts. -/
def Form.size (direction : Direction) (f : Form) : Nat :=
  let start := if f.isAnchored direction then Fragment.plain stateSize
    else Fragment.atLeast (.plain (stateSize + choiceSize 1)) true 0
  start.linked + (Form.capture f |>.fragment direction).linked + stateSize

/-- Whether both automata of a pattern stay within the limit. -/
def fits (alternatives : Alternatives) : Bool :=
  let f := formOf alternatives
  f.size .forward ≤ sizeLimit && f.size .backward ≤ sizeLimit

end Extractor.Regex
