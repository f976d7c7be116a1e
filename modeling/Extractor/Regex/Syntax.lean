import Extractor.Regex.Property
import Extractor.Text.Ranges

/-!
# Extractor.Regex.Syntax

Regular expressions as they are written: alternatives of concatenations of
atoms, bracketed sets, groups and repetitions. Only what decides whether a
pattern is accepted, how large its automaton is, and how many groups it
captures, is kept.
-/

namespace Extractor.Regex

/-- The flags of a pattern. -/
inductive Flag where
  | ignoreCase
  | multiLine
  | dotMatchesNewLine
  | swapGreed
  | unicode
  | crlf
  /-- White space and comments are skipped. -/
  | verbose
  deriving DecidableEq, Repr, Inhabited

/-- The flag of a letter. -/
def Flag.ofChar? : Char → Option Flag
  | 'i' => some .ignoreCase
  | 'm' => some .multiLine
  | 's' => some .dotMatchesNewLine
  | 'U' => some .swapGreed
  | 'u' => some .unicode
  | 'R' => some .crlf
  | 'x' => some .verbose
  | _ => none

/-- An item of a flag group: a flag, or the sign behind which flags are switched off. -/
inductive FlagItem where
  | negation
  | flag (f : Flag)
  deriving DecidableEq, Repr, Inhabited

/-- What the items say about a flag, if anything. -/
def flagState? (f : Flag) (items : List FlagItem) : Option Bool :=
  if .flag f ∈ items then some (!(items.takeWhile (· ≠ .flag f)).contains .negation) else none

/-- The state of a flag behind the items. -/
def flagAfter (f : Flag) (items : List FlagItem) (before : Bool) : Bool :=
  (flagState? f items).getD before

/-- The classes that have a letter. -/
inductive ShortClass where
  | digit
  | space
  | word
  deriving DecidableEq, Repr, Inhabited

/-- The assertions about a place between two characters. -/
inductive Assertion where
  | textStart
  | textEnd
  /-- The start of a line if lines count, and of the text otherwise. -/
  | lineStart
  /-- The end of a line if lines count, and of the text otherwise. -/
  | lineEnd
  /-- A place about which the characters beside it decide. -/
  | boundary
  deriving DecidableEq, Repr, Inhabited

/-- What stands for one character, or for a place between two. -/
inductive Atom where
  /-- A character; `isByte` if it is written with two hexadecimal digits. -/
  | literal (c : Char) (isByte : Bool)
  | short (kind : ShortClass) (negated : Bool)
  | property (query : PropertyQuery) (negated : Bool)
  | dot
  | assertion (a : Assertion)
  deriving DecidableEq, Repr, Inhabited

/-- The operators between bracketed sets. -/
inductive SetOperator where
  | intersection
  | difference
  | symmetricDifference
  deriving DecidableEq, Repr, Inhabited

mutual

/-- The inside of a bracketed set. -/
inductive ClassSet where
  | union (items : List ClassItem)
  | operation (operator : SetOperator) (left right : ClassSet)

/-- A member of a bracketed set. -/
inductive ClassItem where
  | atom (a : Atom)
  /-- A range between two literals. -/
  | range (first last : Atom)
  /-- A class of ASCII characters that has a name. -/
  | named (ranges : Text.Ranges) (negated : Bool)
  | bracketed (negated : Bool) (set : ClassSet)

end

/-- The kinds of groups. -/
inductive GroupKind where
  | capture (name : Option (List Char))
  | flags (items : List FlagItem)
  deriving DecidableEq, Repr, Inhabited

/-- The flags that a group sets inside. -/
def GroupKind.items : GroupKind → List FlagItem
  | capture _ => []
  | flags items => items

/-- A part of a pattern. -/
inductive Node where
  | atom (a : Atom)
  | bracketed (negated : Bool) (set : ClassSet)
  /-- Flags for the rest of the group. -/
  | flags (items : List FlagItem)
  | repetition (sub : Node) (least : Nat) (most : Option Nat)
  | group (kind : GroupKind) (alternatives : List (List Node))

/-- A pattern: alternatives, each of them a concatenation. -/
abbrev Alternatives := List (List Node)

/-! ## groups -/

mutual

/-- The capturing groups of a part in the order of their opening, with their names. -/
def Node.captures : Node → List (Option (List Char))
  | .atom _ | .bracketed .. | .flags _ => []
  | .repetition sub _ _ => sub.captures
  | .group (.capture name) alternatives => name :: capturesOfAlternatives alternatives
  | .group (.flags _) alternatives => capturesOfAlternatives alternatives

/-- The capturing groups of a concatenation. -/
def capturesOfNodes : List Node → List (Option (List Char))
  | [] => []
  | n :: ns => n.captures ++ capturesOfNodes ns

/-- The capturing groups of alternatives. -/
def capturesOfAlternatives : List (List Node) → List (Option (List Char))
  | [] => []
  | ns :: nss => capturesOfNodes ns ++ capturesOfAlternatives nss

end

/-- Whether no two groups have the same name. -/
def hasDistinctNames (alternatives : Alternatives) : Bool :=
  decide ((capturesOfAlternatives alternatives).filterMap id).Nodup

/-! ## depth -/

/-- How deep members lie in each other: several of them make one level more. -/
def levelOf : List Nat → Nat
  | [] => 0
  | [n] => n
  | n :: ns => 1 + ns.foldl max n

mutual

/-- The depth of a set. -/
def ClassSet.depth : ClassSet → Nat
  | .union items => levelOf (depthsOfItems items)
  | .operation _ left right => 1 + max left.depth right.depth

/-- The depth of a member of a set. -/
def ClassItem.depth : ClassItem → Nat
  | .bracketed _ set => 1 + set.depth
  | _ => 0

/-- The depths of members. -/
def depthsOfItems : List ClassItem → List Nat
  | [] => []
  | i :: is => i.depth :: depthsOfItems is

end

mutual

/-- The depth of a part. -/
def Node.depth : Node → Nat
  | .atom _ | .flags _ => 0
  | .bracketed _ set => 1 + set.depth
  | .repetition sub _ _ => 1 + sub.depth
  | .group _ alternatives => 1 + levelOf (depthsOfAlternatives alternatives)

/-- The depths of the parts of a concatenation. -/
def depthsOfNodes : List Node → List Nat
  | [] => []
  | n :: ns => n.depth :: depthsOfNodes ns

/-- The depths of alternatives. -/
def depthsOfAlternatives : List (List Node) → List Nat
  | [] => []
  | ns :: nss => levelOf (depthsOfNodes ns) :: depthsOfAlternatives nss

end

/-- The depth of a pattern. -/
def depthOf (alternatives : Alternatives) : Nat := levelOf (depthsOfAlternatives alternatives)

/-! ## meaning -/

/-- Whether the atom stands for characters; without Unicode it may not reach beyond ASCII, since
what is matched has to stay text. -/
def Atom.hasMeaning (unicode : Bool) : Atom → Bool
  | .literal c isByte => unicode || !isByte || c.toNat < 128
  | .short _ negated => unicode || !negated
  | .property query _ => unicode && query.chars?.isSome
  | .dot => unicode
  | .assertion _ => true

/-- Whether the atom stands for characters inside a set. -/
def Atom.hasMeaningInSet (unicode : Bool) : Atom → Bool
  | .literal c _ => unicode || c.toNat < 128
  | a => a.hasMeaning unicode

mutual

/-- Whether all members of a set have a meaning. -/
def ClassSet.hasMeaning (unicode : Bool) : ClassSet → Bool
  | .union items => itemsHaveMeaning unicode items
  | .operation _ left right => left.hasMeaning unicode && right.hasMeaning unicode

/-- Whether a member of a set has a meaning. -/
def ClassItem.hasMeaning (unicode : Bool) : ClassItem → Bool
  | .atom a => a.hasMeaningInSet unicode
  | .range first last => first.hasMeaningInSet unicode && last.hasMeaningInSet unicode
  | .named _ negated => unicode || !negated
  | .bracketed negated set => set.hasMeaning unicode && (unicode || !negated)

/-- Whether members of a set have a meaning. -/
def itemsHaveMeaning (unicode : Bool) : List ClassItem → Bool
  | [] => true
  | i :: is => i.hasMeaning unicode && itemsHaveMeaning unicode is

end

mutual

/-- Whether Unicode is on behind a part, if the part has a meaning. -/
def Node.unicodeAfter (unicode : Bool) : Node → Option Bool
  | .atom a => if a.hasMeaning unicode then some unicode else none
  | .bracketed negated set =>
      if set.hasMeaning unicode && (unicode || !negated) then some unicode else none
  | .flags items => some (flagAfter .unicode items unicode)
  | .repetition sub _ _ => sub.unicodeAfter unicode
  | .group kind alternatives =>
      (unicodeAfterAlternatives (flagAfter .unicode kind.items unicode) alternatives).map
        fun _ => unicode

/-- Whether Unicode is on behind a concatenation, if it has a meaning. -/
def unicodeAfterNodes (unicode : Bool) : List Node → Option Bool
  | [] => some unicode
  | n :: ns => n.unicodeAfter unicode >>= fun u => unicodeAfterNodes u ns

/-- Whether Unicode is on behind alternatives, if they have a meaning. Flags hold on in later
alternatives of a group. -/
def unicodeAfterAlternatives (unicode : Bool) : List (List Node) → Option Bool
  | [] => some unicode
  | ns :: nss => unicodeAfterNodes unicode ns >>= fun u => unicodeAfterAlternatives u nss

end

/-- Whether all parts of a pattern have a meaning. -/
def hasMeaning (alternatives : Alternatives) : Bool :=
  (unicodeAfterAlternatives true alternatives).isSome

end Extractor.Regex
