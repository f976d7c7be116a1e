import Extractor.Regex.Syntax
import Extractor.Text.Blank
import Extractor.Text.Word

/-!
# Extractor.Regex.Form

Patterns in the simplified form from which their automata are built: groups
that capture nothing are gone, neighbouring literals are joined, alternatives
between single characters are one set, and repetitions that change nothing are
dropped.
-/

namespace Extractor.Regex

/-! ## sets -/

/-- Applies an operator between two sets. -/
def SetOperator.apply : SetOperator → Text.Ranges → Text.Ranges → Text.Ranges
  | intersection, r, s => r.intersection s
  | difference, r, s => r.difference s
  | symmetricDifference, r, s => (r.difference s).union (s.difference r)

/-- The set or its opposite. -/
def negateIf (negated : Bool) (r : Text.Ranges) : Text.Ranges :=
  if negated then r.complement else r

/-- The characters of a class that has a letter. -/
def ShortClass.ranges (unicode : Bool) : ShortClass → Text.Ranges
  | digit => if unicode then Text.wordDigits else [(0x30, 0x39)]
  | space => if unicode then Text.blank else [(0x09, 0x0D), (0x20, 0x20)]
  | word =>
      if unicode then Text.wordRanges
      else [(0x30, 0x39), (0x41, 0x5A), (0x5F, 0x5F), (0x61, 0x7A)]

/-- The characters that an atom stands for. -/
def Atom.chars (unicode : Bool) : Atom → Text.Ranges
  | .literal c _ => [(c.toNat, c.toNat)]
  | .short kind negated => negateIf negated (kind.ranges unicode)
  | .property query negated => negateIf negated (query.chars?.getD [])
  | .dot => Text.Ranges.complement [(0x0A, 0x0A)]
  | .assertion _ => []

mutual

/-- The characters of a set. -/
def ClassSet.chars (unicode : Bool) : ClassSet → Text.Ranges
  | .union items => charsOfItems unicode items
  | .operation operator left right => operator.apply (left.chars unicode) (right.chars unicode)

/-- The characters of a member of a set. -/
def ClassItem.chars (unicode : Bool) : ClassItem → Text.Ranges
  | .atom a => a.chars unicode
  | .range (.literal first _) (.literal last _) => [(first.toNat, last.toNat)]
  | .range .. => []
  | .named ranges negated => negateIf negated ranges
  | .bracketed negated set => negateIf negated (set.chars unicode)

/-- The characters of members of a set. -/
def charsOfItems (unicode : Bool) : List ClassItem → Text.Ranges
  | [] => []
  | i :: is => (i.chars unicode).union (charsOfItems unicode is)

end

/-! ## forms -/

/-- A simplified pattern. -/
inductive Form where
  | empty
  | literal (cs : List Char)
  | set (chars : Text.Ranges)
  | assertion (a : Assertion)
  | repetition (sub : Form) (least : Nat) (most : Option Nat)
  | capture (sub : Form)
  | sequence (parts : List Form)
  | choice (branches : List Form)
  deriving Inhabited

namespace Form

mutual

/-- Whether the form matches nothing but empty texts. -/
def isZeroWidth : Form → Bool
  | empty | assertion _ => true
  | literal _ | set _ => false
  | repetition sub _ _ => sub.isZeroWidth
  | capture sub => sub.isZeroWidth
  | sequence parts => areZeroWidth parts
  | choice branches => areZeroWidth branches

/-- Whether all forms match nothing but empty texts. -/
def areZeroWidth : List Form → Bool
  | [] => true
  | f :: fs => f.isZeroWidth && areZeroWidth fs

end

mutual

/-- Whether the form matches no empty text. -/
def consumes : Form → Bool
  | empty | assertion _ => false
  | literal _ => true
  | set chars => !chars.isEmpty
  | repetition sub least _ => 0 < least && sub.consumes
  | capture sub => sub.consumes
  | sequence parts => anyConsumes parts
  | choice branches => allConsume branches

/-- Whether one of the forms matches no empty text. -/
def anyConsumes : List Form → Bool
  | [] => false
  | f :: fs => f.consumes || anyConsumes fs

/-- Whether none of the forms matches an empty text. -/
def allConsume : List Form → Bool
  | [] => true
  | f :: fs => f.consumes && allConsume fs

end

/-- A set; one character is a literal. -/
def ofSet : Text.Ranges → Form
  | [(first, last)] => if first = last then .literal [Char.ofNat first] else .set [(first, last)]
  | chars => .set chars

/-- The parts of a form in a sequence. -/
def parts : Form → List Form
  | empty => []
  | sequence fs => fs
  | f => [f]

/-- Puts a form before others, joining literals. -/
def glue (f : Form) (fs : List Form) : List Form :=
  match f, fs with
  | literal a, literal b :: rest => literal (a ++ b) :: rest
  | _, _ => f :: fs

/-- One form after the other. -/
def concat (fs : List Form) : Form :=
  match (fs.flatMap parts).foldr glue [] with
  | [] => .empty
  | [f] => f
  | fs => .sequence fs

/-- The alternatives of a form. -/
def branches : Form → List Form
  | choice fs => fs
  | f => [f]

/-- The set of characters that the form is, if it is one. -/
def chars? : Form → Option Text.Ranges
  | literal [c] => some [(c.toNat, c.toNat)]
  | set chars => some chars
  | _ => none

/-- The alternatives between forms. -/
def alternation (fs : List Form) : Form :=
  match fs.flatMap branches with
  | [] => .set []
  | [f] => f
  | fs =>
      match fs.mapM chars? with
      | some sets => ofSet (sets.foldl Text.Ranges.union [])
      | none => .choice fs

/-- The repetition of a form. What matches only empty texts need not be repeated. -/
def times (sub : Form) (least : Nat) (most : Option Nat) : Form :=
  let (least, most) :=
    if sub.isZeroWidth then (min least 1, some (min (most.getD 1) 1)) else (least, most)
  match least, most with
  | 0, some 0 => .empty
  | 1, some 1 => sub
  | _, _ => .repetition sub least most

end Form

/-! ## simplification -/

/-- The flags on which the form of a pattern depends. -/
structure Mode where
  unicode : Bool
  /-- Whether assertions about lines are not about the text as a whole. -/
  multiLine : Bool
  deriving DecidableEq, Repr, Inhabited

/-- The flags behind the items. -/
def Mode.after (items : List FlagItem) (m : Mode) : Mode :=
  ⟨flagAfter .unicode items m.unicode, flagAfter .multiLine items m.multiLine⟩

/-- What an assertion is about. -/
def Assertion.inMode (m : Mode) : Assertion → Assertion
  | lineStart => if m.multiLine then lineStart else textStart
  | lineEnd => if m.multiLine then lineEnd else textEnd
  | a => a

mutual

/-- The form of a part, and the flags behind it. -/
def Node.form (m : Mode) : Node → Form × Mode
  | .atom (.literal c _) => (.literal [c], m)
  | .atom (.assertion a) => (.assertion (a.inMode m), m)
  | .atom a => (.ofSet (a.chars m.unicode), m)
  | .bracketed negated set => (.ofSet (negateIf negated (set.chars m.unicode)), m)
  | .flags items => (.empty, m.after items)
  | .repetition sub least most =>
      let (f, m) := sub.form m
      (f.times least most, m)
  | .group (.capture _) alternatives =>
      (.capture (.alternation (formsOfAlternatives m alternatives)), m)
  | .group (.flags items) alternatives =>
      (.alternation (formsOfAlternatives (m.after items) alternatives), m)

/-- The forms of the parts of a concatenation, and the flags behind them. -/
def formsOfNodes (m : Mode) : List Node → List Form × Mode
  | [] => ([], m)
  | n :: ns =>
      let (f, m) := n.form m
      let (fs, m) := formsOfNodes m ns
      (f :: fs, m)

/-- The forms of alternatives. Flags hold on in later ones. -/
def formsOfAlternatives (m : Mode) : List (List Node) → List Form
  | [] => []
  | ns :: nss =>
      let (fs, m) := formsOfNodes m ns
      .concat fs :: formsOfAlternatives m nss

end

/-- The form of a pattern. -/
def formOf (alternatives : Alternatives) : Form :=
  .alternation (formsOfAlternatives ⟨true, false⟩ alternatives)

end Extractor.Regex
