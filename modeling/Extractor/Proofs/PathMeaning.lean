import Extractor.Proofs.DocumentTree
import Extractor.Proofs.PathSyntax
import Extractor.Proofs.SelectorMeaning
import Mathlib.Data.List.Infix

/-!
# Extractor.Proofs.PathMeaning

What a query selects in a document, by the rules of XPath 1.0 for the part of
it that `Extractor.Proofs.PathSyntax` reads. Numbers are whole and have no
bound. An expression whose value would need a conversion outside of that part,
such as the number of a text, has none.
-/

namespace Extractor.XPath.Fragment

open Document (Place)

/-! ## values -/

/-- The value of an expression. Of nodes only their texts are kept, in document order. -/
inductive Value where
  | nodes (texts : List (List Char))
  | text (chars : List Char)
  | number (value : Int)
  | truth (value : Bool)
  deriving DecidableEq, Repr

namespace Value

/-- A value as a condition. -/
def isTrue : Value → Bool
  | nodes texts => !texts.isEmpty
  | text chars => !chars.isEmpty
  | number value => value != 0
  | truth value => value

/-- A value as a text; that of nodes is the text of the first one. -/
def text? : Value → Option (List Char)
  | nodes texts => some (texts.head?.getD [])
  | text chars => some chars
  | number _ | truth _ => none

/-- A value as a number. -/
def number? : Value → Option Int
  | number value => some value
  | nodes _ | text _ | truth _ => none

/-- How many nodes there are. -/
def count? : Value → Option Nat
  | nodes texts => some texts.length
  | text _ | number _ | truth _ => none

/-- Whether two values are equal. Nodes are equal to a text if one of them has it. -/
def equal? : Value → Value → Option Bool
  | nodes texts, nodes others => some (texts.any others.contains)
  | nodes texts, text chars | text chars, nodes texts => some (texts.contains chars)
  | text chars, text others => some (chars == others)
  | number value, number other => some (value == other)
  | truth value, truth other => some (value == other)
  | _, _ => none

/-- Whether a predicate keeps a node at a position. -/
def keeps (position : Nat) : Value → Bool
  | number value => value == position
  | value => value.isTrue

end Value

/-- A text without white space around it, and with single blanks between its words. -/
def normalized (text : List Char) : List Char := [' '].intercalate (wordsBy isSpace text)

/-! ## expressions -/

variable (d : Document)

/-- The nodes on an axis, in the order of the axis. -/
def Axis.places (p : Place) : Axis → List Place
  | child => d.children p
  | descendantOrSelf => d.descendantsOrSelf p
  | followingSibling => d.following p
  | precedingSibling => d.preceding p

/-- Whether a node is what the test asks for. -/
def NodeTest.accepts (p : Place) : NodeTest → Bool
  | any => d.isElement p
  | named name => (d.tag? p).map Tag.name == some name

/-- The nodes on an axis that are what the test asks for, in the order of the axis. -/
def candidates (axis : Axis) (test : NodeTest) (p : Place) : List Place :=
  (axis.places d p).filter fun q => test.accepts d q

/-- The same nodes in document order, in which only one of the axes does not go. -/
def found (axis : Axis) (test : NodeTest) (p : Place) : List Place :=
  if axis = .precedingSibling then (candidates d axis test p).reverse
  else candidates d axis test p

/-- The texts of the attributes of a name; there is at most one. -/
def attributeTexts (name : List Char) (p : Place) : List (List Char) :=
  (((d.tag? p).map Tag.attributes).getD []).filterMap fun (key, value) =>
    if key = name then some value else none

/-- The text of an element, or of the document: all text in it. -/
def textOf (p : Place) : List Char := Document.Node.contents (d.nodesAt p)

/-- The value of an expression at a node and its position. -/
def eval (p : Place) (position : Nat) : Expr → Option Value
  | .or left right => do
      return .truth ((← eval p position left).isTrue || (← eval p position right).isTrue)
  | .and left right => do
      return .truth ((← eval p position left).isTrue && (← eval p position right).isTrue)
  | .equal left right => do
      return .truth (← (← eval p position left).equal? (← eval p position right))
  | .minus left right => do
      return .number ((← (← eval p position left).number?) - (← (← eval p position right).number?))
  | .literal text => some (.text text)
  | .number value => some (.number value)
  | .attribute name => some (.nodes (attributeTexts d name p))
  | .elements axis test => some (.nodes ((found d axis test p).map (textOf d)))
  | .position => some (.number position)
  | .name => some (.text (((d.tag? p).map Tag.name).getD []))
  | .length => some (.number (textOf d p).length)
  | .count nodes => do return .number (← (← eval p position nodes).count?)
  | .not condition => do return .truth (!(← eval p position condition).isTrue)
  | .normalizeSpace text => do return .text (normalized (← (← eval p position text).text?))
  | .lengthOf text => do return .number (← (← eval p position text).text?).length
  | .contains text part => do
      let text ← (← eval p position text).text?
      let part ← (← eval p position part).text?
      return .truth (decide (part <:+: text))
  | .startsWith text part => do
      let text ← (← eval p position text).text?
      let part ← (← eval p position part).text?
      return .truth (decide (part <+: text))
  -- Characters are counted from one; a start in front of the text takes all of it.
  | .substring text start => do
      let text ← (← eval p position text).text?
      let start ← (← eval p position start).number?
      return .text (text.drop (start - 1).toNat)
  | .concat first second third => do
      let first ← (← eval p position first).text?
      let second ← (← eval p position second).text?
      let third ← (← eval p position third).text?
      return .text (first ++ second ++ third)

/-! ## truth -/

section Truth

variable {d} {p : Place} {k : Nat} {e e' : Expr} {P Q : Prop}

/-- The expression has a truth value at the node, and it is that of the statement. -/
def Tells (d : Document) (p : Place) (k : Nat) (e : Expr) (P : Prop) : Prop :=
  ∃ b, eval d p k e = some (.truth b) ∧ (b = true ↔ P)

theorem Tells.congr (he : Tells d p k e P) (h : P ↔ Q) : Tells d p k e Q := by
  rwa [propext h] at he

/-- Joined tests tell both facts, or one of them. -/
theorem Tells.and (he : Tells d p k e P) (he' : Tells d p k e' Q) :
    Tells d p k (.and e e') (P ∧ Q) := by
  obtain ⟨b, hb, hP⟩ := he
  obtain ⟨b', hb', hQ⟩ := he'
  exact ⟨b && b', by simp [eval, hb, hb', Value.isTrue], by rw [Bool.and_eq_true, hP, hQ]⟩

theorem Tells.or (he : Tells d p k e P) (he' : Tells d p k e' Q) :
    Tells d p k (.or e e') (P ∨ Q) := by
  obtain ⟨b, hb, hP⟩ := he
  obtain ⟨b', hb', hQ⟩ := he'
  exact ⟨b || b', by simp [eval, hb, hb', Value.isTrue], by rw [Bool.or_eq_true, hP, hQ]⟩

end Truth

/-! ## paths -/

/-- The nodes that a predicate keeps, the first of which is at the given position. -/
def kept (predicate : Expr) : Nat → List Place → Option (List Place)
  | _, [] => some []
  | position, p :: ps => do
      let value ← eval d p position predicate
      let later ← kept predicate (position + 1) ps
      return if value.keeps position then p :: later else later

/-- The nodes that all predicates keep, each taken on what the one before it leaves. -/
def keptByAll : List Expr → List Place → Option (List Place)
  | [], ps => some ps
  | predicate :: later, ps => do keptByAll later (← kept d predicate 1 ps)

/-- The nodes that a step leads to from a node. -/
def Step.select (s : Step) (p : Place) : Option (List Place) :=
  keptByAll d s.predicates (candidates d s.axis s.test p)

/-- The nodes that a path leads to from some nodes. -/
def Path.select : Path → List Place → Option (List Place)
  | [], ps => some ps
  | s :: later, ps => do
      let reached ← ps.mapM (s.select d)
      Path.select later reached.flatten

/-- The nodes that a query selects from the document itself; a node may occur again. -/
def select (query : List Char) : Option (List Place) := do
  let paths ← parse query
  let selected ← paths.mapM fun path => Path.select d path [[]]
  return selected.flatten

end Extractor.XPath.Fragment
