import Extractor.Css.Token
import Extractor.Proofs.DocumentTree
import Extractor.Proofs.SelectorText

/-!
# Extractor.Proofs.SelectorMeaning

The selectors of the grammar with ASCII names (`InGrammar`), and which elements
of a document a selector matches. A compound selector speaks of one element,
and a combinator says how two elements lie to each other; the subject of a
complex selector is its last compound, so the others are looked for backwards
from there.
-/

namespace Extractor

/-- The value of an attribute of the element at a place. -/
def Document.attribute? (d : Document) (p : Document.Place) (name : List Char) :
    Option (List Char) :=
  (d.tag? p).bind (·.attribute? name)

/-- The parts of a text between separators that are not empty. -/
def wordsBy (separator : Char → Bool) (value : List Char) : List (List Char) :=
  (value.splitOnP separator).filter (!·.isEmpty)

namespace Css

/-! ## the grammar -/

/-- The condition is one of the grammar. -/
def Condition.InGrammar : Condition → Prop
  | hasClass name | hasId name => isIdentifier name = true
  | hasAttribute name => isName name = true
  | attributeIs name _ value => isName name = true ∧ ¬('"' ∈ value ∧ '\'' ∈ value)
  | firstChild | lastChild | onlyChild | empty => True
  | nthChild n => 1 ≤ n ∧ n < Nat.pow 2 64

instance : (c : Condition) → Decidable c.InGrammar
  | .hasClass _ | .hasId _ | .hasAttribute _ => inferInstanceAs (Decidable (_ = true))
  | .attributeIs .. | .nthChild _ => inferInstanceAs (Decidable (_ ∧ _))
  | .firstChild | .lastChild | .onlyChild | .empty => inferInstanceAs (Decidable True)

/-- The compound selector is one of the grammar: a star, a name or nothing, and conditions. -/
structure Compound.InGrammar (c : Compound) : Prop where
  element : ∀ name ∈ c.element, name = ['*'] ∨ isName name = true
  nonempty : c.element = none → c.conditions ≠ []
  conditions : ∀ condition ∈ c.conditions, condition.InGrammar

instance (c : Compound) : Decidable c.InGrammar :=
  decidable_of_iff (_ ∧ _ ∧ _) ⟨fun ⟨helement, hsome, hall⟩ => ⟨helement, hsome, hall⟩,
    fun h => ⟨h.element, h.nonempty, h.conditions⟩⟩

/-- The compound selectors of a complex one. -/
def Complex.compounds (s : Complex) : List Compound := s.head :: s.tail.map Prod.snd

/-- The complex selector is one of the grammar. -/
def Complex.InGrammar (s : Complex) : Prop := ∀ c ∈ s.compounds, c.InGrammar

instance (s : Complex) : Decidable s.InGrammar :=
  inferInstanceAs (Decidable (∀ c ∈ s.compounds, c.InGrammar))

/-- What is in the grammar is readable: conditions, compounds and selectors. -/
theorem Condition.InGrammar.isReadable {condition : Condition} (h : condition.InGrammar) :
    condition.IsReadable := by
  cases condition with
  | hasClass name => exact isWritten_of_isIdentifier h
  | hasId name => exact isWritten_of_isIdentifier h
  | hasAttribute name => exact isWritten_of_isName h
  | attributeIs name operator value => exact ⟨isWritten_of_isName h.1, h.2⟩
  | firstChild | lastChild | onlyChild | empty => trivial
  | nthChild n => exact h

theorem Compound.InGrammar.isReadable {c : Compound} (h : c.InGrammar) : c.IsReadable where
  element name hname := (h.element name hname).elim .inl isType_of_isName
  nonempty := h.nonempty
  conditions condition hmem := (h.conditions condition hmem).isReadable

theorem Complex.InGrammar.isReadable {s : Complex} (h : s.InGrammar) : s.IsReadable where
  head := (h s.head List.mem_cons_self).isReadable
  tail compound hmem := (h compound (List.mem_cons_of_mem _ hmem)).isReadable

/-- An attribute is not compared with an empty value, and a word is one: no white space is in it. -/
def Condition.IsProper : Condition → Prop
  | attributeIs _ operator value =>
      value ≠ [] ∧ (operator = .word → ∀ c ∈ value, isSpace c = false)
  | _ => True

instance : (c : Condition) → Decidable c.IsProper
  | .attributeIs .. => inferInstanceAs (Decidable (_ ∧ _))
  | .hasClass _ | .hasId _ | .hasAttribute _ | .firstChild | .lastChild | .onlyChild | .empty
  | .nthChild _ => inferInstanceAs (Decidable True)

/-! ## matching -/

open Document (Place)

/-- Whether the value of an attribute is as the operator says. A part that is to be found in it is
not empty. -/
def AttributeOperator.Accepts : AttributeOperator → (value part : List Char) → Prop
  | equals, value, part => value = part
  | word, value, part => part ∈ wordsBy isSpace value
  | dash, value, part => value = part ∨ part ++ ['-'] <+: value
  | starts, value, part => part ≠ [] ∧ part <+: value
  | ends, value, part => part ≠ [] ∧ part <:+ value
  | contains, value, part => part ≠ [] ∧ part <:+: value

/-- Whether the condition holds of the element at a place. The place among the siblings counts
elements only, and an element is empty if nothing is in it but texts without characters. -/
def Condition.Holds (d : Document) (p : Place) : Condition → Prop
  | hasClass name => ∃ value ∈ d.attribute? p "class".toList, name ∈ wordsBy isSpace value
  | hasId name => d.attribute? p "id".toList = some name
  | hasAttribute name => ∃ value, d.attribute? p name = some value
  | attributeIs name operator part => ∃ value ∈ d.attribute? p name, operator.Accepts value part
  | firstChild => (d.preceding p).countP d.isElement = 0
  | lastChild => (d.following p).countP d.isElement = 0
  | onlyChild => (d.preceding p).countP d.isElement = 0 ∧ (d.following p).countP d.isElement = 0
  | empty => ∀ n ∈ d.nodesAt p, n = .text []
  | nthChild n => (d.preceding p).countP d.isElement + 1 = n

/-- Whether the element at a place has the type and meets the conditions. -/
structure Compound.Matches (d : Document) (c : Compound) (p : Place) : Prop where
  element : d.isElement p = true
  type : ∀ name ∈ c.element, name = ['*'] ∨ (d.tag? p).map Tag.name = some name
  conditions : ∀ condition ∈ c.conditions, condition.Holds d p

/-- How the first element lies to the second one. -/
def Combinator.Joins (d : Document) : Combinator → Place → Place → Prop
  | descendant, p, q => p <:+ q ∧ p ≠ q
  | child, p, q => ∃ i, q = i :: p
  | sibling, p, q => ∃ i j r, p = i :: r ∧ q = j :: r ∧ i < j
  | adjacent, p, q => ∃ i j r, p = i :: r ∧ q = j :: r ∧ i < j ∧
      ∀ k, i < k → k < j → d.isElement (k :: r) = false

/-- Whether a place is matched by the last of some compound selectors, which are given from the last
one to the one behind `head`. -/
def MatchesBack (d : Document) (head : Compound) : List (Combinator × Compound) → Place → Prop
  | [], q => head.Matches d q
  | (combinator, compound) :: earlier, q =>
      compound.Matches d q ∧ ∃ p, MatchesBack d head earlier p ∧ combinator.Joins d p q

/-- Whether the element at a place is matched by a complex selector. -/
def Complex.Matches (d : Document) (s : Complex) (q : Place) : Prop :=
  MatchesBack d s.head s.tail.reverse q

/-- Whether the element at a place is matched by a group of selectors. -/
def GroupMatches (d : Document) (selectors : List Complex) (q : Place) : Prop :=
  ∃ s ∈ selectors, s.Matches d q

end Css

end Extractor
