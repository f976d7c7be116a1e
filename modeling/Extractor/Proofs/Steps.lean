import Extractor.Proofs.Recognition

/-!
# Extractor.Proofs.Steps

A step of a path gives what comes back of the compound selector that it was made
from (`restored`), and the combinator in front of it: one statement for each
form of step (`stepSelector_child`, `stepSelector_descendant`,
`stepSelector_sibling`, `stepSelector_adjacent`). The tests between its brackets
are told apart because each of them is `Enclosable`. If anything comes back, it
is the shortest text of the compound selector (`restored_eq_ok_iff`).
-/

namespace Extractor.XPath

open Css (IsWritten)
open Css.Reader (isIdentPart)
open Recogniser (IsNamed)

variable {name value : List Char}

/-! ## tests -/

/-- No character of a name opens or closes anything. -/
theorem isDelimiter_of_isIdentPart {c : Char} (h : isIdentPart c = true) :
    isDelimiter c = false := by
  have hall : ∀ c ∈ ['\'', '"', '[', '(', ']', ')'], isIdentPart c = false :=
    Text.forall_mem_of_all (by decide)
  by_contra hdelimiter
  rw [Bool.not_eq_false] at hdelimiter
  have hmem : c ∈ ['\'', '"', '[', '(', ']', ')'] := by
    simpa [isDelimiter, or_assoc] using hdelimiter
  rw [hall c hmem] at h
  cases h

/-- A name changes nothing about the nesting. -/
theorem pass?_name {d : Nat} (h : ∀ c ∈ name, isIdentPart c = true) :
    Nesting.pass? ⟨d, none⟩ name = some ⟨d, none⟩ :=
  Nesting.pass?_plain fun c hc => isDelimiter_of_isIdentPart (h c hc)

theorem isIdentPart_numeral (n : Nat) : ∀ c ∈ numeral n, isIdentPart c = true :=
  fun c hc => (Css.of_isPlainChar (Css.isPlainChar_toDigits n c hc)).1

/-- What a test says behind the name of its attribute opens and closes in order. -/
theorem pass?_testTail (operator : Css.AttributeOperator) (hname : IsWritten name)
    (hquotes : ¬('"' ∈ value ∧ '\'' ∈ value)) :
    Nesting.start.pass? (Recogniser.testTail name operator value) = some .start := by
  have hchars : ∀ d, Nesting.pass? ⟨d, none⟩ name = some ⟨d, none⟩ := fun _ =>
    pass?_name hname.parts
  have hliteral : ∀ d, Nesting.pass? ⟨d, none⟩ (literal value) = some ⟨d, none⟩ := fun _ =>
    Nesting.pass?_literal hquotes
  cases operator with
  | equals => exact Nesting.pass?_append rfl (Nesting.pass?_append (hliteral _) rfl)
  | word =>
      have hpadded : ¬('"' ∈ ' ' :: (value ++ [' ']) ∧ '\'' ∈ ' ' :: (value ++ [' '])) := by
        simpa using hquotes
      refine Nesting.pass?_append rfl (Nesting.pass?_cons rfl ?_)
      refine Nesting.pass?_append (hchars _) (Nesting.pass?_append rfl ?_)
      exact Nesting.pass?_append (Nesting.pass?_literal hpadded) rfl
  | dash =>
      have hdashed : ¬('"' ∈ value ++ ['-'] ∧ '\'' ∈ value ++ ['-']) := by simpa using hquotes
      refine Nesting.pass?_append rfl (Nesting.pass?_cons rfl ?_)
      refine Nesting.pass?_append (hchars _) (Nesting.pass?_append rfl ?_)
      refine Nesting.pass?_append (hliteral _) (Nesting.pass?_append rfl ?_)
      refine Nesting.pass?_cons rfl ?_
      refine Nesting.pass?_append (hchars _) (Nesting.pass?_append rfl ?_)
      exact Nesting.pass?_append (Nesting.pass?_literal hdashed) rfl
  | starts =>
      refine Nesting.pass?_append rfl (Nesting.pass?_append rfl (Nesting.pass?_cons rfl ?_))
      refine Nesting.pass?_append (hchars _) (Nesting.pass?_append rfl ?_)
      exact Nesting.pass?_append (hliteral _) rfl
  | ends =>
      refine Nesting.pass?_append rfl (Nesting.pass?_cons rfl ?_)
      refine Nesting.pass?_append (hchars _) (Nesting.pass?_append rfl (Nesting.pass?_cons rfl ?_))
      refine Nesting.pass?_append (hchars _) (Nesting.pass?_append rfl ?_)
      refine Nesting.pass?_append (pass?_name (isIdentPart_numeral _)) ?_
      refine Nesting.pass?_cons rfl (Nesting.pass?_append rfl ?_)
      exact Nesting.pass?_append (hliteral _) rfl
  | contains =>
      refine Nesting.pass?_append rfl (Nesting.pass?_append rfl (Nesting.pass?_cons rfl ?_))
      refine Nesting.pass?_append (hchars _) (Nesting.pass?_append rfl ?_)
      exact Nesting.pass?_append (hliteral _) rfl

/-- A literal ends in its quote. -/
theorem ended_literal (value : List Char) : Text.Ended (literal value) := by
  unfold literal
  split
  · exact ⟨'"' :: value, '"', rfl, by decide⟩
  · exact ⟨'\'' :: value, '\'', rfl, by decide⟩

/-- What a test says behind the name of its attribute ends in no white space. -/
theorem ended_testTail (operator : Css.AttributeOperator) :
    Text.Ended (Recogniser.testTail name operator value) := by
  have hparen : Text.Ended [')'] := ⟨[], ')', rfl, by decide⟩
  have hparens : Text.Ended "))".toList := ⟨[')'], ')', rfl, by decide⟩
  have hliteral : Text.Ended (literal value ++ []) := by
    rw [List.append_nil]
    exact ended_literal value
  cases operator with
  | equals => exact .append _ hliteral
  | word => exact .append _ (.cons _ (.append _ (.append _ (.append _ hparen))))
  | dash =>
      exact .append _ (.cons _ (.append _ (.append _ (.append _ (.append _ (.cons _ (.append _
        (.append _ (.append _ hparens)))))))))
  | starts => exact .append _ (.append _ (.cons _ (.append _ (.append _ (.append _ hparen)))))
  | ends =>
      exact .append _ (.cons _ (.append _ (.append _ (.cons _ (.append _ (.append _ (.append _
        (.cons _ (.append _ hliteral)))))))))
  | contains => exact .append _ (.append _ (.cons _ (.append _ (.append _ (.append _ hparen)))))

/-- What a test must be like to stand between brackets. -/
structure Enclosable (test : List Char) : Prop where
  pass : Nesting.start.pass? test = some .start
  unpadded : Text.Unpadded test
  /-- It is not the test for an adjacent sibling. -/
  not_adjacent : Recogniser.adjacent test = none

/-- The test of an attribute can stand in brackets, and so can the other tests. -/
theorem enclosable_attributeTest (operator : Css.AttributeOperator) (hname : IsWritten name)
    (hquotes : ¬('"' ∈ value ∧ '\'' ∈ value)) : Enclosable (attributeTest name operator value) := by
  rw [attributeTest_eq]
  refine ⟨?_, ?_, rfl⟩
  · exact Nesting.pass?_cons rfl (Nesting.pass?_append (pass?_name hname.parts)
      (pass?_testTail operator hname hquotes))
  · refine (((ended_testTail operator).append name).cons '@').unpadded ?_
    exact Text.unblank_cons (by decide)

theorem enclosable_count {ds : List Char} (hds : Number.IsNumeral ds) :
    Enclosable ("count(preceding-sibling::*) = ".toList ++ ds) := by
  have hchars : ∀ c ∈ ds, isIdentPart c = true ∧ Text.isBlank c = false := by
    intro c hc
    obtain ⟨hpart, -, hblank⟩ :=
      Css.of_isPlainChar (Css.isPlainChar_of_isAsciiDigit (hds.digits c hc))
    exact ⟨hpart, hblank⟩
  have hended := Text.ended_of_forall hds.ne_nil fun c hc => (hchars c hc).2
  refine ⟨Nesting.pass?_append rfl (pass?_name fun c hc => (hchars c hc).1), ?_, rfl⟩
  exact (hended.append _).unpadded (Text.unblank_cons (by decide))

/-- The test of every plain condition can stand in brackets. -/
theorem enclosable_conditionTest {condition : Css.Condition} (h : condition.IsPlain) :
    Enclosable (conditionTest condition) := by
  have hclass : IsWritten "class".toList := Css.isWritten_of_isName (by decide)
  have hid : IsWritten "id".toList := Css.isWritten_of_isName (by decide)
  cases condition with
  | hasClass value => exact enclosable_attributeTest .word hclass h.1
  | hasId value =>
      have htest : Enclosable (attributeTest "id".toList .equals value) :=
        enclosable_attributeTest .equals hid h
      exact htest
  | hasAttribute name =>
      have hname : IsWritten name := h
      refine ⟨Nesting.pass?_cons rfl (pass?_name hname.parts), ?_, rfl⟩
      exact (hname.ended.cons '@').unpadded (Text.unblank_cons (by decide))
  | attributeIs name operator value => exact enclosable_attributeTest operator h.1 h.2.1
  | firstChild | lastChild | onlyChild | empty => exact ⟨rfl, by decide, rfl⟩
  | nthChild n => exact enclosable_count (Number.isNumeral_toDigits _)

/-! ## steps -/

/-- Tests as predicates, one behind the other. -/
def brackets (tests : List (List Char)) : List Char :=
  tests.flatMap fun test => '[' :: (test ++ [']'])

/-- The tests of the conditions of a compound selector. -/
def testsOf (compound : Css.Compound) : List (List Char) := compound.conditions.map conditionTest

theorem predicates_eq (compound : Css.Compound) :
    predicates compound.conditions = brackets (testsOf compound) := by
  rw [predicates, brackets, testsOf, List.flatMap_map]

/-- All tests of a plain compound can stand in brackets. -/
theorem enclosable_testsOf {compound : Css.Compound} (h : compound.IsPlain) :
    ∀ test ∈ testsOf compound, Enclosable test := by
  intro test htest
  obtain ⟨condition, hcondition, rfl⟩ := List.mem_map.mp htest
  exact enclosable_conditionTest (h.conditions condition hcondition)

/-- The element that the node test of a compound selector asks for. -/
def tested (compound : Css.Compound) : Option (List Char) := compound.element.filter (· ≠ ['*'])

variable {compound : Css.Compound} {pending combinator : Css.Combinator} {text : List Char}

/-- The tested type is that of the node test, unless it is a star. -/
theorem tested_eq : tested compound =
    if nodeTest compound = ['*'] then none else some (nodeTest compound) := by
  obtain ⟨element, conditions⟩ := compound
  cases element with
  | none => rfl
  | some name => by_cases hstar : name = ['*'] <;> simp [tested, nodeTest, hstar, Option.filter]

/-- The node test of a plain compound can be written as a type. -/
theorem isType_nodeTest (h : compound.IsPlain) : Css.IsType (nodeTest compound) := by
  obtain ⟨element, conditions⟩ := compound
  cases element with
  | none => exact .inl rfl
  | some name => exact h.element name rfl

/-- The characters of a node test: no separators and delimiters. -/
theorem nodeTest_chars (h : compound.IsPlain) :
    ∀ c ∈ nodeTest compound, isIdentPart c = true ∨ c = '*' := by
  obtain hstar | ⟨hwritten, -⟩ := isType_nodeTest h
  · rw [hstar]
    exact fun c hc => .inr (List.mem_singleton.mp hc)
  · exact fun c hc => .inl (hwritten.parts c hc)

/-- No sign of the grammar stands in a node test. -/
theorem not_mem_nodeTest (h : compound.IsPlain) {c : Char} (hc : c ∈ "[]()'\"/|: ".toList) :
    c ∉ nodeTest compound := by
  have hall : ∀ c ∈ "[]()'\"/|: ".toList, isIdentPart c = false ∧ c ≠ '*' :=
    Text.forall_mem_of_all (by decide)
  obtain ⟨hchar, hstar⟩ := hall c hc
  intro hmem
  obtain hplain | heq := nodeTest_chars h c hmem
  · rw [hplain] at hchar
    cases hchar
  · exact hstar heq

theorem nodeTest_ne_nil (h : compound.IsPlain) : nodeTest compound ≠ [] :=
  (isType_nodeTest h).ended.ne_nil

/-- A node test has no white space around it. -/
theorem unpadded_nodeTest (h : compound.IsPlain) : Text.Unpadded (nodeTest compound) := by
  obtain hstar | ⟨hwritten, -⟩ := isType_nodeTest h
  · rw [hstar]
    decide
  · exact hwritten.unpadded

/-- Without colons there is no axis. -/
theorem splitFirst?_eq_none {cs : List Char} (h : ':' ∉ cs) :
    Text.splitFirst? [':', ':'] cs = none := by
  induction cs with
  | nil => rfl
  | cons c cs ih =>
      obtain ⟨hc, hcs⟩ := List.ne_and_not_mem_of_not_mem_cons h
      rw [Text.splitFirst?, Text.stripPrefix?, if_neg hc, ih hcs]
      rfl

/-- A step is cut into its axis, its node test and its tests. -/
theorem stepSelector_brackets {head axis test : List Char} {tests : List (List Char)}
    (hhead : '[' ∉ head)
    (haxis : (Text.splitFirst? [':', ':'] head).getD ("child".toList, head) = (axis, test))
    (htests : ∀ t ∈ tests, Nesting.start.pass? t = some .start ∧ Text.Unpadded t) :
    stepSelector (head ++ brackets tests) pending = (do
      let element ← testElement (Text.trim test)
      let (combinator, element, predicates) ←
        stepCombinator (Text.trim axis) pending element tests
      let conditions ← predicates.mapM predicateSelector
      return (combinator, compoundText element conditions.flatten)) := by
  have hspan : (head ++ brackets tests).span (· ≠ '[') = (head, brackets tests) := by
    refine Text.span_append (fun c hc => ?_) fun c hc => ?_
    · exact decide_eq_true fun heq => hhead (heq ▸ hc)
    · cases tests with
      | nil => cases hc
      | cons test tests =>
          obtain rfl := Option.some.inj hc
          rfl
  rw [stepSelector, hspan]
  simp only [haxis]
  rw [brackets, splitPredicates_brackets htests]
  rfl

/-! ## what comes back -/

/-- The element that comes back of a compound selector. An adjacent sibling has its name in a
literal, where any name can stand. -/
def restoredElement (combinator : Css.Combinator) (compound : Css.Compound) :
    Except Obstacle (Option (List Char)) :=
  match combinator with
  | .adjacent => .ok (tested compound)
  | _ => testElement (nodeTest compound)

/-- The text that comes back of a compound selector behind a combinator. -/
def restored (combinator : Css.Combinator) (compound : Css.Compound) :
    Except (Failure Obstacle) (List Char) := do
  let element ← restoredElement combinator compound
  let conditions ← (testsOf compound).mapM predicateSelector
  return compoundText element conditions.flatten

/-- A step whose predicates are those of a compound selector, perhaps behind one of the axis. -/
theorem stepSelector_compound (pending : Css.Combinator) (extra : List (List Char))
    (h : compound.IsPlain)
    {head axis test : List Char} {f : Option (List Char) → Option (List Char)} (hhead : '[' ∉ head)
    (haxis : (Text.splitFirst? [':', ':'] head).getD ("child".toList, head) = (axis, test))
    (hextra : ∀ t ∈ extra, Nesting.start.pass? t = some .start ∧ Text.Unpadded t)
    (hcombinator : ∀ element,
      stepCombinator (Text.trim axis) pending element (extra ++ testsOf compound) =
        .ok (combinator, f element, testsOf compound)) :
    stepSelector (head ++ brackets (extra ++ testsOf compound)) pending = (do
      let element ← testElement (Text.trim test)
      let conditions ← (testsOf compound).mapM predicateSelector
      return compoundText (f element) conditions.flatten :
        Except (Failure Obstacle) (List Char)).map (combinator, ·) := by
  have htests : ∀ t ∈ extra ++ testsOf compound,
      Nesting.start.pass? t = some .start ∧ Text.Unpadded t := by
    intro t ht
    obtain ht | ht := List.mem_append.mp ht
    · exact hextra t ht
    · have htest := enclosable_testsOf h t ht
      exact ⟨htest.pass, htest.unpadded⟩
  rw [stepSelector_brackets hhead haxis htests]
  cases testElement (Text.trim test) with
  | error e => rfl
  | ok element =>
      simp only [Outcome.lift_ok, Outcome.ok_bind, hcombinator]
      cases (testsOf compound).mapM predicateSelector <;> rfl

/-- A compound on the child axis comes back with the combinator that is pending. -/
theorem stepSelector_child (h : compound.IsPlain) :
    stepSelector (nodeTest compound ++ predicates compound.conditions) pending =
      (restored .child compound).map (pending, ·) := by
  have hcolon := not_mem_nodeTest h (show ':' ∈ "[]()'\"/|: ".toList by decide)
  have haxis : (Text.splitFirst? [':', ':'] (nodeTest compound)).getD
      ("child".toList, nodeTest compound) = ("child".toList, nodeTest compound) := by
    rw [splitFirst?_eq_none hcolon]
    rfl
  have hstep := stepSelector_compound pending [] h
    (not_mem_nodeTest h (by decide)) haxis nofun fun _ => rfl
  rw [Text.trim_eq_self (unpadded_nodeTest h)] at hstep
  rw [predicates_eq]
  exact hstep

/-- A compound below comes back with the combinator for descendants. -/
theorem stepSelector_descendant (h : compound.IsPlain) :
    stepSelector ("descendant-or-self::".toList ++ nodeTest compound ++
      predicates compound.conditions) pending =
        (restored .descendant compound).map (.descendant, ·) := by
  have hbracket := not_mem_nodeTest h (show '[' ∈ "[]()'\"/|: ".toList by decide)
  have haxis : (Text.splitFirst? [':', ':'] ("descendant-or-self::".toList ++
      nodeTest compound)).getD ("child".toList, "descendant-or-self::".toList ++
        nodeTest compound) = ("descendant-or-self".toList, nodeTest compound) := rfl
  have hstep := stepSelector_compound pending [] h
    (List.not_mem_append (by decide) hbracket) haxis nofun fun _ => rfl
  rw [Text.trim_eq_self (unpadded_nodeTest h)] at hstep
  rw [predicates_eq]
  exact hstep

/-- A compound behind comes back with the combinator for siblings. -/
theorem stepSelector_sibling (h : compound.IsPlain) :
    stepSelector ("following-sibling::".toList ++ nodeTest compound ++
      predicates compound.conditions) pending =
        (restored .sibling compound).map (.sibling, ·) := by
  have hbracket := not_mem_nodeTest h (show '[' ∈ "[]()'\"/|: ".toList by decide)
  have hcombinator : ∀ element, stepCombinator "following-sibling".toList pending element
      (testsOf compound) = .ok (.sibling, element, testsOf compound) := by
    intro element
    unfold stepCombinator
    rw [if_neg (by decide), if_neg (by decide), if_pos rfl]
    cases htests : testsOf compound with
    | nil => rfl
    | cons first others =>
        have hmem : first ∈ testsOf compound := by
          rw [htests]
          exact List.mem_cons_self
        simp only [(enclosable_testsOf h first hmem).not_adjacent]
  have haxis : (Text.splitFirst? [':', ':'] ("following-sibling::".toList ++
      nodeTest compound)).getD ("child".toList, "following-sibling::".toList ++
        nodeTest compound) = ("following-sibling".toList, nodeTest compound) := rfl
  have hstep := stepSelector_compound pending [] h (List.not_mem_append (by decide) hbracket) haxis
    nofun hcombinator
  rw [Text.trim_eq_self (unpadded_nodeTest h)] at hstep
  rw [predicates_eq]
  exact hstep

/-- The test for an adjacent sibling, with its name if it has one. -/
def adjacentTest (compound : Css.Compound) : List Char :=
  if nodeTest compound = ['*'] then "position() = 1".toList
  else "(name() = ".toList ++ (literal (nodeTest compound) ++ ") and (position() = 1)".toList)

theorem quotes_nodeTest (h : compound.IsPlain) :
    ¬('"' ∈ nodeTest compound ∧ '\'' ∈ nodeTest compound) :=
  fun hquotes => not_mem_nodeTest h (by decide) hquotes.1

/-- The test for the next sibling is recognised with its type. -/
theorem adjacent_adjacentTest (h : compound.IsPlain) :
    Recogniser.adjacent (adjacentTest compound) = some (tested compound) := by
  rw [adjacentTest, tested_eq]
  split
  · rfl
  · have hsibling : Recogniser.siblingName ("(name() = ".toList ++
        (literal (nodeTest compound) ++ ") and (position() = 1)".toList)) =
          some (some (nodeTest compound), "(position() = 1)".toList) := by
      refine (Recogniser.bind_of_eq (Recogniser.equalsSign_append
        (Recogniser.unblank_literal _ _))).trans ?_
      exact Recogniser.bind_of_eq (Recogniser.quoted_literal (quotes_nodeTest h))
    exact Recogniser.bind_of_eq hsibling

/-- The test for the next sibling can stand in brackets. -/
theorem pass?_adjacentTest (h : compound.IsPlain) :
    Nesting.start.pass? (adjacentTest compound) = some .start ∧
      Text.Unpadded (adjacentTest compound) := by
  rw [adjacentTest]
  split
  · exact ⟨rfl, by decide⟩
  · have hliteral := Nesting.pass?_literal (d := 1) (quotes_nodeTest h)
    refine ⟨Nesting.pass?_append rfl (Nesting.pass?_append hliteral rfl), ?_⟩
    have hended : Text.Ended ") and (position() = 1)".toList :=
      ⟨") and (position() = 1".toList, ')', by decide, by decide⟩
    exact ((hended.append _).append _).unpadded (Text.unblank_cons (by decide))

/-- A compound right behind comes back with the combinator for the next sibling. -/
theorem stepSelector_adjacent (h : compound.IsPlain) :
    stepSelector ("following-sibling::*".toList ++
      brackets ([adjacentTest compound] ++ testsOf compound)) pending =
        (restored .adjacent compound).map (.adjacent, ·) := by
  have hcombinator : ∀ element, stepCombinator "following-sibling".toList pending element
      ([adjacentTest compound] ++ testsOf compound) =
        .ok (.adjacent, (tested compound).or element, testsOf compound) := by
    intro element
    unfold stepCombinator
    rw [if_neg (by decide), if_neg (by decide), if_pos rfl]
    simp only [List.singleton_append, adjacent_adjacentTest h]
    cases tested compound <;> rfl
  have haxis : (Text.splitFirst? [':', ':'] "following-sibling::*".toList).getD
      ("child".toList, "following-sibling::*".toList) = ("following-sibling".toList, ['*']) := rfl
  have hextra : ∀ t ∈ [adjacentTest compound],
      Nesting.start.pass? t = some .start ∧ Text.Unpadded t :=
    List.forall_mem_singleton.mpr (pass?_adjacentTest h)
  have hstar : testElement (Text.trim ['*']) = .ok none := rfl
  rw [stepSelector_compound pending [adjacentTest compound] h (by decide) haxis hextra hcombinator,
    hstar, Outcome.lift_ok, Outcome.ok_bind, Option.or_none]
  rfl

/-! ## shortest texts -/

/-- The shortest compound selector with the same step. -/
def shortestCompound (compound : Css.Compound) : Css.Compound :=
  ⟨if compound.conditions.isEmpty then compound.element else tested compound,
    compound.conditions.map shortest⟩

/-- What comes back of a compound is its shortest text. -/
theorem compoundText_tested (h : compound.IsPlain) : compoundText (tested compound)
      (compound.conditions.flatMap fun condition => (shortest condition).text) =
    (shortestCompound compound).text := by
  obtain ⟨element, conditions⟩ := compound
  rw [Css.Compound.text, shortestCompound, List.flatMap_map]
  cases conditions with
  | nil =>
      cases element with
      | none => exact absurd rfl (h.nonempty rfl)
      | some name =>
          by_cases hstar : name = ['*']
          · subst hstar
            rfl
          · simp [tested_eq, nodeTest, hstar, compoundText]
  | cons condition conditions =>
      obtain ⟨c, cs, htext, -⟩ := (shortest condition).text_head
      cases htested : tested ⟨element, condition :: conditions⟩ with
      | none => simp [compoundText, compoundText.universal, htext]
      | some name =>
          have hstar : name ≠ ['*'] := by
            rw [tested_eq] at htested
            grind
          simp [compoundText, hstar]

/-- The shortest form has the same node test. -/
theorem nodeTest_shortestCompound (compound : Css.Compound) :
    nodeTest (shortestCompound compound) = nodeTest compound := by
  obtain ⟨element, conditions⟩ := compound
  cases conditions with
  | nil => rfl
  | cons condition conditions =>
      cases element with
      | none => rfl
      | some name =>
          by_cases hstar : name = ['*'] <;>
            simp [shortestCompound, tested_eq, nodeTest, hstar]

theorem predicates_shortestCompound (compound : Css.Compound) :
    predicates (shortestCompound compound).conditions = predicates compound.conditions := by
  rw [predicates, predicates, shortestCompound, List.flatMap_map]
  simp only [conditionTest_shortest]

/-- The shortest form of a compound is the same step of a path. -/
theorem step_shortestCompound (combinator : Css.Combinator) (compound : Css.Compound) :
    step combinator (shortestCompound compound) = step combinator compound := by
  cases combinator <;>
    dsimp only [step] <;> rw [nodeTest_shortestCompound, predicates_shortestCompound]

/-- The characters of names in predicates need no escape, and are no white space. -/
theorem of_isNamePart {c : Char} (h : Recogniser.isNamePart c = true) :
    isIdentPart c = true ∧ Text.isBlank c = false := by
  have hall : ∀ n < 128, Recogniser.isNamePart (Char.ofNat n) = true →
      isIdentPart (Char.ofNat n) = true := by
    decide
  have hblank : ∀ n ∈ Text.blankPoints, Recogniser.isNamePart (Char.ofNat n) = false := by
    decide +kernel
  constructor
  · by_cases hascii : c.toNat < 128
    · have hc := hall c.toNat hascii
      rw [Char.ofNat_toNat] at hc
      exact hc h
    · simp [isIdentPart, Nat.le_of_not_lt hascii]
  · by_contra hc
    rw [Bool.not_eq_false] at hc
    have hnot : Recogniser.isNamePart (Char.ofNat c.toNat) = false :=
      Text.forall_blank hblank hc
    rw [Char.ofNat_toNat, h] at hnot
    cases hnot

/-- What starts an identifier may stand in a name of a query. -/
theorem isNamePart_of_isIdentStart {c : Char} (h : isIdentStart c = true) :
    Recogniser.isNamePart c = true := by
  have hall : ∀ n < 128, isIdentStart (Char.ofNat n) = true →
      Recogniser.isNamePart (Char.ofNat n) = true := by
    decide
  have hascii : c.toNat < 128 := by
    have hle : ∀ d : Char, c ≤ d → c.toNat ≤ d.toNat := fun d => UInt32.le_iff_toNat_le.mp
    have hlast : 'z'.toNat < 128 ∧ 'Z'.toNat < 128 ∧ '_'.toNat < 128 := by decide
    simp only [isIdentStart, Bool.or_eq_true, Bool.and_eq_true, decide_eq_true_eq] at h
    obtain (hlower | hupper) | rfl := h
    · exact Nat.lt_of_le_of_lt (hle 'z' hlower.2) hlast.1
    · exact Nat.lt_of_le_of_lt (hle 'Z' hupper.2) hlast.2.1
    · exact hlast.2.2
  have hc := hall c.toNat hascii
  rw [Char.ofNat_toNat] at hc
  exact hc h

/-- An identifier can be written. -/
theorem isWritten_of_isIdent (h : isIdent value = true) : IsWritten value := by
  have hparts : value ≠ [] ∧ ∀ c ∈ value, Recogniser.isNamePart c = true := by
    unfold isIdent at h
    dsimp only at h
    split at h
    · cases h
    · next body c rest heq =>
        rw [Bool.and_eq_true, List.all_eq_true] at h
        have hbody : ∀ d ∈ c :: rest, Recogniser.isNamePart d = true :=
          List.forall_mem_cons.mpr ⟨isNamePart_of_isIdentStart h.1, h.2⟩
        split at heq
        · rw [heq]
          exact ⟨List.cons_ne_nil _ _, List.forall_mem_cons.mpr ⟨by decide, hbody⟩⟩
        · rw [heq]
          exact ⟨List.cons_ne_nil _ _, hbody⟩
  exact ⟨hparts.1, fun c hc => (of_isNamePart (hparts.2 c hc)).1,
    Text.unpadded_of_forall fun c hc => (of_isNamePart (hparts.2 c hc)).2⟩

/-- The shortest form of an attribute can be read. -/
theorem isReadable_shortestAttribute {operator : Css.AttributeOperator} (hname : IsWritten name)
    (hquotes : ¬('"' ∈ value ∧ '\'' ∈ value)) :
    (shortestAttribute name operator value).IsReadable := by
  rw [shortestAttribute]
  split
  · next h => exact isWritten_of_isIdent (Bool.and_eq_true_iff.mp h).2
  · split
    · next h => exact isWritten_of_isIdent (Bool.and_eq_true_iff.mp h).2
    · exact ⟨hname, hquotes⟩

/-- The shortest form of every plain condition can be read. -/
theorem isReadable_shortest {condition : Css.Condition} (h : condition.IsPlain) :
    (shortest condition).IsReadable := by
  have hclass : IsWritten "class".toList := Css.isWritten_of_isName (by decide)
  have hid : IsWritten "id".toList := Css.isWritten_of_isName (by decide)
  cases condition with
  | hasClass value => exact isReadable_shortestAttribute hclass h.1
  | hasId value => exact isReadable_shortestAttribute hid h
  | hasAttribute name => exact h
  | attributeIs name operator value => exact isReadable_shortestAttribute h.1 h.2.1
  | firstChild | lastChild | onlyChild | empty => trivial
  | nthChild n =>
      obtain _ | _ | k := n
      · exact h
      · trivial
      · exact h

/-- The shortest form of a plain compound can be read. -/
theorem isReadable_shortestCompound (h : compound.IsPlain) :
    (shortestCompound compound).IsReadable := by
  obtain ⟨element, conditions⟩ := compound
  refine ⟨?_, ?_, List.forall_mem_map.mpr fun condition hmem =>
    isReadable_shortest (h.conditions condition hmem)⟩
  · intro name hname
    rw [shortestCompound] at hname
    dsimp only at hname
    split at hname
    · exact h.element name hname
    · rw [tested, Option.mem_def, Option.filter_eq_some_iff] at hname
      exact h.element name hname.1
  · cases conditions with
    | nil => exact fun hnone => absurd rfl (h.nonempty hnone)
    | cons condition conditions => exact fun _ => List.cons_ne_nil _ _

/-- All names are such that they come back. -/
structure IsRestorable (combinator : Css.Combinator) (compound : Css.Compound) : Prop where
  element : combinator ≠ .adjacent → nodeTest compound = ['*'] ∨ isIdent (nodeTest compound) = true
  conditions : ∀ condition ∈ compound.conditions, ∀ name ∈ condition.attribute?, IsNamed name

/-- A node test comes back exactly if it is a star or an identifier. -/
theorem testElement_eq_ok_iff (h : compound.IsPlain) {element : Option (List Char)} :
    testElement (nodeTest compound) = .ok element ↔
      (nodeTest compound = ['*'] ∨ isIdent (nodeTest compound) = true) ∧
        element = tested compound := by
  have hnode : nodeTest compound ≠ "node()".toList := by
    intro heq
    have hparen := not_mem_nodeTest h (show '(' ∈ "[]()'\"/|: ".toList by decide)
    rw [heq] at hparen
    exact hparen (by decide)
  rw [testElement, tested_eq, decide_eq_false hnode, Bool.or_false]
  by_cases hstar : nodeTest compound = ['*']
  · simp only [hstar, decide_true, if_true, true_or, true_and, Except.ok.injEq]
    exact eq_comm
  · by_cases hident : isIdent (nodeTest compound) = true
    · simp only [hstar, hident, decide_false, Bool.false_eq_true, if_false, if_true, or_true,
        true_and, Except.ok.injEq]
      exact eq_comm
    · simp [hstar, hident]

/-- A type behind the combinator for the next sibling comes back in any case. -/
theorem restoredElement_eq_ok_iff (h : compound.IsPlain) {element : Option (List Char)} :
    restoredElement combinator compound = .ok element ↔
      (combinator ≠ .adjacent →
        nodeTest compound = ['*'] ∨ isIdent (nodeTest compound) = true) ∧
      element = tested compound := by
  cases combinator with
  | adjacent =>
      simp only [restoredElement, ne_eq, not_true_eq_false, false_implies, true_and,
        Except.ok.injEq]
      exact eq_comm
  | descendant | child | sibling => simpa [restoredElement] using testElement_eq_ok_iff h

/-- The tests come back exactly if their attributes are named, as the shortest conditions. -/
theorem mapM_predicateSelector (h : compound.IsPlain) {texts : List (List Char)} :
    (testsOf compound).mapM predicateSelector = .ok texts ↔
      (∀ condition ∈ compound.conditions, ∀ name ∈ condition.attribute?, IsNamed name) ∧
        texts = compound.conditions.map fun condition => (shortest condition).text := by
  have hiff : ∀ condition ∈ compound.conditions, ∀ text,
      predicateSelector (conditionTest condition) = .ok text ↔
        (∀ name ∈ condition.attribute?, IsNamed name) ∧ text = (shortest condition).text := by
    intro condition hmem text
    have hplain := h.conditions condition hmem
    by_cases hnamed : ∀ name ∈ condition.attribute?, IsNamed name
    · rw [predicateSelector_conditionTest hplain hnamed, Except.ok.injEq, eq_comm]
      exact (and_iff_right hnamed).symm
    · obtain ⟨name, hname, hother⟩ : ∃ name ∈ condition.attribute?, ¬IsNamed name := by
        simpa using hnamed
      obtain ⟨e, herror⟩ := exists_predicateSelector_error hplain hname hother
      rw [herror]
      exact iff_of_false nofun fun h => hnamed h.1
  have hmap : (testsOf compound).mapM predicateSelector =
      compound.conditions.mapM (predicateSelector ∘ conditionTest) := List.mapM_map
  rw [hmap]
  exact Outcome.mapM_eq_ok_iff hiff

/-- **If anything comes back of a compound selector, it is the shortest text of it.** -/
theorem restored_eq_ok_iff (h : compound.IsPlain) : restored combinator compound = .ok text ↔
    IsRestorable combinator compound ∧ text = (shortestCompound compound).text := by
  rw [restored, Outcome.bind_eq_ok]
  simp only [Outcome.lift_eq_ok, restoredElement_eq_ok_iff h, Outcome.bind_eq_ok,
    mapM_predicateSelector h, Outcome.pure_eq_ok, ← compoundText_tested h]
  constructor
  · rintro ⟨_, ⟨helement, rfl⟩, _, ⟨hnamed, rfl⟩, rfl⟩
    exact ⟨⟨helement, hnamed⟩, by rw [List.flatMap_def]⟩
  · rintro ⟨⟨helement, hnamed⟩, rfl⟩
    exact ⟨_, ⟨helement, rfl⟩, _, ⟨hnamed, rfl⟩, by rw [List.flatMap_def]⟩

end Extractor.XPath
