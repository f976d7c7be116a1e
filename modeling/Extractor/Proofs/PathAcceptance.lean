import Extractor.Proofs.SelectorMeaning
import Extractor.Proofs.XPathText
import Extractor.Query.Check

/-!
# Extractor.Proofs.PathAcceptance

The paths of selectors are XPath expressions. The tests of conditions are put
together from attributes, literals, numbers and calls of functions
(`XPath.spells_conditionTest`), a combinator adds steps to a path
(`XPath.spells_step`), and selectors make a union of paths. What is read between
two tokens is never something else: names may be those of operators or of node
types, and values may hold all kinds of signs.

* `Query.checkSyntax_cssToXPath` — every text of selectors with names in ASCII has
  a path, and the path is accepted.
-/

namespace Extractor.XPath

/-! ## tests -/

section Tests

variable {follows : List Char → Prop} {name value left right : List Char}

theorem Spells.breaks {s : Symbol} {text : List Char} (h : Spells Anything s text) :
    Spells Breaks s text :=
  h.mono fun _ _ => trivial

/-- An attribute. -/
theorem spells_attribute (hname : Css.isName name = true) : Spells Breaks .path ('@' :: name) := by
  have hstep : Spells Breaks .step (['@'] ++ (name ++ [])) :=
    .step .abbreviated (.mark rfl (by decide)) (.name _) ((Lexes.name hname).mono fun _ => .inl)
      .noPredicates fun _ h => h
  rw [List.append_nil] at hstep
  exact hstep.ofDerives fun h => .location (.relative (.step h))

theorem lexes_star : Lexes Breaks ['*'] [.star] :=
  (Lexes.mark rfl (by decide)).mono fun _ _ => trivial

theorem lexes_axis {axis : List Char} (hname : Css.isName axis = true) :
    Lexes Anything (axis ++ "::".toList) [.name (String.ofList axis), .doubleColon] :=
  (Lexes.name hname).append (.pair (by decide) rfl) fun _ _ => .inr ⟨_, rfl⟩

/-- All elements on an axis. -/
theorem spells_axis {axis : List Char} (hname : Css.isName axis = true)
    (haxis : String.ofList axis ∈ axes) : Spells Breaks .path (axis ++ "::*".toList) := by
  have hstep : Spells Breaks .step ((axis ++ "::".toList) ++ (['*'] ++ [])) :=
    .step (.named haxis) (lexes_axis hname) .any lexes_star .noPredicates fun _ h => h
  rw [List.append_nil, List.append_assoc] at hstep
  exact hstep.ofDerives fun h => .location (.relative (.step h))

theorem spells_star : Spells Breaks .path ['*'] := by
  have hstep : Spells Breaks .step ([] ++ (['*'] ++ [])) :=
    .step .none .nil .any lexes_star .noPredicates fun _ h => h
  exact hstep.ofDerives fun h => .location (.relative (.step h))

theorem spells_equality (hleft : Spells Breaks .path left) (hright : Spells follows .path right) :
    Spells follows (.binary .equality) (left ++ (" = ".toList ++ right)) := by
  have hsign : Lexes Anything " = ".toList [.eq] :=
    Lexes.blank.append ((Lexes.mark rfl (by decide)).append .blank fun _ _ => trivial) fun _ _ =>
      trivial
  exact (hleft.operand .equality).operator (by decide) hsign (hright.operand .relational)
    fun _ => breaks_cons (by decide)

theorem spells_and (hleft : Spells Breaks (.binary .and) left)
    (hright : Spells follows (.binary .equality) right) :
    Spells follows (.binary .and) (left ++ (" and ".toList ++ right)) := by
  have hsign : Lexes Anything " and ".toList [.name "and"] := @Lexes.word "and".toList (by decide)
  exact hleft.operator (by decide) hsign hright fun _ => breaks_cons (by decide)

theorem spells_or (hleft : Spells Breaks (.binary .or) left)
    (hright : Spells follows (.binary .and) right) :
    Spells follows (.binary .or) (left ++ (" or ".toList ++ right)) := by
  have hsign : Lexes Anything " or ".toList [.name "or"] := @Lexes.word "or".toList (by decide)
  exact hleft.operator (by decide) hsign hright fun _ => breaks_cons (by decide)

/-- A function of one argument. -/
theorem spells_function {function text : List Char} (hname : Css.isName function = true)
    (hfunction : String.ofList function ∉ nodeTypes) (h : Spells Breaks .path text) :
    Spells Anything .path (function ++ '(' :: (text ++ [')'])) :=
  .callWith hname hfunction (.argument (h.operand .or))

/-- A function of two arguments. -/
theorem spells_function₂ {function : List Char} (hname : Css.isName function = true)
    (hfunction : String.ofList function ∉ nodeTypes) (hleft : Spells Breaks .path left)
    (hright : Spells Breaks .expression right) :
    Spells Anything .path (function ++ '(' :: (left ++ (", ".toList ++ right) ++ [')'])) :=
  .callWith hname hfunction (.arguments (hleft.operand .or) (.argument hright))

/-- The test for a word of an attribute is a conjunction, and so is every test of an attribute. -/
theorem spells_wordTest {word : List Char} (hname : Css.isName name = true)
    (hword : ¬('"' ∈ word ∧ '\'' ∈ word)) :
    Spells Breaks (.binary .and) (wordTest name word) := by
  have hpadded : ¬('"' ∈ ' ' :: (word ++ [' ']) ∧ '\'' ∈ ' ' :: (word ++ [' '])) := by
    simpa using hword
  have hblank : Spells Breaks .path "' '".toList :=
    (@Spells.literal [' '] (by decide)).breaks
  have hnormalize := @spells_function "normalize-space".toList _ (by decide) (by decide)
    (spells_attribute hname)
  have hconcat := @Spells.callWith _ "concat".toList (by decide) (by decide)
    (.arguments (hblank.operand .or)
      (.arguments (hnormalize.breaks.operand .or) (.argument (hblank.operand .or))))
  have hcontains := @spells_function₂ _ _ "contains".toList (by decide) (by decide) hconcat.breaks
    ((Spells.literal hpadded).breaks.operand .or)
  have hand := spells_and ((spells_attribute hname).operand .and)
    (hcontains.breaks.operand .equality)
  simpa only [wordTest, String.reduceToList, List.append_assoc, List.cons_append, List.nil_append]
    using hand

theorem spells_attributeTest (operator : Css.AttributeOperator) (hname : Css.isName name = true)
    (hvalue : ¬('"' ∈ value ∧ '\'' ∈ value)) :
    Spells Breaks (.binary .and) (attributeTest name operator value) := by
  have hsubject := spells_attribute hname
  have hliteral : Spells Breaks .path (literal value) := (Spells.literal hvalue).breaks
  have hequality := spells_equality hsubject hliteral
  -- most tests say first that the attribute is there
  have hand {test : List Char} (htest : Spells Breaks (.binary .equality) test) :=
    spells_and (hsubject.operand .and) htest
  cases operator with
  | equals =>
      simpa only [attributeTest, String.reduceToList, List.append_assoc, List.cons_append,
        List.nil_append] using hequality.loosen (b := .and)
  | word => exact spells_wordTest hname hvalue
  | dash =>
      have hdashed : ¬('"' ∈ value ++ ['-'] ∧ '\'' ∈ value ++ ['-']) := by simpa using hvalue
      have hstarts := @spells_function₂ _ _ "starts-with".toList (by decide) (by decide) hsubject
        ((Spells.literal hdashed).breaks.operand .or)
      have hor := spells_or (hequality.loosen (b := .and)).loosen (hstarts.breaks.operand .and)
      have htest := hand (hor.parentheses.breaks.operand .equality)
      simpa only [attributeTest, String.reduceToList, List.append_assoc, List.cons_append,
        List.nil_append] using htest
  | starts =>
      have hstarts := @spells_function₂ _ _ "starts-with".toList (by decide) (by decide) hsubject
        (hliteral.operand .or)
      have htest := hand (hstarts.breaks.operand .equality)
      simpa only [attributeTest, String.reduceToList, List.append_assoc, List.cons_append,
        List.nil_append] using htest
  | ends =>
      have hlength := @spells_function "string-length".toList _ (by decide) (by decide) hsubject
      have hminus := (hlength.operand .additive).operator (by decide)
        (.mark (c := '-') rfl (by decide))
        ((Spells.numeral (value.length - 1)).operand .multiplicative) fun _ => trivial
      have hexpression : Spells Breaks .expression _ :=
        (((hminus.loosen (b := .relational)).loosen (b := .equality)).loosen (b := .and)).loosen
      have hsubstring := @spells_function₂ _ _ "substring".toList (by decide) (by decide) hsubject
        hexpression
      have htest := hand (spells_equality hsubstring.breaks hliteral)
      simpa only [attributeTest, String.reduceToList, List.append_assoc, List.cons_append,
        List.nil_append] using htest
  | contains =>
      have hcontains := @spells_function₂ _ _ "contains".toList (by decide) (by decide) hsubject
        (hliteral.operand .or)
      have htest := hand (hcontains.breaks.operand .equality)
      simpa only [attributeTest, String.reduceToList, List.append_assoc, List.cons_append,
        List.nil_append] using htest

/-- The number of elements on an axis. -/
theorem spells_count {axis : List Char} (hname : Css.isName axis = true)
    (haxis : String.ofList axis ∈ axes) (n : Nat) :
    Spells Breaks (.binary .equality)
      ("count(".toList ++ (axis ++ ("::*) = ".toList ++ numeral n))) := by
  have hcount := @spells_function "count".toList _ (by decide) (by decide) (spells_axis hname haxis)
  simpa only [String.reduceToList, List.append_assoc, List.cons_append, List.nil_append]
    using spells_equality hcount.breaks (.numeral n)

theorem not_quotes_of_isIdentifier (h : Css.isIdentifier name = true) :
    ¬('"' ∈ name ∧ '\'' ∈ name) :=
  (Css.isWritten_of_isIdentifier h).quotes

/-- **The test of a condition is an expression.** -/
theorem spells_conditionTest {condition : Css.Condition} (h : condition.InGrammar) :
    Spells Breaks .expression (conditionTest condition) := by
  have hpreceding := @spells_count "preceding-sibling".toList (by decide) (by decide)
  have hfollowing := @spells_count "following-sibling".toList (by decide) (by decide)
  have hzero : numeral 0 = ['0'] := by decide
  suffices hand : Spells Breaks (.binary .and) (conditionTest condition) from hand.loosen
  cases condition with
  | hasClass name => exact spells_wordTest (by decide) (not_quotes_of_isIdentifier h)
  | hasId name =>
      have hid := @spells_attributeTest "id".toList name .equals (by decide)
        (not_quotes_of_isIdentifier h)
      dsimp only [conditionTest]
      simpa only [attributeTest, String.reduceToList, List.cons_append,
        List.nil_append] using hid
  | hasAttribute name => exact (spells_attribute h).operand .and
  | attributeIs name operator value => exact spells_attributeTest operator h.1 h.2
  | firstChild =>
      dsimp only [conditionTest]
      simpa only [hzero, String.reduceToList, List.cons_append, List.nil_append]
        using (hpreceding 0).loosen (b := .and)
  | lastChild =>
      dsimp only [conditionTest]
      simpa only [hzero, String.reduceToList, List.cons_append, List.nil_append]
        using (hfollowing 0).loosen (b := .and)
  | onlyChild =>
      dsimp only [conditionTest]
      simpa only [hzero, String.reduceToList, List.cons_append, List.nil_append]
        using spells_and ((hpreceding 0).loosen (b := .and)) (hfollowing 0)
  | empty =>
      have hlength := @Spells.call "string-length".toList (by decide) (by decide)
      have hchildren := @spells_function "not".toList _ (by decide) (by decide) spells_star
      have htext := @spells_function "not".toList _ (by decide) (by decide) hlength.breaks
      dsimp only [conditionTest]
      simpa only [String.reduceToList, List.cons_append, List.nil_append]
        using spells_and (hchildren.breaks.operand .and) (htext.breaks.operand .equality)
  | nthChild n =>
      dsimp only [conditionTest]
      simpa only [String.reduceToList, List.cons_append, List.nil_append]
        using (hpreceding (n - 1)).loosen (b := .and)

end Tests

/-! ## steps -/

section Steps

variable {conditions : List Css.Condition} {compound : Css.Compound} {left : List Char}

/-- The predicates of a compound are predicates of a query. -/
theorem spells_predicates (h : ∀ condition ∈ conditions, condition.InGrammar) :
    Spells Breaks .predicates (predicates conditions) := by
  induction conditions with
  | nil => exact .noPredicates
  | cons condition conditions ih =>
      obtain ⟨hcondition, hconditions⟩ := List.forall_mem_cons.mp h
      exact .predicates (spells_conditionTest hcondition) (ih hconditions)

/-- Predicates do not run into what is in front of them. -/
theorem breaks_predicates (conditions : List Css.Condition) {rest : List Char} (h : Breaks rest) :
    Breaks (predicates conditions ++ rest) := by
  cases conditions with
  | nil => exact h
  | cons condition conditions => exact breaks_cons (by decide)

/-- A node test is a star or a name. -/
theorem nodeTest_cases (h : compound.InGrammar) :
    nodeTest compound = ['*'] ∨ Css.isName (nodeTest compound) = true := by
  obtain ⟨element, conditions⟩ := compound
  cases element with
  | none => exact .inl rfl
  | some name => exact h.element name rfl

theorem lexes_nodeTest (h : compound.InGrammar) :
    ∃ ts, IsNodeTest ts ∧ Lexes Breaks (nodeTest compound) ts := by
  obtain hstar | hname := nodeTest_cases h
  · exact ⟨_, .any, hstar ▸ lexes_star⟩
  · exact ⟨_, .name _, (Lexes.name hname).mono fun _ => .inl⟩

theorem head?_name {name : List Char} (hname : Css.isName name = true) (rest : List Char) :
    (name ++ rest).head? ≠ some '/' := by
  cases name with
  | nil => contradiction
  | cons c cs =>
      rw [Css.isName, Bool.and_eq_true] at hname
      intro hslash
      obtain rfl := Option.some.inj hslash
      exact absurd hname.1 (by decide)

theorem head?_nodeTest (h : compound.InGrammar) (rest : List Char) :
    (nodeTest compound ++ rest).head? ≠ some '/' := by
  obtain hstar | hname := nodeTest_cases h
  · rw [hstar]
    simp
  · exact head?_name hname rest

/-- A compound selector behind an axis. -/
theorem spells_compound {axis : List Char} {as : List Token} (h : compound.InGrammar)
    (hisAxis : IsAxis as) (haxis : Lexes Anything axis as) :
    Spells Breaks .step (axis ++ (nodeTest compound ++ predicates compound.conditions)) := by
  obtain ⟨ts, hisTest, htest⟩ := lexes_nodeTest h
  exact .step hisAxis haxis hisTest htest (spells_predicates h.conditions) fun _ hrest =>
    breaks_predicates compound.conditions hrest

/-- The first of the elements on an axis. -/
theorem spells_position : Spells Breaks (.binary .equality) "position() = 1".toList :=
  spells_equality (@Spells.call "position".toList (by decide) (by decide)).breaks (.numeral 1)

/-- The first of the elements on an axis, with a name. -/
theorem spells_named {name : List Char} (hname : Css.isName name = true) :
    Spells Breaks .expression
      ("(name() = ".toList ++ literal name ++ ") and (position() = 1)".toList) := by
  have hquotes := not_quotes_of_isIdentifier (Css.isIdentifier_of_isName hname)
  have hequality := spells_equality (@Spells.call "name".toList (by decide) (by decide)).breaks
    (Spells.literal hquotes).breaks
  have hfirst := ((hequality.loosen (b := .and)).loosen (b := .or)).parentheses
  have hsecond := ((spells_position.loosen (b := .and)).loosen (b := .or)).parentheses
  have hand := (spells_and (hfirst.breaks.operand .and) (hsecond.breaks.operand .equality)).loosen
    (b := .or)
  simpa only [String.reduceToList, List.append_assoc, List.cons_append, List.nil_append]
    using hand

/-- A step along an axis, behind a path. -/
theorem spells_along {axis test others : List Char} {ts : List Token}
    (hleft : Spells Breaks .relative left) (hname : Css.isName axis = true)
    (haxis : String.ofList axis ∈ axes) (hisTest : IsNodeTest ts) (htest : Lexes Breaks test ts)
    (hothers : Spells Breaks .predicates others)
    (hbreaks : ∀ rest, Breaks rest → Breaks (others ++ rest)) :
    Spells Breaks .relative (left ++ '/' :: (axis ++ ("::".toList ++ (test ++ others)))) := by
  have hstep := Spells.step (.named haxis) (lexes_axis hname) hisTest htest hothers hbreaks
  rw [List.append_assoc] at hstep
  exact hleft.steps hstep fun rest => by
    rw [List.append_assoc]
    exact head?_name hname _

/-- The elements that a compound selector tests, behind a path. -/
theorem spells_behind (hleft : Spells Breaks .relative left) (h : compound.InGrammar) :
    Spells Breaks .relative
      (left ++ '/' :: (nodeTest compound ++ predicates compound.conditions)) :=
  hleft.steps (spells_compound h .none .nil) fun rest => by
    rw [List.append_assoc]
    exact head?_nodeTest h _

/-- The first of the following elements, with one more predicate. -/
theorem spells_next {test : List Char} (hleft : Spells Breaks .relative left)
    (h : compound.InGrammar) (htest : Spells Breaks .expression test) :
    Spells Breaks .relative (left ++ '/' :: ("following-sibling".toList ++ ("::".toList ++ (['*'] ++
      ('[' :: (test ++ [']']) ++ predicates compound.conditions))))) :=
  spells_along hleft (by decide) (by decide) .any lexes_star
    (.predicates htest (spells_predicates h.conditions)) fun _ _ => breaks_cons (by decide)

/-- **A combinator adds steps to a path.** -/
theorem spells_step (hleft : Spells Breaks .relative left) (combinator : Css.Combinator)
    (h : compound.InGrammar) :
    Spells Breaks .relative (left ++ step combinator compound) := by
  cases combinator with
  | descendant =>
      have hall := @spells_along _ "descendant-or-self".toList _ _ _ hleft (by decide) (by decide)
        .any lexes_star .noPredicates fun _ hrest => hrest
      dsimp only [step]
      simpa only [String.reduceToList, List.append_assoc, List.cons_append, List.nil_append]
        using spells_behind hall h
  | child => exact spells_behind hleft h
  | sibling =>
      obtain ⟨ts, hisTest, htest⟩ := lexes_nodeTest h
      have hsteps := @spells_along _ "following-sibling".toList _ _ _ hleft (by decide) (by decide)
        hisTest htest (spells_predicates h.conditions) fun _ =>
          breaks_predicates compound.conditions
      dsimp only [step]
      simpa only [String.reduceToList, List.append_assoc, List.cons_append, List.nil_append]
        using hsteps
  | adjacent =>
      dsimp only [step]
      split
      · have hposition := (spells_position.loosen (b := .and)).loosen (b := .or)
        simpa only [String.reduceToList, List.append_assoc, List.cons_append, List.nil_append]
          using spells_next hleft h hposition
      · next hstar =>
          have hnamed := spells_named ((nodeTest_cases h).resolve_left hstar)
          simpa only [String.reduceToList, List.append_assoc, List.cons_append, List.nil_append]
            using spells_next hleft h hnamed

/-- A complex selector adds the steps of its tail to a path, one combinator after the other. -/
theorem spells_tail {tail : List (Css.Combinator × Css.Compound)}
    (hleft : Spells Breaks .relative left)
    (h : ∀ compound ∈ tail.map Prod.snd, compound.InGrammar) :
    Spells Breaks .relative
      (left ++ tail.flatMap fun (combinator, compound) => step combinator compound) := by
  induction tail generalizing left with
  | nil => simpa using hleft
  | cons first tail ih =>
      obtain ⟨combinator, compound⟩ := first
      obtain ⟨hcompound, htail⟩ := List.forall_mem_cons.mp h
      rw [List.flatMap_cons, ← List.append_assoc]
      exact ih (spells_step hleft combinator hcompound) htail

end Steps

/-! ## queries -/

section Queries

variable {lead : String} {selector : Css.Complex} {selectors : List Css.Complex}

/-- The path of a selector is a path of the grammar. -/
theorem spells_pathOf (hlead : lead ∈ [defaultPrefix, "//"]) (h : selector.InGrammar) :
    Spells Breaks .path (pathOf lead.toList selector) := by
  obtain ⟨hhead, htail⟩ := List.forall_mem_cons.mp h
  obtain rfl | rfl : lead = defaultPrefix ∨ lead = "//" := by simpa using hlead
  · have haxis := @lexes_axis "descendant-or-self".toList (by decide)
    have hfirst := spells_compound hhead (.named (by decide)) haxis
    have hpath := spells_tail (hfirst.ofDerives .step) htail
    simpa only [pathOf, defaultPrefix, String.reduceToList, List.append_assoc, List.cons_append,
      List.nil_append] using hpath.ofDerives fun h => .location (.relative h)
  · have hfirst := spells_compound hhead .none .nil
    have hpath := (spells_tail (hfirst.ofDerives .step) htail).everywhere
    simpa only [pathOf, List.append_assoc, List.nil_append] using hpath.ofDerives .location

/-- Further selectors are added to a union one after the other. -/
theorem spells_paths {left : List Char} (hlead : lead ∈ [defaultPrefix, "//"])
    (hleft : Spells Breaks .union left) (h : ∀ selector ∈ selectors, selector.InGrammar) :
    Spells Breaks .union
      (left ++ selectors.flatMap fun selector => " | ".toList ++ pathOf lead.toList selector) := by
  induction selectors generalizing left with
  | nil => simpa using hleft
  | cons selector selectors ih =>
      obtain ⟨hselector, hselectors⟩ := List.forall_mem_cons.mp h
      rw [List.flatMap_cons, ← List.append_assoc]
      exact ih (hleft.bar (spells_pathOf hlead hselector)) hselectors

/-- **The query of a group is an expression of the grammar.** -/
theorem spells_ofSelectors (hlead : lead ∈ [defaultPrefix, "//"]) (hne : selectors ≠ [])
    (h : ∀ selector ∈ selectors, selector.InGrammar) :
    Spells Breaks .expression (ofSelectors lead.toList selectors) := by
  obtain ⟨selector, selectors, rfl⟩ := List.exists_cons_of_ne_nil hne
  obtain ⟨hselector, hselectors⟩ := List.forall_mem_cons.mp h
  have hfirst : Spells Breaks .union (pathOf lead.toList selector) :=
    (spells_pathOf hlead hselector).ofDerives .single
  rw [ofSelectors, List.map_cons, Text.intercalate_eq_append, List.flatMap_map]
  exact (spells_paths hlead hfirst hselectors).ofDerives fun hunion => hunion.binary_of_union .or

end Queries

end Extractor.XPath

namespace Extractor.Query

/-- **The path of a selector is an expression.** Every text of selectors of the grammar has a path,
under either lead, and the path is accepted. -/
theorem checkSyntax_cssToXPath {selectors : List Css.Complex} {text : List Char} {lead : String}
    (htext : Css.GroupIsText selectors text)
    (hgrammar : ∀ selector ∈ selectors, selector.InGrammar)
    (hlead : lead ∈ [XPath.defaultPrefix, "//"]) :
    ∃ path, cssToXPath (String.ofList text) lead = .ok path ∧ XPath.checkSyntax path = .ok () := by
  have hreadable := fun selector hmem => (hgrammar selector hmem).isReadable
  have hne : selectors ≠ [] := by
    rintro rfl
    cases htext
  refine ⟨String.ofList (XPath.ofSelectors lead.toList selectors), ?_, ?_⟩
  · rw [cssToXPath, String.toList_ofList, Text.trim_eq_self (htext.unpadded hreadable),
      Css.readSelectors_isText htext hreadable]
  · exact (XPath.spells_ofSelectors hlead hne hgrammar).checkSyntax fun _ hc => by simp at hc

/-- Names of operators and of node types, and values that hold quotes and brackets. -/
def operatorNames : List Css.Complex :=
  [⟨⟨some "and".toList, [.hasClass "-mod".toList]⟩,
      [(.child, ⟨some "div".toList, [.attributeIs "or".toList .word "a\"]/".toList]⟩),
        (.adjacent, ⟨some "text".toList, [.nthChild 18446744073709551615]⟩)]⟩,
    ⟨⟨none, [.attributeIs "n-1".toList .ends "it's".toList, .empty]⟩, [(.descendant, .star)]⟩]

/-- The names in a query, with the values in quotes of different kinds. -/
def operatorText : String :=
  "and.-mod > div[or~='a\"]/'] + text:nth-child(18446744073709551615), [n-1$=\"it's\"]:empty *"

theorem groupIsText_operatorNames : Css.GroupIsText operatorNames
    ("and.-mod > div[or~='a\"]/'] + text:nth-child(18446744073709551615)".toList ++
      ", ".toList ++ "[n-1$=\"it's\"]:empty *".toList) := by
  refine .cons ⟨"and.-mod".toList, _, ⟨_, .cons rfl .nil, rfl⟩, .cons ⟨_, .cons
    ⟨'\'', by decide, by decide, rfl⟩ .nil, rfl⟩ (.cons ⟨_, .cons rfl .nil, rfl⟩ .nil), ?_⟩
    (.single ⟨_, _, ⟨_, .cons ⟨'"', by decide, by decide, rfl⟩ (.cons rfl .nil), rfl⟩,
      .cons ⟨_, .nil, rfl⟩ .nil, ?_⟩)
  · decide
  · decide

/-- A group whose names are those of operators, converted with either prefix. -/
theorem checkSyntax_cssToXPath_operatorNames :
    (∃ path, cssToXPath operatorText XPath.defaultPrefix = .ok path ∧
      XPath.checkSyntax path = .ok ()) ∧
    ∃ path, cssToXPath operatorText "//" = .ok path ∧ XPath.checkSyntax path = .ok () := by
  have htext : operatorText = String.ofList
      ("and.-mod > div[or~='a\"]/'] + text:nth-child(18446744073709551615)".toList ++
        ", ".toList ++ "[n-1$=\"it's\"]:empty *".toList) := by
    decide
  rw [htext]
  exact ⟨checkSyntax_cssToXPath groupIsText_operatorNames (by decide) (by decide),
    checkSyntax_cssToXPath groupIsText_operatorNames (by decide) (by decide)⟩

end Extractor.Query
