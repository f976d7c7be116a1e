import Extractor.Proofs.PathSyntax
import Extractor.Proofs.SelectorMeaning
import Extractor.XPath.OfCss

/-!
# Extractor.Proofs.PathReading

How the query of a group of selectors is read. Each condition becomes one
expression, each combinator one or two steps (`conditionExpr`, `stepsOf`), and
the text that is written for them is cut and read as just these:

* `readsAs_conditionTest` — the test of a condition is one expression up to its bracket;
* `stepsText_tail` — the text of the later compound selectors is the rest of a path;
* `parse_ofSelectors` — the query of a group is the union of the paths of its selectors.
-/

namespace Extractor.XPath.Fragment

open Css (AttributeOperator Combinator Compound Condition)

/-! ## the paths of selectors -/

/-- That a text is one of the words of an attribute. -/
def wordExpr (name word : List Char) : Expr :=
  .and (.attribute name) (.contains
    (.concat (.literal [' ']) (.normalizeSpace (.attribute name)) (.literal [' ']))
    (.literal (' ' :: (word ++ [' ']))))

/-- What an operator states of an attribute. -/
def attributeExpr (name : List Char) : AttributeOperator → List Char → Expr
  | .equals, value => .equal (.attribute name) (.literal value)
  | .word, value => wordExpr name value
  | .dash, value => .and (.attribute name) (.or (.equal (.attribute name) (.literal value))
      (.startsWith (.attribute name) (.literal (value ++ ['-']))))
  | .starts, value => .and (.attribute name) (.startsWith (.attribute name) (.literal value))
  | .ends, value => .and (.attribute name) (.equal (.substring (.attribute name)
      (.minus (.lengthOf (.attribute name)) (.number (value.length - 1)))) (.literal value))
  | .contains, value => .and (.attribute name) (.contains (.attribute name) (.literal value))

/-- That there are so many elements on an axis. -/
def countExpr (axis : Axis) (n : Nat) : Expr := .equal (.count (.elements axis .any)) (.number n)

/-- What a condition states. -/
def conditionExpr : Condition → Expr
  | .hasClass name => wordExpr "class".toList name
  | .hasId name => .equal (.attribute "id".toList) (.literal name)
  | .hasAttribute name => .attribute name
  | .attributeIs name operator value => attributeExpr name operator value
  | .firstChild => countExpr .precedingSibling 0
  | .lastChild => countExpr .followingSibling 0
  | .onlyChild => .and (countExpr .precedingSibling 0) (countExpr .followingSibling 0)
  | .empty => .and (.not (.elements .child .any)) (.not .length)
  | .nthChild n => countExpr .precedingSibling (n - 1)

/-- The node test of a compound selector. -/
def testOf (c : Compound) : NodeTest :=
  if nodeTest c = ['*'] then .any else .named (nodeTest c)

/-- What the next sibling has to be: the first node on its axis, and of a name if one is given. -/
def nextExpr : NodeTest → Expr
  | .any => .equal .position (.number 1)
  | .named name => .and (.equal .name (.literal name)) (.equal .position (.number 1))

/-- The steps to what a combinator and a compound selector find. -/
def stepsOf (combinator : Combinator) (c : Compound) : Path :=
  let conditions := c.conditions.map conditionExpr
  match combinator with
  | .descendant => [⟨.descendantOrSelf, .any, []⟩, ⟨.child, testOf c, conditions⟩]
  | .child => [⟨.child, testOf c, conditions⟩]
  | .sibling => [⟨.followingSibling, testOf c, conditions⟩]
  | .adjacent => [⟨.followingSibling, .any, nextExpr (testOf c) :: conditions⟩]

/-- The steps of the later compound selectors. -/
def tailPath (tail : List (Combinator × Compound)) : Path :=
  tail.flatMap fun (combinator, compound) => stepsOf combinator compound

/-- The path of a complex selector. -/
def pathOf (s : Css.Complex) : Path :=
  ⟨.descendantOrSelf, testOf s.head, s.head.conditions.map conditionExpr⟩ :: tailPath s.tail

/-! ## cutting -/

variable {s s' s'' : Lexing} {a b name value : List Char} {ts us rest : List Token}

/-- The text is cut into the tokens, from one state to another. -/
def Lexed (s : Lexing) (text : List Char) (ts : List Token) (s' : Lexing) : Prop :=
  lex s text = some (ts, s')

/-- Behind a text that has been cut, cutting goes on in the state that it left. -/
theorem lex_append (ha : Lexed s a ts s') (b : List Char) :
    lex s (a ++ b) = (lex s' b).map fun (us, s'') => (ts ++ us, s'') := by
  unfold Lexed at ha
  induction a generalizing s ts with
  | nil =>
      obtain ⟨rfl, rfl⟩ := Prod.mk.inj (Option.some.inj ha)
      simp
  | cons c a ih =>
      simp only [lex, Option.bind_eq_bind, Option.bind_eq_some_iff] at ha
      obtain ⟨⟨first, t⟩, hfirst, ⟨later, t'⟩, hlater, heq⟩ := ha
      obtain ⟨rfl, rfl⟩ := Prod.mk.inj (Option.some.inj heq)
      cases hb : lex t' b <;> simp [lex, hfirst, ih hlater, hb]

/-- Two texts that are cut one behind the other are cut as one. -/
theorem Lexed.append (ha : Lexed s a ts s') (hb : Lexed s' b us s'') :
    Lexed s (a ++ b) (ts ++ us) s'' := by
  rw [Lexed, lex_append ha, hb, Option.map_some]

theorem isNameChar_of_isPlainChar {c : Char} (h : Css.isPlainChar c = true) :
    isNameChar c = true := by
  simp only [Css.isPlainChar, isNameChar, Bool.or_eq_true, decide_eq_true_eq, beq_iff_eq] at h ⊢
  tauto

/-- A character that starts a plain name opens a name. -/
theorem opening_of_isPlainStart {c : Char} (h : Css.isPlainStart c = true) :
    opening c = some ([], .inName [c]) := by
  obtain ⟨n, hn, rfl⟩ := Css.exists_ofNat_of_isPlainChar (Css.isPlainChar_of_isPlainStart h)
  revert n
  decide

/-- All characters of a name are taken into the name that is being read. -/
theorem lexed_inName {read : List Char} (h : ∀ c ∈ a, isNameChar c = true) :
    Lexed (.inName read) a [] (.inName (read ++ a)) := by
  induction a generalizing read with
  | nil => simp [Lexed, lex]
  | cons c a ih =>
      have hfirst : Lexed (.inName read) [c] [] (.inName (read ++ [c])) := by
        simp [Lexed, lex, advance, h c List.mem_cons_self]
      have hlater := hfirst.append (ih fun d hd => h d (List.mem_cons_of_mem c hd))
      rwa [List.append_assoc] at hlater

/-- A plain name leaves the reader inside that name. -/
theorem lexed_name (h : Css.isName name = true) : Lexed .between name [] (.inName name) := by
  cases name with
  | nil => contradiction
  | cons c cs =>
      rw [Css.isName, Bool.and_eq_true, List.all_eq_true] at h
      have hfirst : Lexed .between [c] [] (.inName [c]) := by
        simp [Lexed, lex, advance, opening_of_isPlainStart h.1]
      exact hfirst.append (lexed_inName fun d hd => isNameChar_of_isPlainChar (h.2 d hd))

/-- An attribute is its sign and a name that is still being read. -/
theorem lexed_attribute (h : Css.isName name = true) :
    Lexed .between ('@' :: name) [.sign '@'] (.inName name) :=
  have hat : Lexed .between ['@'] [.sign '@'] .between := rfl
  hat.append (lexed_name h)

/-- A literal is read up to its own quote and holds all that stands before it. -/
theorem lexed_inLiteral {quote : Char} {read : List Char} (h : quote ∉ a) :
    Lexed (.inLiteral quote read) (a ++ [quote]) [.literal (read ++ a)] .between := by
  induction a generalizing read with
  | nil => simp [Lexed, lex, advance]
  | cons c a ih =>
      obtain ⟨hne, hmem⟩ := not_or.mp (List.mem_cons.not.mp h)
      have hfirst : Lexed (.inLiteral quote read) [c] [] (.inLiteral quote (read ++ [c])) := by
        simp [Lexed, lex, advance, Ne.symm hne]
      have hlater := hfirst.append (ih hmem)
      rwa [List.append_assoc] at hlater

/-- A text without one of the two quotes is written as a literal that is read as that text. -/
theorem lexed_literal (h : ¬('"' ∈ value ∧ '\'' ∈ value)) :
    Lexed .between (literal value) [.literal value] .between := by
  unfold literal
  split
  · next hsingle =>
    have hopen : Lexed .between ['"'] [] (.inLiteral '"' []) := rfl
    exact hopen.append (lexed_inLiteral fun hdouble => h ⟨hdouble, hsingle⟩)
  · next hsingle =>
    have hopen : Lexed .between ['\''] [] (.inLiteral '\'' []) := rfl
    exact hopen.append (lexed_inLiteral hsingle)

/-- Digits change the number that is being read as they do in decimal notation. -/
theorem lexed_inNumber {read : Nat} (h : ∀ c ∈ a, c.isDigit = true) :
    Lexed (.inNumber read) a [] (.inNumber (Nat.ofDigitChars 10 a read)) := by
  induction a generalizing read with
  | nil => rfl
  | cons c a ih =>
      have hfirst : Lexed (.inNumber read) [c] []
          (.inNumber (10 * read + (c.toNat - '0'.toNat))) := by
        simp [Lexed, lex, advance, h c List.mem_cons_self]
      exact hfirst.append (ih fun d hd => h d (List.mem_cons_of_mem c hd))

/-- A digit opens a number, which is the value of that digit. -/
theorem opening_of_isDigit {c : Char} (h : c.isDigit = true) :
    opening c = some ([], .inNumber (c.toNat - '0'.toNat)) := by
  have hplain : Css.isPlainChar c = true := Css.isPlainChar_of_isAsciiDigit h
  obtain ⟨n, hn, rfl⟩ := Css.exists_ofNat_of_isPlainChar hplain
  clear hplain
  revert n
  decide

/-- A numeral leaves the reader inside the number that it is written for. -/
theorem lexed_numeral (n : Nat) : Lexed .between (numeral n) [] (.inNumber n) := by
  have hdigits : ∀ c ∈ numeral n, c.isDigit = true := fun c hc =>
    Nat.isDigit_of_mem_toDigits (by decide) (by decide) hc
  have hvalue : Nat.ofDigitChars 10 (numeral n) 0 = n :=
    Nat.ofDigitChars_toDigits (by decide) (by decide)
  cases hcs : numeral n with
  | nil => exact absurd hcs Nat.toDigits_ne_nil
  | cons c cs =>
      rw [hcs] at hdigits hvalue
      have hfirst : Lexed .between [c] [] (.inNumber (10 * 0 + (c.toNat - '0'.toNat))) := by
        simp [Lexed, lex, advance, opening_of_isDigit (hdigits c List.mem_cons_self)]
      have hlater := hfirst.append
        (lexed_inNumber fun d hd => hdigits d (List.mem_cons_of_mem c hd))
      have hread : Nat.ofDigitChars 10 cs (10 * 0 + (c.toNat - '0'.toNat)) = n := hvalue
      rwa [hread] at hlater

/-! ## tests -/

/-- The text and the bracket behind it are cut into tokens whose front is the expression. -/
def ReadsAs (text : List Char) (e : Expr) : Prop :=
  ∃ ts, Lexed .between (text ++ [']']) ts .between ∧ 3 ≤ ts.length ∧
    ∀ fuel rest, expression (fuel + 24) 0 (ts ++ rest) = some (e, .sign ']' :: rest)

/-- The token of a word of the language. -/
def keyword (text : String) : Token := .name text.toList

/-- A sign between tokens is a token of its own. -/
theorem lexed_bracket : Lexed .between [']'] [.sign ']'] .between := rfl

theorem lexed_close : Lexed .between [')'] [.sign ')'] .between := rfl

/-- A sign behind a name ends that name first. -/
theorem lexed_comma : Lexed (.inName name) ", ".toList [.name name, .sign ','] .between := rfl

theorem lexed_equals : Lexed (.inName name) " = ".toList [.name name, .sign '='] .between := rfl

/-- The test for a word is read as the expression for it. -/
theorem readsAs_wordTest {word : List Char} (hname : Css.isName name = true)
    (hword : ¬('"' ∈ word ∧ '\'' ∈ word)) :
    ReadsAs (wordTest name word) (wordExpr name word) := by
  have hpadded : ¬('"' ∈ ' ' :: (word ++ [' ']) ∧ '\'' ∈ ' ' :: (word ++ [' '])) := by
    simpa using hword
  have hopen : Lexed (.inName name) " and contains(concat(' ', normalize-space(@".toList
      [.name name, keyword "and", keyword "contains", .sign '(', keyword "concat", .sign '(',
        .literal [' '], .sign ',', keyword "normalize-space", .sign '(', .sign '@'] .between := rfl
  have hmiddle : Lexed (.inName name) "), ' '), ".toList
      [.name name, .sign ')', .sign ',', .literal [' '], .sign ')', .sign ','] .between := rfl
  exact ⟨_, ((((((lexed_attribute hname).append hopen).append (lexed_name hname)).append
    hmiddle).append (lexed_literal hpadded)).append lexed_close).append lexed_bracket,
    by simp, fun _ _ => rfl⟩

/-- The test of an attribute is read as the expression of its operator, one lemma for each. -/
theorem readsAs_equals (hname : Css.isName name = true) (hvalue : ¬('"' ∈ value ∧ '\'' ∈ value)) :
    ReadsAs (attributeTest name .equals value) (attributeExpr name .equals value) := by
  exact ⟨_, (((lexed_attribute hname).append lexed_equals).append (lexed_literal hvalue)).append
    lexed_bracket, by simp, fun _ _ => rfl⟩

theorem readsAs_dash (hname : Css.isName name = true) (hvalue : ¬('"' ∈ value ∧ '\'' ∈ value)) :
    ReadsAs (attributeTest name .dash value) (attributeExpr name .dash value) := by
  have hdashed : ¬('"' ∈ value ++ ['-'] ∧ '\'' ∈ value ++ ['-']) := by simpa using hvalue
  have hopen : Lexed (.inName name) " and (".toList [.name name, keyword "and", .sign '(']
      .between := rfl
  have hor : Lexed .between " or starts-with(".toList
      [keyword "or", keyword "starts-with", .sign '('] .between := rfl
  have hclose : Lexed .between "))".toList [.sign ')', .sign ')'] .between := rfl
  exact ⟨_, ((((((((((lexed_attribute hname).append hopen).append (lexed_attribute hname)).append
    lexed_equals).append (lexed_literal hvalue)).append hor).append (lexed_attribute hname)).append
    lexed_comma).append (lexed_literal hdashed)).append hclose).append lexed_bracket,
    by simp, fun _ _ => rfl⟩

theorem readsAs_starts (hname : Css.isName name = true) (hvalue : ¬('"' ∈ value ∧ '\'' ∈ value)) :
    ReadsAs (attributeTest name .starts value) (attributeExpr name .starts value) := by
  have hopen : Lexed (.inName name) " and starts-with(".toList
      [.name name, keyword "and", keyword "starts-with", .sign '('] .between := rfl
  exact ⟨_, ((((((lexed_attribute hname).append hopen).append (lexed_attribute hname)).append
    lexed_comma).append (lexed_literal hvalue)).append lexed_close).append lexed_bracket,
    by simp, fun _ _ => rfl⟩

theorem readsAs_ends (hname : Css.isName name = true) (hvalue : ¬('"' ∈ value ∧ '\'' ∈ value)) :
    ReadsAs (attributeTest name .ends value) (attributeExpr name .ends value) := by
  have hopen : Lexed (.inName name) " and substring(".toList
      [.name name, keyword "and", keyword "substring", .sign '('] .between := rfl
  have hlength : Lexed (.inName name) ", string-length(".toList
      [.name name, .sign ',', keyword "string-length", .sign '('] .between := rfl
  have hminus : Lexed (.inName name) ")-".toList [.name name, .sign ')', .sign '-'] .between := rfl
  have hsign : Lexed (.inNumber (value.length - 1)) ") = ".toList
      [.number (value.length - 1), .sign ')', .sign '='] .between := rfl
  exact ⟨_, (((((((((lexed_attribute hname).append hopen).append (lexed_attribute hname)).append
    hlength).append (lexed_attribute hname)).append hminus).append (lexed_numeral _)).append
    hsign).append (lexed_literal hvalue)).append lexed_bracket, by simp, fun _ _ => rfl⟩

theorem readsAs_contains (hname : Css.isName name = true)
    (hvalue : ¬('"' ∈ value ∧ '\'' ∈ value)) :
    ReadsAs (attributeTest name .contains value) (attributeExpr name .contains value) := by
  have hopen : Lexed (.inName name) " and contains(".toList
      [.name name, keyword "and", keyword "contains", .sign '('] .between := rfl
  exact ⟨_, ((((((lexed_attribute hname).append hopen).append (lexed_attribute hname)).append
    lexed_comma).append (lexed_literal hvalue)).append lexed_close).append lexed_bracket,
    by simp, fun _ _ => rfl⟩

/-- The test for a place among the siblings is read as a comparison with a count. -/
theorem readsAs_nthChild (n : Nat) :
    ReadsAs (conditionTest (.nthChild n)) (conditionExpr (.nthChild n)) := by
  have hopen : Lexed .between "count(preceding-sibling::*) = ".toList
      [keyword "count", .sign '(', keyword "preceding-sibling", .doubleColon, .sign '*', .sign ')',
        .sign '='] .between := rfl
  have hclose : Lexed (.inNumber (n - 1)) [']'] [.number (n - 1), .sign ']'] .between := rfl
  exact ⟨_, (hopen.append (lexed_numeral (n - 1))).append hclose, by simp, fun _ _ => rfl⟩

/-- **The test of a condition is read as its expression**, whatever the condition. -/
theorem readsAs_conditionTest {condition : Condition} (h : condition.InGrammar) :
    ReadsAs (conditionTest condition) (conditionExpr condition) := by
  cases condition with
  | hasClass name =>
      have hclass : Css.isName "class".toList = true := by decide
      exact readsAs_wordTest hclass (Css.isWritten_of_isIdentifier h).quotes
  | hasId name =>
      have hid : Css.isName "id".toList = true := by decide
      exact readsAs_equals hid (Css.isWritten_of_isIdentifier h).quotes
  | hasAttribute name =>
      have hclose : Lexed (.inName name) [']'] [.name name, .sign ']'] .between := rfl
      exact ⟨_, (lexed_attribute h).append hclose, by simp, fun _ _ => rfl⟩
  | attributeIs name operator value =>
      cases operator with
      | equals => exact readsAs_equals h.1 h.2
      | word => exact readsAs_wordTest h.1 h.2
      | dash => exact readsAs_dash h.1 h.2
      | starts => exact readsAs_starts h.1 h.2
      | ends => exact readsAs_ends h.1 h.2
      | contains => exact readsAs_contains h.1 h.2
  | firstChild => exact readsAs_nthChild 1
  | lastChild =>
      exact ⟨[keyword "count", .sign '(', keyword "following-sibling", .doubleColon, .sign '*',
        .sign ')', .sign '=', .number 0, .sign ']'], rfl, by simp, fun _ _ => rfl⟩
  | onlyChild =>
      have hfirst : Lexed .between "count(preceding-sibling::*) = 0 and ".toList
          [keyword "count", .sign '(', keyword "preceding-sibling", .doubleColon, .sign '*',
            .sign ')', .sign '=', .number 0, keyword "and"] .between := rfl
      have hlast : Lexed .between "count(following-sibling::*) = 0]".toList
          [keyword "count", .sign '(', keyword "following-sibling", .doubleColon, .sign '*',
            .sign ')', .sign '=', .number 0, .sign ']'] .between := rfl
      have htext : conditionTest .onlyChild ++ [']'] = "count(preceding-sibling::*) = 0 and ".toList
          ++ "count(following-sibling::*) = 0]".toList := by decide
      rw [ReadsAs, htext]
      exact ⟨_, hfirst.append hlast, by simp, fun _ _ => rfl⟩
  | empty =>
      exact ⟨[keyword "not", .sign '(', .sign '*', .sign ')', keyword "and", keyword "not",
        .sign '(', keyword "string-length", .sign '(', .sign ')', .sign ')', .sign ']'], rfl,
        by simp, fun _ _ => rfl⟩
  | nthChild n => exact readsAs_nthChild n

theorem readsAs_next : ReadsAs "position() = 1".toList (nextExpr .any) :=
  ⟨[keyword "position", .sign '(', .sign ')', .sign '=', .number 1, .sign ']'], rfl, by simp,
    fun _ _ => rfl⟩

/-- The test for the next element of a name is read as two comparisons. -/
theorem readsAs_nextNamed (hname : Css.isName name = true) :
    ReadsAs ("(name() = ".toList ++ literal name ++ ") and (position() = 1)".toList)
      (nextExpr (.named name)) := by
  have hopen : Lexed .between "(name() = ".toList
      [.sign '(', keyword "name", .sign '(', .sign ')', .sign '='] .between := rfl
  have hclose : Lexed .between ") and (position() = 1)".toList
      [.sign ')', keyword "and", .sign '(', keyword "position", .sign '(', .sign ')', .sign '=',
        .number 1, .sign ')'] .between := rfl
  exact ⟨_, ((hopen.append (lexed_literal (Css.isWritten_of_isName hname).quotes)).append
    hclose).append lexed_bracket, by simp, fun _ _ => rfl⟩

/-! ## predicates -/

/-- With fuel for every token, the predicates in front of the tokens are read. -/
def PredicatesRead (tokens : List Token) (es : List Expr) (rest : List Token) : Prop :=
  ∀ fuel, 8 * tokens.length < fuel → predicates fuel tokens = some (es, rest)

/-- A step ends here. -/
def Stops (rest : List Token) : Prop := ∀ t ∈ rest.head?, t = .sign '/' ∨ t = .sign '|'

/-- Where no bracket follows there are no predicates. -/
theorem Stops.predicatesRead (h : Stops rest) : PredicatesRead rest [] rest := by
  intro fuel hfuel
  obtain ⟨fuel, rfl⟩ := Nat.exists_eq_succ_of_ne_zero (Nat.ne_zero_of_lt hfuel)
  cases rest with
  | nil => rfl
  | cons t rest =>
      obtain rfl | rfl := h t rfl
      · rfl
      · rfl

/-- A name ends here. -/
def Breaks (text : List Char) : Prop := ∀ c ∈ text.head?, isNameChar c = false

/-- A text starts apart from the name before it if its first part does. -/
theorem Breaks.append (ha : Breaks a) (hb : Breaks b) : Breaks (a ++ b) := by
  cases a with
  | nil => exact hb
  | cons c a => exact ha

/-- The text is that of some predicates. -/
structure PredicateText (text : List Char) (es : List Expr) (ts : List Token) : Prop where
  lexed : Lexed .between text ts .between
  breaks : Breaks text
  opens : ∀ t ∈ ts.head?, t = .sign '['
  read : ∀ rest, Stops rest → PredicatesRead (ts ++ rest) es rest

/-- A text without brackets has no predicates. -/
theorem PredicateText.nil : PredicateText [] [] [] where
  lexed := rfl
  breaks := nofun
  opens := nofun
  read _ h := h.predicatesRead

/-- A test in brackets puts its expression in front of the predicates behind it. -/
theorem PredicateText.cons {e : Expr} {es : List Expr} (ha : ReadsAs a e)
    (hb : PredicateText b es us) :
    ∃ ts, PredicateText ('[' :: (a ++ [']']) ++ b) (e :: es) ts := by
  obtain ⟨ts, hlexed, hlength, hread⟩ := ha
  have hopen : Lexed .between ['['] [.sign '['] .between := rfl
  refine ⟨_, (hopen.append hlexed).append hb.lexed, ?_, ?_, ?_⟩
  · rintro c ⟨⟩
    rfl
  · rintro t ⟨⟩
    rfl
  · intro rest hrest fuel hfuel
    simp only [List.length_append, List.length_singleton] at hfuel
    -- The expression takes part of the fuel only, whatever it says.
    obtain ⟨fuel, rfl⟩ := Nat.exists_eq_add_of_le' (by omega : 25 ≤ fuel)
    have hlater : predicates (fuel + 24) (us ++ rest) = some (es, rest) :=
      hb.read rest hrest _ (by simp only [List.length_append]; omega)
    change (expression (fuel + 24) 0 (ts ++ us ++ rest)).bind _ = _
    rw [List.append_assoc, hread]
    change (predicates (fuel + 24) (us ++ rest)).bind _ = _
    rw [hlater]
    rfl

/-- The predicates of a compound are read as the expressions of its conditions. -/
theorem exists_predicateText {conditions : List Condition}
    (h : ∀ condition ∈ conditions, condition.InGrammar) :
    ∃ ts, PredicateText (XPath.predicates conditions) (conditions.map conditionExpr) ts := by
  induction conditions with
  | nil => exact ⟨[], .nil⟩
  | cons condition conditions ih =>
      obtain ⟨us, hus⟩ := ih fun other hmem => h other (List.mem_cons_of_mem condition hmem)
      exact PredicateText.cons (readsAs_conditionTest (h condition List.mem_cons_self)) hus

/-! ## steps -/

/-- The text is cut into the tokens if a name ends behind it. -/
def Cuts (text : List Char) (ts : List Token) : Prop :=
  ∀ rest, Breaks rest → tokens .between (text ++ rest) = (tokens .between rest).map (ts ++ ·)

/-- The tokens of a text that has been cut stand in front of those of the rest. -/
theorem tokens_append (h : Lexed s a ts s') (b : List Char) :
    tokens s (a ++ b) = (tokens s' b).map (ts ++ ·) := by
  rw [tokens, tokens, lex_append h]
  cases lex s' b with
  | none => rfl
  | some result => cases hlast : result.2.last <;> simp [hlast]

/-- A text that ends between tokens is cut whatever follows. -/
theorem Lexed.cuts (h : Lexed .between a ts .between) : Cuts a ts := fun rest _ =>
  tokens_append h rest

/-- Texts are cut apart if the second one cannot go on with a name of the first. -/
theorem Cuts.append (ha : Cuts a ts) (hb : Cuts b us) (hbreaks : Breaks b) :
    Cuts (a ++ b) (ts ++ us) := by
  intro rest hrest
  rw [List.append_assoc, ha _ (hbreaks.append hrest), hb rest hrest, Option.map_map]
  simp [Function.comp_def]

/-- A plain name is one token, where it ends. -/
theorem cuts_name (h : Css.isName name = true) : Cuts name [.name name] := by
  intro rest hrest
  rw [tokens_append (lexed_name h)]
  cases rest with
  | nil => rfl
  | cons c rest =>
      have hadvance : advance c (.inName name) =
          (advance c .between).map fun (us, s) => (.name name :: us, s) := by
        simp [advance, hrest c rfl]
      simp only [tokens, lex, hadvance]
      cases advance c .between with
      | none => rfl
      | some first =>
          cases hlater : lex first.2 rest with
          | none => simp [hlater]
          | some later => cases hlast : later.2.last <;> simp [hlater, hlast]

/-- A node test as it is written. -/
def NodeTest.text : NodeTest → List Char
  | any => ['*']
  | named name => name

/-- The token of a node test. -/
def NodeTest.token : NodeTest → Token
  | any => .sign '*'
  | named name => .name name

/-- The name in the node test is one of the grammar. -/
def NodeTest.InGrammar : NodeTest → Prop
  | any => True
  | named name => Css.isName name = true

/-- A test of nodes is one token. -/
theorem cuts_test {test : NodeTest} (h : test.InGrammar) : Cuts test.text [test.token] := by
  cases test with
  | any =>
      have hstar : Lexed .between ['*'] [.sign '*'] .between := rfl
      exact hstar.cuts
  | named name => exact cuts_name h

/-- The text in front of a node test stands for the axis. -/
def AxisText (text : List Char) (axis : Axis) : Prop :=
  ∃ ts, Lexed .between text ts .between ∧ ∀ (test : NodeTest) rest,
    (∀ t ∈ rest.head?, t ≠ .doubleColon) →
      axisTest? (ts ++ test.token :: rest) = some (axis, test, rest)

/-- The child axis is the one that is not written. -/
theorem axisText_child : AxisText [] .child := by
  refine ⟨[], rfl, fun test rest hrest => ?_⟩
  cases test with
  | any => rfl
  | named name =>
      cases rest with
      | nil => rfl
      | cons t rest =>
          cases t with
          | doubleColon => exact absurd rfl (hrest _ rfl)
          | name | literal | number | sign => rfl

/-- The other axes are written with their names and two colons. -/
theorem axisText_descendantOrSelf : AxisText "descendant-or-self::".toList .descendantOrSelf :=
  ⟨[keyword "descendant-or-self", .doubleColon], rfl, fun test _ _ => by cases test <;> rfl⟩

theorem axisText_followingSibling : AxisText "following-sibling::".toList .followingSibling :=
  ⟨[keyword "following-sibling", .doubleColon], rfl, fun test _ _ => by cases test <;> rfl⟩

/-- With fuel for every token, the path in front of the tokens is read. -/
def PathRead (tokens : List Token) (steps : Path) (rest : List Token) : Prop :=
  ∀ fuel, 8 * tokens.length ≤ fuel → path fuel tokens = some (steps, rest)

/-- With fuel for every token, the further steps in front of the tokens are read. -/
def Continues (tokens : List Token) (later : Path) (rest : List Token) : Prop :=
  ∀ fuel, 8 * tokens.length < fuel → furtherSteps fuel tokens = some (later, rest)

/-- The text is that of a path, behind which other steps may follow. -/
def PathText (text : List Char) (steps : Path) : Prop :=
  ∃ ts, Cuts text ts ∧ ∀ rest later rest', Stops rest → Continues rest later rest' →
    PathRead (ts ++ rest) (steps ++ later) rest'

/-- The text is that of further steps, behind which others may follow. -/
def StepsText (text : List Char) (steps : Path) : Prop :=
  Breaks text ∧ ∃ ts, Cuts text ts ∧ Stops ts ∧ ∀ rest later rest', Stops rest →
    Continues rest later rest' → Continues (ts ++ rest) (steps ++ later) rest'

/-- Tokens behind which a step may end can follow each other. -/
theorem Stops.append (hts : Stops ts) (hrest : Stops rest) : Stops (ts ++ rest) := by
  cases ts with
  | nil => exact hrest
  | cons t ts => exact hts

/-- An axis, a test and predicates are read as one step. -/
theorem pathText_step {axis : Axis} {test : NodeTest} {es : List Expr} (ha : AxisText a axis)
    (htest : test.InGrammar) (hb : PredicateText b es us) :
    PathText (a ++ (test.text ++ b)) [⟨axis, test, es⟩] := by
  obtain ⟨ts, hlexed, htests⟩ := ha
  have hcuts := (cuts_test htest).append hb.lexed.cuts hb.breaks
  refine ⟨ts ++ ([test.token] ++ us), fun rest hrest => ?_, ?_⟩
  · rw [List.append_assoc, tokens_append hlexed, hcuts rest hrest, Option.map_map]
    simp [Function.comp_def]
  · intro rest later rest' hstops hlater fuel hfuel
    simp only [List.length_append, List.length_singleton] at hfuel
    obtain ⟨fuel, rfl⟩ := Nat.exists_eq_add_of_le' (by omega : 1 ≤ fuel)
    have hcolon : ∀ t ∈ (us ++ rest).head?, t ≠ .doubleColon := by
      cases us with
      | nil =>
          rintro t ht rfl
          simpa using hstops _ ht
      | cons u us =>
          rintro t ht rfl
          simpa using hb.opens _ ht
    have haxis := htests test (us ++ rest) hcolon
    have hpredicates := hb.read rest hstops fuel (by simp only [List.length_append]; omega)
    have hfurther := hlater fuel (by omega)
    simp [path, haxis, hpredicates, hfurther]

/-- Further steps go on with a path. -/
theorem PathText.append_steps {steps later : Path} (ha : PathText a steps)
    (hb : StepsText b later) : PathText (a ++ b) (steps ++ later) := by
  obtain ⟨ts, hcuts, hread⟩ := ha
  obtain ⟨hbreaks, us, hcuts', hstops, hread'⟩ := hb
  refine ⟨ts ++ us, hcuts.append hcuts' hbreaks, fun rest others rest' hrest hothers => ?_⟩
  have hlater := hread' rest others rest' hrest hothers
  rw [List.append_assoc, List.append_assoc]
  exact hread (us ++ rest) (later ++ others) rest' (hstops.append hrest) hlater

/-- A path behind a slash is read as further steps. -/
theorem PathText.stepsText {steps : Path} (h : PathText a steps) : StepsText ('/' :: a) steps := by
  obtain ⟨ts, hcuts, hread⟩ := h
  have hslash : Lexed .between ['/'] [.sign '/'] .between := rfl
  refine ⟨?_, .sign '/' :: ts, fun rest hrest => ?_, ?_, ?_⟩
  · rintro c ⟨⟩
    rfl
  · have htokens := tokens_append hslash (a ++ rest)
    rw [hcuts rest hrest, Option.map_map] at htokens
    exact htokens
  · rintro t ⟨⟩
    exact .inl rfl
  · intro rest later rest' hstops hlater fuel hfuel
    simp only [List.cons_append, List.length_cons] at hfuel
    obtain ⟨fuel, rfl⟩ := Nat.exists_eq_add_of_le' (by omega : 1 ≤ fuel)
    exact hread rest later rest' hstops hlater fuel (by omega)

theorem StepsText.nil : StepsText [] [] :=
  ⟨nofun, [], fun rest _ => by simp, nofun, fun _ _ _ _ hlater => hlater⟩

/-- Further steps may follow each other. -/
theorem StepsText.append {steps later : Path} (ha : StepsText a steps) (hb : StepsText b later) :
    StepsText (a ++ b) (steps ++ later) := by
  obtain ⟨hbreaks, ts, hcuts, hstops, hread⟩ := ha
  obtain ⟨hbreaks', us, hcuts', hstops', hread'⟩ := hb
  refine ⟨hbreaks.append hbreaks', ts ++ us, hcuts.append hcuts' hbreaks', hstops.append hstops',
    fun rest others rest' hrest hothers => ?_⟩
  have hlater := hread' rest others rest' hrest hothers
  rw [List.append_assoc, List.append_assoc]
  exact hread (us ++ rest) (later ++ others) rest' (hstops'.append hrest) hlater

/-! ## paths -/

/-- The test of a compound is written as its type. -/
theorem text_testOf (c : Compound) : (testOf c).text = nodeTest c := by
  unfold testOf
  split
  · next hstar => exact hstar.symm
  · rfl

/-- The test of a compound is in the grammar if the compound is. -/
theorem inGrammar_testOf {c : Compound} (h : c.InGrammar) : (testOf c).InGrammar := by
  unfold testOf
  split
  · trivial
  · next hne =>
    cases helement : c.element with
    | none => simp [nodeTest, helement] at hne
    | some name =>
        have hname : nodeTest c = name := by simp [nodeTest, helement]
        rw [hname] at hne ⊢
        exact (h.element name helement).resolve_left hne

/-- A compound on an axis is read as one step with its conditions. -/
theorem pathText_compound {axis : Axis} {c : Compound} (ha : AxisText a axis) (hc : c.InGrammar) :
    PathText (a ++ (nodeTest c ++ XPath.predicates c.conditions))
      [⟨axis, testOf c, c.conditions.map conditionExpr⟩] := by
  obtain ⟨us, hpredicates⟩ := exists_predicateText hc.conditions
  rw [← text_testOf c]
  exact pathText_step ha (inGrammar_testOf hc) hpredicates

/-- A descendant is two steps, the first of which goes down to any depth. -/
theorem stepsText_descendant {c : Compound} (h : c.InGrammar) :
    StepsText (step .descendant c) (stepsOf .descendant c) := by
  have hlead : "/descendant-or-self::*/".toList =
      '/' :: ("descendant-or-self::".toList ++ (NodeTest.any.text ++ [])) ++ ['/'] := rfl
  have htext : step .descendant c = '/' :: ("descendant-or-self::".toList ++
      (NodeTest.any.text ++ []) ++
        '/' :: ([] ++ (nodeTest c ++ XPath.predicates c.conditions))) := by
    dsimp only [step]
    rw [hlead]
    simp only [List.append_assoc, List.cons_append, List.nil_append]
  rw [htext]
  have hself : NodeTest.any.InGrammar := trivial
  have hchild := (pathText_compound axisText_child h).stepsText
  exact ((pathText_step axisText_descendantOrSelf hself .nil).append_steps hchild).stepsText

/-- A later sibling is a step on the axis of following siblings. -/
theorem stepsText_sibling {c : Compound} (h : c.InGrammar) :
    StepsText (step .sibling c) (stepsOf .sibling c) := by
  have hlead : "/following-sibling::".toList = '/' :: "following-sibling::".toList := rfl
  have htext : step .sibling c =
      '/' :: ("following-sibling::".toList ++ (nodeTest c ++ XPath.predicates c.conditions)) := by
    dsimp only [step]
    rw [hlead, List.append_assoc, List.cons_append]
  rw [htext]
  exact (pathText_compound axisText_followingSibling h).stepsText

/-- The next sibling is the first one on that axis, and only then its type is tested. -/
theorem stepsText_adjacent {c : Compound} (h : c.InGrammar) :
    StepsText (step .adjacent c) (stepsOf .adjacent c) := by
  obtain ⟨us, hlater⟩ := exists_predicateText h.conditions
  have hany : NodeTest.any.InGrammar := trivial
  -- In both cases the axis and its star come first, and one more predicate before the conditions.
  have hsteps : ∀ {test e}, ReadsAs test e →
      StepsText ('/' :: ("following-sibling::".toList ++ (NodeTest.any.text ++
        ('[' :: (test ++ [']']) ++ XPath.predicates c.conditions))))
        [⟨.followingSibling, .any, e :: c.conditions.map conditionExpr⟩] := by
    intro test e htest
    obtain ⟨ts, hpredicates⟩ := PredicateText.cons htest hlater
    exact (pathText_step axisText_followingSibling hany hpredicates).stepsText
  by_cases hstar : nodeTest c = ['*']
  · have hnext := hsteps readsAs_next
    rw [stepsOf, testOf, if_pos hstar]
    dsimp only [step]
    rw [if_pos hstar]
    exact hnext
  · have hnamed := inGrammar_testOf h
    rw [testOf, if_neg hstar] at hnamed
    have hnext := hsteps (readsAs_nextNamed hnamed)
    rw [stepsOf, testOf, if_neg hstar]
    dsimp only [step]
    rw [if_neg hstar]
    have hopen : "/following-sibling::*[(name() = ".toList = '/' :: ("following-sibling::".toList ++
        (NodeTest.any.text ++ '[' :: "(name() = ".toList)) := rfl
    have hclose : ") and (position() = 1)]".toList = ") and (position() = 1)".toList ++ [']'] := rfl
    rw [hopen, hclose]
    simpa only [List.append_assoc, List.cons_append] using hnext

/-- **Every combinator with its compound is read as the steps that stand for it.** -/
theorem stepsText_step {c : Compound} (combinator : Combinator) (h : c.InGrammar) :
    StepsText (step combinator c) (stepsOf combinator c) := by
  cases combinator with
  | descendant => exact stepsText_descendant h
  | child => exact (pathText_compound axisText_child h).stepsText
  | adjacent => exact stepsText_adjacent h
  | sibling => exact stepsText_sibling h

/-- The compounds behind the first one are read as the steps of all of them. -/
theorem stepsText_tail {tail : List (Combinator × Compound)}
    (h : ∀ c ∈ tail.map Prod.snd, c.InGrammar) :
    StepsText (tail.flatMap fun (combinator, c) => step combinator c) (tailPath tail) := by
  induction tail with
  | nil => exact .nil
  | cons first tail ih =>
      have hfirst := stepsText_step first.1 (h first.2 List.mem_cons_self)
      exact hfirst.append (ih fun c hc => h c (List.mem_cons_of_mem _ hc))

/-- The path of a selector is read as its steps. -/
theorem pathText_pathOf {s : Css.Complex} (h : s.InGrammar) :
    PathText (XPath.pathOf "descendant-or-self::".toList s) (pathOf s) := by
  have hhead := pathText_compound axisText_descendantOrSelf (h s.head List.mem_cons_self)
  have htail := stepsText_tail fun c hc => h c (List.mem_cons_of_mem _ hc)
  have hpath := hhead.append_steps htail
  rwa [← List.append_assoc] at hpath

/-- A path ends here. -/
def Ends (rest : List Token) : Prop := ∀ t ∈ rest.head?, t = .sign '|'

/-- At the end of a path no further steps are read. -/
theorem Ends.continues (h : Ends rest) : Continues rest [] rest := by
  intro fuel hfuel
  obtain ⟨fuel, rfl⟩ := Nat.exists_eq_add_of_le' (Nat.zero_lt_of_lt hfuel)
  cases rest with
  | nil => rfl
  | cons t rest =>
      obtain rfl := h t rfl
      rfl

/-- A selector has tokens that are read as its path, whatever may follow a path. -/
theorem exists_pathRead {s : Css.Complex} (h : s.InGrammar) :
    ∃ ts, Cuts (XPath.pathOf defaultPrefix.toList s) ts ∧
      ∀ rest, Ends rest → PathRead (ts ++ rest) (pathOf s) rest := by
  obtain ⟨ts, hcuts, hread⟩ := pathText_pathOf h
  refine ⟨ts, hcuts, fun rest hrest => ?_⟩
  have hpath := hread rest [] rest (fun t ht => .inr (hrest t ht)) hrest.continues
  rwa [List.append_nil] at hpath

/-- The paths of a group are read one by one, up to the end of the query. -/
theorem exists_union {selectors : List Css.Complex} (hne : selectors ≠ [])
    (h : ∀ s ∈ selectors, s.InGrammar) :
    ∃ ts, tokens .between (ofSelectors defaultPrefix.toList selectors) = some ts ∧
      ∀ fuel, 8 * ts.length < fuel → union fuel ts = some (selectors.map pathOf) := by
  induction selectors with
  | nil => contradiction
  | cons s selectors ih =>
      obtain ⟨ts, hcuts, hread⟩ := exists_pathRead (h s List.mem_cons_self)
      cases selectors with
      | nil =>
          have htokens := hcuts [] nofun
          have hpaths : ofSelectors defaultPrefix.toList [s] =
              XPath.pathOf defaultPrefix.toList s := by
            simp [ofSelectors]
          rw [List.append_nil] at htokens
          refine ⟨ts, by rw [hpaths, htokens]; simp [tokens, lex, Lexing.last],
            fun fuel hfuel => ?_⟩
          obtain ⟨fuel, rfl⟩ := Nat.exists_eq_add_of_le' (Nat.zero_lt_of_lt hfuel)
          have hpath := hread [] nofun fuel (by simpa using Nat.le_of_lt_succ hfuel)
          rw [List.append_nil] at hpath
          simp [union, hpath]
      | cons s' selectors =>
          obtain ⟨us, htokens, hunion⟩ := ih (by simp) fun s hs => h s (List.mem_cons_of_mem _ hs)
          have hbar : Lexed .between " | ".toList [.sign '|'] .between := rfl
          have hpaths : ofSelectors defaultPrefix.toList (s :: s' :: selectors) =
              XPath.pathOf defaultPrefix.toList s ++
                (" | ".toList ++ ofSelectors defaultPrefix.toList (s' :: selectors)) := by
            simp [ofSelectors, List.intercalate]
          refine ⟨ts ++ .sign '|' :: us, ?_, fun fuel hfuel => ?_⟩
          · have hbreaks : Breaks (" | ".toList ++
                ofSelectors defaultPrefix.toList (s' :: selectors)) := by
              rintro c ⟨⟩
              rfl
            rw [hpaths, hcuts _ hbreaks, tokens_append hbar, htokens]
            rfl
          · simp only [List.length_append, List.length_cons] at hfuel
            obtain ⟨fuel, rfl⟩ := Nat.exists_eq_add_of_le' (Nat.zero_lt_of_lt hfuel)
            have hends : Ends (.sign '|' :: us) := by
              rintro t ⟨⟩
              rfl
            have hpath := hread (.sign '|' :: us) hends fuel
              (by simp only [List.length_append, List.length_cons]; omega)
            simp [union, hpath, behind, hunion fuel (by omega)]

/-- **The query of a group of selectors is read as the paths of its selectors.** -/
theorem parse_ofSelectors {selectors : List Css.Complex} (hne : selectors ≠ [])
    (h : ∀ s ∈ selectors, s.InGrammar) :
    parse (ofSelectors defaultPrefix.toList selectors) = some (selectors.map pathOf) := by
  obtain ⟨ts, htokens, hread⟩ := exists_union hne h
  rw [parse, htokens]
  exact hread _ (by omega)

example : parse "descendant-or-self::a[@b = 'c'][not(*) and not(string-length())]/d".toList =
    some [[⟨.descendantOrSelf, .named ['a'], [.equal (.attribute ['b']) (.literal ['c']),
      .and (.not (.elements .child .any)) (.not .length)]⟩, ⟨.child, .named ['d'], []⟩]] := by
  decide +kernel

end Extractor.XPath.Fragment
