import Extractor.Proofs.TopLevel

/-!
# Extractor.Proofs.Recognition

Every test that a plain condition becomes is recognised as what it is, and gives
the shortest text of the condition back (`predicateSelector_conditionTest`),
unless the name of an attribute has characters in it that the recognisers do not
know (`exists_predicateSelector_error`).
-/

namespace Extractor.XPath

open Css (IsWritten)
open Text (Unblank)

/-! ## pieces -/

namespace Recogniser

variable {name value front rest : List Char}

/-- A text is passed only where each of its characters stands. -/
theorem fixed_eq_none {s : String} {c : Char} {cs : List Char} (hc : c ∈ s.toList) (h : c ∉ cs) :
    fixed s cs = none := by
  rw [fixed]
  generalize s.toList = piece at hc ⊢
  induction piece generalizing cs with
  | nil => contradiction
  | cons p piece ih =>
      cases cs with
      | nil => rfl
      | cons d cs =>
          obtain ⟨hd, hcs⟩ := List.ne_and_not_mem_of_not_mem_cons h
          rw [Text.stripPrefix?]
          split
          · next hp =>
              obtain rfl | hpiece := List.mem_cons.mp hc
              · exact absurd hp hd
              · exact ih hcs hpiece
          · rfl

/-- A fixed text is passed over where it stands. -/
theorem fixed_append (s : String) (rest : List Char) : fixed s (s.toList ++ rest) = some rest := by
  rw [fixed]
  induction s.toList with
  | nil => rfl
  | cons c cs ih => rw [List.cons_append, Text.stripPrefix?, if_pos rfl, ih]

/-- What can stand behind the name of an attribute. -/
def Stops (rest : List Char) : Prop := ∀ c ∈ rest.head?, isNamePart c = false

/-- The name of an attribute that is read as a whole. -/
structure IsNamed (name : List Char) : Prop where
  ne_nil : name ≠ []
  parts : ∀ c ∈ name, isNamePart c = true

/-- The name of an attribute is read up to what cannot go on with it. -/
theorem attributeName_append (hname : IsNamed name) (hrest : Stops rest) :
    attributeName ('@' :: (name ++ rest)) = some (name, rest) := by
  have hspan : (name ++ rest).span isNamePart = (name, rest) :=
    Text.span_append hname.parts hrest
  rw [attributeName, hspan]
  simp [hname.ne_nil]

/-- A quoted value is read up to its quote. -/
theorem close_append {q : Char} (h : q ∉ value) :
    quoted.close q (value ++ q :: rest) = some (value, rest) := by
  induction value with
  | nil => rw [List.nil_append, quoted.close, if_pos rfl]
  | cons c value ih =>
      obtain ⟨hc, hvalue⟩ := List.ne_and_not_mem_of_not_mem_cons h
      rw [List.cons_append, quoted.close, if_neg hc.symm, ih hvalue]
      rfl

/-- A literal is read as the text that it was written for. -/
theorem quoted_literal (h : ¬('"' ∈ value ∧ '\'' ∈ value)) :
    quoted (literal value ++ rest) = some (value, rest) := by
  unfold literal
  split
  · next hsingle =>
      rw [List.cons_append, List.append_assoc]
      exact close_append fun hdouble => h ⟨hdouble, hsingle⟩
  · next hsingle =>
      rw [List.cons_append, List.append_assoc]
      exact close_append hsingle

/-- A numeral is read up to what is no digit. -/
theorem digits_append {ds : List Char} (hds : Number.IsNumeral ds)
    (hrest : ∀ c ∈ rest.head?, Text.isWordDigit c = false) :
    digits (ds ++ rest) = some (ds, rest) := by
  have hspan : (ds ++ rest).span Text.isWordDigit = (ds, rest) := by
    refine Text.span_append (fun c hc => ?_) hrest
    have hdigit := hds.digits c hc
    obtain ⟨k, hk, rfl⟩ := Css.exists_ofNat_of_isPlainChar (Css.isPlainChar_of_isAsciiDigit hdigit)
    clear hc
    revert k
    decide
  rw [digits, hspan]
  simp [hds.ne_nil]

/-! ### white space -/

/-- A literal does not start with white space. -/
theorem unblank_literal (value rest : List Char) : Unblank (literal value ++ rest) := by
  unfold literal
  split
  · exact Text.unblank_cons (by decide)
  · exact Text.unblank_cons (by decide)

theorem unblank_digits {ds : List Char} (hds : Number.IsNumeral ds) (rest : List Char) :
    Unblank (ds ++ rest) :=
  Text.unblank_append hds.ne_nil (fun c hc =>
    (Css.of_isPlainChar (Css.isPlainChar_of_isAsciiDigit (hds.digits c hc))).2.2) rest

theorem blanks_cons (h : Unblank rest) : blanks (' ' :: rest) = rest := by
  rw [blanks, List.dropWhile_cons_of_pos (by decide)]
  exact Text.dropWhile_isBlank h

theorem equalsSign_append (h : Unblank rest) : equalsSign (" = ".toList ++ rest) = some rest :=
  congrArg some (blanks_cons h)

/-! ## forms -/

theorem stops_cons {c : Char} (hc : c ∈ " ),".toList) : Stops (c :: rest) := by
  have hall : ∀ c ∈ " ),".toList, isNamePart c = false := Text.forall_mem_of_all (by decide)
  exact fun d hd => Option.some.inj hd ▸ hall c hc

/-- The value of a step that succeeds goes to the next one. -/
theorem bind_of_eq {α β : Type} {x : Option α} {f : α → Option β} {a : α} (h : x = some a) :
    x >>= f = f a := by
  rw [h]
  rfl

/-- What stands behind the name in the test that an operator states of an attribute. -/
def testTail (name : List Char) : Css.AttributeOperator → List Char → List Char
  | .equals, value => " = ".toList ++ (literal value ++ [])
  | .word, value => " and contains(concat(' ', normalize-space(".toList ++
      '@' :: (name ++ ("), ' '), ".toList ++ (literal (' ' :: (value ++ [' '])) ++ [')'])))
  | .dash, value => " and (".toList ++ '@' :: (name ++ (" = ".toList ++ (literal value ++
      (" or starts-with(".toList ++ '@' :: (name ++ (", ".toList ++ (literal (value ++ ['-']) ++
        "))".toList)))))))
  | .starts, value => " and ".toList ++ ("starts-with(".toList ++
      '@' :: (name ++ (", ".toList ++ (literal value ++ [')']))))
  | .ends, value => " and substring(".toList ++ '@' :: (name ++ (", string-length(".toList ++
      '@' :: (name ++ (")-".toList ++ (numeral (value.length - 1) ++
        (')' :: (" = ".toList ++ (literal value ++ []))))))))
  | .contains, value => " and ".toList ++ ("contains(".toList ++
      '@' :: (name ++ (", ".toList ++ (literal value ++ [')']))))

/-- Each kind of test has its form, which reads the name and the value. -/
theorem word_testTail (hname : IsNamed name) (hquotes : ¬('"' ∈ value ∧ '\'' ∈ value))
    (hvalue : Text.Unpadded value) : word ('@' :: (name ++ testTail name .word value)) =
      some ⟨[name, name], .attributeIs name .word value⟩ := by
  have hpadded : ¬('"' ∈ ' ' :: (value ++ [' ']) ∧ '\'' ∈ ' ' :: (value ++ [' '])) := by
    simpa using hquotes
  have htrim : Text.trim (' ' :: (value ++ [' '])) = value :=
    @Text.trim_append [' '] value [' '] Text.isBlank_space Text.isBlank_space hvalue
  refine (bind_of_eq (attributeName_append hname (stops_cons (by decide)))).trans ?_
  refine (bind_of_eq (fixed_append _ _)).trans ?_
  refine (bind_of_eq (attributeName_append hname (stops_cons (by decide)))).trans ?_
  refine (bind_of_eq (fixed_append _ _)).trans ?_
  refine (bind_of_eq (quoted_literal hpadded)).trans ?_
  simp only [htrim]
  rfl

theorem dash_testTail (hname : IsNamed name) (hquotes : ¬('"' ∈ value ∧ '\'' ∈ value)) :
    dash ('@' :: (name ++ testTail name .dash value)) =
      some ⟨[name, name, name], .attributeIs name .dash value⟩ := by
  have hdashed : ¬('"' ∈ value ++ ['-'] ∧ '\'' ∈ value ++ ['-']) := by simpa using hquotes
  refine (bind_of_eq (attributeName_append hname (stops_cons (by decide)))).trans ?_
  refine (bind_of_eq (fixed_append _ _)).trans ?_
  refine (bind_of_eq (attributeName_append hname (stops_cons (by decide)))).trans ?_
  refine (bind_of_eq (equalsSign_append (unblank_literal _ _))).trans ?_
  refine (bind_of_eq (quoted_literal hquotes)).trans ?_
  refine (bind_of_eq (fixed_append _ _)).trans ?_
  refine (bind_of_eq (attributeName_append hname (stops_cons (by decide)))).trans ?_
  refine (bind_of_eq (fixed_append _ _)).trans ?_
  exact bind_of_eq (quoted_literal hdashed)

/-- The guard of a test is passed over with its name. -/
theorem guarded_append (hname : IsNamed name) :
    guarded ('@' :: (name ++ (" and ".toList ++ rest))) = some ([name], rest) :=
  (bind_of_eq (attributeName_append hname (stops_cons (by decide)))).trans
    (bind_of_eq (fixed_append " and " rest))

/-- A function of an attribute and a literal behind the test for the attribute. -/
theorem call_append (function : String) (operator : Css.AttributeOperator)
    (hname : IsNamed name) (hquotes : ¬('"' ∈ value ∧ '\'' ∈ value)) :
    call function operator ('@' :: (name ++ (" and ".toList ++ (function.toList ++
      '@' :: (name ++ (", ".toList ++ (literal value ++ [')']))))))) =
      some ⟨[name, name], .attributeIs name operator value⟩ := by
  refine (bind_of_eq (guarded_append hname)).trans ?_
  refine (bind_of_eq (fixed_append _ _)).trans ?_
  refine (bind_of_eq (attributeName_append hname (stops_cons (by decide)))).trans ?_
  refine (bind_of_eq (fixed_append "," _)).trans ?_
  refine bind_of_eq ((congrArg quoted (blanks_cons ?_)).trans (quoted_literal hquotes))
  exact unblank_literal value [')']

theorem ends_testTail (hname : IsNamed name) (hquotes : ¬('"' ∈ value ∧ '\'' ∈ value)) :
    ends ('@' :: (name ++ testTail name .ends value)) =
      some ⟨[name, name, name], .attributeIs name .ends value⟩ := by
  have hdigits : ∀ n rest, digits (blanks (numeral n ++ ')' :: rest)) =
      some (numeral n, ')' :: rest) := by
    intro n rest
    rw [blanks, numeral,
      Text.dropWhile_isBlank (unblank_digits (Number.isNumeral_toDigits n) _)]
    refine digits_append (Number.isNumeral_toDigits n) fun c hc => ?_
    obtain rfl := Option.some.inj hc
    decide
  refine (bind_of_eq (attributeName_append hname (stops_cons (by decide)))).trans ?_
  refine (bind_of_eq (fixed_append _ _)).trans ?_
  refine (bind_of_eq (attributeName_append hname (stops_cons (by decide)))).trans ?_
  refine (bind_of_eq (fixed_append _ _)).trans ?_
  refine (bind_of_eq (attributeName_append hname (stops_cons (by decide)))).trans ?_
  refine (bind_of_eq (fixed_append ")" _)).trans ?_
  refine (bind_of_eq (fixed_append "-" _)).trans ?_
  refine (bind_of_eq (hdigits _ _)).trans ?_
  refine (bind_of_eq (fixed_append ")" _)).trans ?_
  refine (bind_of_eq (equalsSign_append (unblank_literal _ _))).trans ?_
  exact bind_of_eq (quoted_literal hquotes)

theorem equals_testTail (hname : IsNamed name) (hquotes : ¬('"' ∈ value ∧ '\'' ∈ value)) :
    equals ('@' :: (name ++ testTail name .equals value)) =
      some ⟨[name], .attributeIs name .equals value⟩ := by
  refine (bind_of_eq (attributeName_append hname (stops_cons (by decide)))).trans ?_
  refine (bind_of_eq (equalsSign_append (unblank_literal _ _))).trans ?_
  exact bind_of_eq (quoted_literal hquotes)

/-! ### no other form -/

/-- A form reads the test of no other operator, as far as the forms are tried before that one's. -/
theorem word_eq_none (hname : IsNamed name) {operator : Css.AttributeOperator}
    (hoperator : operator ≠ .word) :
    word ('@' :: (name ++ testTail name operator value)) = none := by
  cases operator with
  | word => contradiction
  | _ => exact (bind_of_eq (attributeName_append hname (stops_cons (by decide)))).trans rfl

theorem dash_eq_none (hname : IsNamed name) {operator : Css.AttributeOperator}
    (hoperator : operator ≠ .dash) :
    dash ('@' :: (name ++ testTail name operator value)) = none := by
  cases operator with
  | dash => contradiction
  | _ => exact (bind_of_eq (attributeName_append hname (stops_cons (by decide)))).trans rfl

theorem ends_eq_none (hname : IsNamed name) {operator : Css.AttributeOperator}
    (hoperator : operator ≠ .ends) :
    ends ('@' :: (name ++ testTail name operator value)) = none := by
  cases operator with
  | ends => contradiction
  | _ => exact (bind_of_eq (attributeName_append hname (stops_cons (by decide)))).trans rfl

theorem guarded_equals (hname : IsNamed name) :
    guarded ('@' :: (name ++ testTail name .equals value)) = none :=
  (bind_of_eq (attributeName_append hname (stops_cons (by decide)))).trans rfl

theorem starts_eq_none (hname : IsNamed name) {operator : Css.AttributeOperator}
    (hoperator : operator = .ends ∨ operator = .contains ∨ operator = .equals) :
    call "starts-with(" .starts ('@' :: (name ++ testTail name operator value)) = none := by
  obtain rfl | rfl | rfl := hoperator
  · exact (bind_of_eq (guarded_append hname)).trans rfl
  · exact (bind_of_eq (guarded_append hname)).trans rfl
  · rw [call, guarded_equals hname]
    rfl

theorem contains_eq_none (hname : IsNamed name) :
    call "contains(" .contains ('@' :: (name ++ testTail name .equals value)) = none := by
  rw [call, guarded_equals hname]
  rfl

end Recogniser

/-! ## recognition -/

open Recogniser

variable {name value cs : List Char} {operator : Css.AttributeOperator} {r : Recognised}
  {form : List Char → Option Recognised} {forms : List (List Char → Option Recognised)}

/-- A form that does not match is skipped. -/
theorem findSome?_skip (h : form cs = none) :
    (form :: forms).findSome? (fun form => form cs) = forms.findSome? fun form => form cs := by
  rw [List.findSome?_cons, h]

theorem findSome?_hit (h : form cs = some r) :
    (form :: forms).findSome? (fun form => form cs) = some r := by
  rw [List.findSome?_cons, h]

/-- A test starts with its attribute, whatever the operator. -/
theorem attributeTest_eq :
    attributeTest name operator value = '@' :: (name ++ testTail name operator value) := by
  cases operator with
  | equals =>
      dsimp only [attributeTest, testTail]
      simp only [List.append_assoc, List.cons_append, List.append_nil]
  | word =>
      have hsplit : " and contains(concat(' ', normalize-space(@".toList =
          " and contains(concat(' ', normalize-space(".toList ++ ['@'] := by decide
      dsimp only [attributeTest, wordTest, testTail]
      rw [hsplit]
      simp only [List.append_assoc, List.cons_append, List.nil_append]
  | dash =>
      dsimp only [attributeTest, testTail]
      simp only [List.append_assoc, List.cons_append]
  | starts =>
      have hsplit : " and starts-with(".toList = " and ".toList ++ "starts-with(".toList := by
        decide
      dsimp only [attributeTest, testTail]
      rw [hsplit]
      simp only [List.append_assoc, List.cons_append]
  | ends =>
      have hsplit : ") = ".toList = ')' :: " = ".toList := by decide
      dsimp only [attributeTest, testTail]
      rw [hsplit]
      simp only [List.append_assoc, List.cons_append, List.append_nil]
  | contains =>
      have hsplit : " and contains(".toList = " and ".toList ++ "contains(".toList := by decide
      dsimp only [attributeTest, testTail]
      rw [hsplit]
      simp only [List.append_assoc, List.cons_append]

/-- **The test of an attribute is recognised as what it is.** -/
theorem recognise_attributeTest (hname : IsNamed name)
    (hquotes : ¬('"' ∈ value ∧ '\'' ∈ value)) (hvalue : operator = .word → Text.Unpadded value) :
    ∃ names, recognisePredicate? (attributeTest name operator value) =
      some ⟨names, .attributeIs name operator value⟩ ∧ agree names = true := by
  rw [attributeTest_eq]
  cases operator with
  | word =>
      refine ⟨[name, name], ?_, by simp [agree]⟩
      exact findSome?_hit (word_testTail hname hquotes (hvalue rfl))
  | dash =>
      refine ⟨[name, name, name], ?_, by simp [agree]⟩
      refine (findSome?_skip (word_eq_none hname (by simp))).trans ?_
      exact findSome?_hit (dash_testTail hname hquotes)
  | starts =>
      refine ⟨[name, name], ?_, by simp [agree]⟩
      refine (findSome?_skip (word_eq_none hname (by simp))).trans ?_
      refine (findSome?_skip (dash_eq_none hname (by simp))).trans ?_
      exact findSome?_hit (call_append "starts-with(" .starts hname hquotes)
  | ends =>
      refine ⟨[name, name, name], ?_, by simp [agree]⟩
      refine (findSome?_skip (word_eq_none hname (by simp))).trans ?_
      refine (findSome?_skip (dash_eq_none hname (by simp))).trans ?_
      refine (findSome?_skip (starts_eq_none hname (.inl rfl))).trans ?_
      exact findSome?_hit (ends_testTail hname hquotes)
  | contains =>
      refine ⟨[name, name], ?_, by simp [agree]⟩
      refine (findSome?_skip (word_eq_none hname (by simp))).trans ?_
      refine (findSome?_skip (dash_eq_none hname (by simp))).trans ?_
      refine (findSome?_skip (starts_eq_none hname (.inr (.inl rfl)))).trans ?_
      refine (findSome?_skip (ends_eq_none hname (by simp))).trans ?_
      exact findSome?_hit (call_append "contains(" .contains hname hquotes)
  | equals =>
      refine ⟨[name], ?_, by simp [agree]⟩
      refine (findSome?_skip (word_eq_none hname (by simp))).trans ?_
      refine (findSome?_skip (dash_eq_none hname (by simp))).trans ?_
      refine (findSome?_skip (starts_eq_none hname (.inr (.inr rfl)))).trans ?_
      refine (findSome?_skip (ends_eq_none hname (by simp))).trans ?_
      refine (findSome?_skip (contains_eq_none hname)).trans ?_
      exact findSome?_hit (equals_testTail hname hquotes)

/-- The test for an attribute alone is recognised. -/
theorem recognise_hasAttribute (hname : IsNamed name) :
    recognisePredicate? ('@' :: (name ++ [])) = some ⟨[name], .hasAttribute name⟩ := by
  have hattribute : attributeName ('@' :: (name ++ [])) = some (name, []) :=
    attributeName_append hname nofun
  have hguarded : guarded ('@' :: (name ++ [])) = none := (bind_of_eq hattribute).trans rfl
  have hcall : ∀ function operator, call function operator ('@' :: (name ++ [])) = none := by
    intro function operator
    rw [call, hguarded]
    rfl
  refine (findSome?_skip ((bind_of_eq hattribute).trans rfl)).trans ?_
  refine (findSome?_skip ((bind_of_eq hattribute).trans rfl)).trans ?_
  refine (findSome?_skip (hcall _ _)).trans ?_
  refine (findSome?_skip ((bind_of_eq hattribute).trans rfl)).trans ?_
  refine (findSome?_skip (hcall _ _)).trans ?_
  refine (findSome?_skip ((bind_of_eq hattribute).trans rfl)).trans ?_
  exact findSome?_hit (bind_of_eq hattribute)

/-- The number of preceding siblings is recognised in any digits, leading zeros or not. -/
theorem recognise_precedingCount {ds : List Char} (hds : Number.IsNumeral ds) :
    recognisePredicate? ("count(preceding-sibling::*)".toList ++ (" = ".toList ++ (ds ++ []))) =
      some ⟨[], .precedingCount ds⟩ := by
  have hunblank := unblank_digits hds []
  have honly : onlyChild ("count(preceding-sibling::*)".toList ++
      (" = ".toList ++ (ds ++ []))) = none := by
    refine (bind_of_eq (fixed_append _ _)).trans ?_
    refine (bind_of_eq (equalsSign_append hunblank)).trans ?_
    have hblank : ' ' ∉ ds ++ [] := by
      rw [List.append_nil]
      intro hmem
      have hdigit := hds.digits ' ' hmem
      contradiction
    rw [fixed_eq_none (by decide) hblank]
    rfl
  refine (findSome?_skip rfl).trans ?_
  refine (findSome?_skip rfl).trans ?_
  refine (findSome?_skip rfl).trans ?_
  refine (findSome?_skip rfl).trans ?_
  refine (findSome?_skip rfl).trans ?_
  refine (findSome?_skip rfl).trans ?_
  refine (findSome?_skip rfl).trans ?_
  refine (findSome?_skip honly).trans ?_
  refine findSome?_hit ((bind_of_eq (fixed_append _ _)).trans ?_)
  refine (bind_of_eq (equalsSign_append hunblank)).trans ?_
  exact bind_of_eq (digits_append hds (by simp))

/-! ## selectors of predicates -/

/-- The shortest condition with the same test as an attribute compared with a value. -/
def shortestAttribute (name : List Char) (operator : Css.AttributeOperator) (value : List Char) :
    Css.Condition :=
  if operator = .word && name = "class".toList && isIdent value then .hasClass value
  else if operator = .equals && name = "id".toList && isIdent value then .hasId value
  else .attributeIs name operator value

/-- The shortest condition with the same test. -/
def shortest : Css.Condition → Css.Condition
  | .hasClass value => shortestAttribute "class".toList .word value
  | .hasId value => shortestAttribute "id".toList .equals value
  | .attributeIs name operator value => shortestAttribute name operator value
  | .nthChild 1 => .firstChild
  | condition => condition

/-- A value is written with or without quotes as in CSS. -/
theorem cssValue_eq : cssValue value = Css.valueText value := by
  unfold cssValue Css.valueText Css.quoteOf
  split <;> rfl

/-- The selector of a test is the text of the shortest condition for it. -/
theorem attributeSelector_eq :
    attributeSelector name operator value = (shortestAttribute name operator value).text := by
  rw [attributeSelector, shortestAttribute]
  split
  · rfl
  · split
    · rfl
    · rw [cssAttribute, cssValue_eq]
      dsimp only [Css.Condition.text]
      simp only [List.cons_append, List.append_assoc]

/-- The shortest condition has the same test. -/
theorem conditionTest_shortestAttribute :
    conditionTest (shortestAttribute name operator value) = attributeTest name operator value := by
  rw [shortestAttribute]
  split
  · next h =>
      simp only [Bool.and_eq_true, decide_eq_true_eq] at h
      obtain ⟨⟨rfl, rfl⟩, -⟩ := h
      rfl
  · split
    · next h =>
        simp only [Bool.and_eq_true, decide_eq_true_eq] at h
        obtain ⟨⟨rfl, rfl⟩, -⟩ := h
        rfl
    · rfl

theorem conditionTest_shortest (condition : Css.Condition) :
    conditionTest (shortest condition) = conditionTest condition := by
  unfold shortest
  split
  · exact conditionTest_shortestAttribute
  · exact conditionTest_shortestAttribute
  · exact conditionTest_shortestAttribute
  · decide
  · rfl

/-- **The selector of a test is the shortest condition**, for every operator. -/
theorem predicateSelector_attributeTest (hname : IsNamed name)
    (hquotes : ¬('"' ∈ value ∧ '\'' ∈ value)) (hvalue : operator = .word → Text.Unpadded value) :
    predicateSelector (attributeTest name operator value) =
      .ok (shortestAttribute name operator value).text := by
  obtain ⟨names, hrecognised, hagree⟩ := recognise_attributeTest hname hquotes hvalue
  rw [predicateSelector, hrecognised, ← attributeSelector_eq]
  exact if_pos hagree

/-- The selector of a count is found from its digits. -/
theorem predicateSelector_precedingCount {ds : List Char} (hds : Number.IsNumeral ds) :
    predicateSelector ("count(preceding-sibling::*) = ".toList ++ ds) = countSelector ds := by
  have hsplit : "count(preceding-sibling::*) = ".toList =
      "count(preceding-sibling::*)".toList ++ " = ".toList := by decide
  have hrecognised := recognise_precedingCount hds
  rw [List.append_nil, ← List.append_assoc, ← hsplit] at hrecognised
  rw [predicateSelector, hrecognised]
  rfl

/-- **Every plain condition comes back from its test, in its shortest form.** -/
theorem predicateSelector_conditionTest {condition : Css.Condition} (h : condition.IsPlain)
    (hnamed : ∀ name ∈ condition.attribute?, IsNamed name) :
    predicateSelector (conditionTest condition) = .ok (shortest condition).text := by
  have hclass : IsNamed "class".toList := ⟨by decide, Text.forall_mem_of_all (by decide)⟩
  have hid : IsNamed "id".toList := ⟨by decide, Text.forall_mem_of_all (by decide)⟩
  cases condition with
  | hasClass value =>
      have hpredicate : predicateSelector (attributeTest "class".toList .word value) = _ :=
        predicateSelector_attributeTest hclass h.1 fun _ => h.2
      exact hpredicate
  | hasId value =>
      have hpredicate : predicateSelector (attributeTest "id".toList .equals value) = _ :=
        predicateSelector_attributeTest hid h nofun
      exact hpredicate
  | hasAttribute name =>
      have hrecognised : recognisePredicate? ('@' :: (name ++ [])) = _ :=
        recognise_hasAttribute (hnamed name rfl)
      rw [List.append_nil] at hrecognised
      change predicateSelector ('@' :: name) = _
      rw [predicateSelector, hrecognised]
      rfl
  | attributeIs name operator value =>
      obtain ⟨-, hquotes, hunpadded⟩ := h
      exact predicateSelector_attributeTest (hnamed name rfl) hquotes hunpadded
  | firstChild | lastChild | onlyChild | empty => rfl
  | nthChild n =>
      obtain ⟨hpos, hlt⟩ := h
      have hselector : predicateSelector (conditionTest (.nthChild n)) =
          countSelector (numeral (n - 1)) :=
        predicateSelector_precedingCount (Number.isNumeral_toDigits _)
      rw [hselector, countSelector, numeral, Number.unsigned64?_toDigits (by omega)]
      by_cases hone : n = 1
      · subst hone
        rfl
      · obtain ⟨k, rfl⟩ : ∃ k, n = k + 2 := ⟨n - 2, by omega⟩
        simp only [Nat.reduceSubDiff]
        rw [if_pos hlt, List.append_assoc]
        rfl

/-! ## other names -/

namespace Recogniser

/-- Behind the part of a name that is read as a name there is something that no form goes on
with. -/
structure Unnamed (cs : List Char) : Prop where
  space : ∀ part rest s, attributeName cs = some (part, rest) → s.toList.head? = some ' ' →
    fixed s rest = none
  equality : ∀ part rest, attributeName cs = some (part, rest) → equalsSign rest = none
  more : ∀ part rest, attributeName cs = some (part, rest) → rest ≠ []

/-- White space is passed only up to a character that is none. -/
theorem exists_blanks {back : List Char} (h : Text.Ended back) (rest : List Char) :
    ∃ c cs, blanks (back ++ rest) = c :: cs ∧ c ∈ back := by
  obtain ⟨front, last, rfl, hlast⟩ := h
  induction front with
  | nil => exact ⟨last, rest, List.dropWhile_cons_of_neg (by simp [hlast]), by simp⟩
  | cons c front ih =>
      by_cases hc : Text.isBlank c = true
      · obtain ⟨d, cs, hcs, hd⟩ := ih
        exact ⟨d, cs, (List.dropWhile_cons_of_pos hc).trans hcs, List.mem_cons_of_mem c hd⟩
      · exact ⟨c, _, List.dropWhile_cons_of_neg hc, List.mem_cons_self⟩

/-- A fixed text is not found where another character is in front. -/
theorem fixed_eq_none_of_head {s : String} {c d : Char} {cs : List Char}
    (hs : s.toList.head? = some d) (h : c ≠ d) : fixed s (c :: cs) = none := by
  obtain ⟨tail, htail⟩ : ∃ tail, s.toList = d :: tail := List.head?_eq_some_iff.mp hs
  rw [fixed, htail, Text.stripPrefix?, if_neg h.symm]

/-- A name that is not one of a query has a first character that does not belong there. -/
theorem exists_split (hname : name ≠ []) (hother : ¬IsNamed name) : ∃ part c back,
    name = part ++ c :: back ∧ (∀ d ∈ part, isNamePart d = true) ∧ isNamePart c = false := by
  have hnot : ¬∀ c ∈ name, isNamePart c = true := fun hall => hother ⟨hname, hall⟩
  clear hname hother
  induction name with
  | nil => exact absurd nofun hnot
  | cons c name ih =>
      by_cases hc : isNamePart c = true
      · obtain ⟨part, d, back, rfl, hpart, hd⟩ :=
          ih fun hall => hnot (List.forall_mem_cons.mpr ⟨hc, hall⟩)
        exact ⟨c :: part, d, back, rfl, List.forall_mem_cons.mpr ⟨hc, hpart⟩, hd⟩
      · exact ⟨[], c, name, rfl, nofun, by simpa using hc⟩

/-- A test of such a name has a name in front that ends too early. -/
theorem unnamed_append (hname : IsWritten name) (hother : ¬IsNamed name) (rest : List Char) :
    Unnamed ('@' :: (name ++ rest)) := by
  have hsigns : ∀ c ∈ name, c ≠ ' ' ∧ c ≠ '=' := by
    intro c hc
    have hpart := hname.parts c hc
    constructor
    · rintro rfl
      contradiction
    · rintro rfl
      contradiction
  obtain ⟨part, c, back, rfl, hpart, hc⟩ := exists_split hname.ne_nil hother
  have hended : Text.Ended (c :: back) := by
    refine ⟨_, _, (List.dropLast_concat_getLast (List.cons_ne_nil c back)).symm,
      hname.unpadded.2 _ ?_⟩
    rw [List.getLast?_append, List.getLast?_eq_some_getLast (List.cons_ne_nil c back)]
    rfl
  have hrest : ∀ front others, attributeName ('@' :: (part ++ c :: back ++ rest)) =
      some (front, others) → others = c :: back ++ rest := by
    intro front others h
    have hspan : (part ++ c :: back ++ rest).span isNamePart = (part, c :: back ++ rest) := by
      rw [List.append_assoc]
      exact Text.span_append hpart fun d hd => Option.some.inj hd ▸ hc
    rw [attributeName, hspan] at h
    dsimp only at h
    split at h
    · cases h
    · exact (Prod.mk.inj (Option.some.inj h)).2.symm
  refine ⟨fun front others s h hs => ?_, fun front others h => ?_, fun front others h => ?_⟩
  · rw [hrest front others h]
    exact fixed_eq_none_of_head hs (hsigns c (by simp)).1
  · obtain ⟨d, cs, hblanks, hd⟩ := exists_blanks hended rest
    rw [hrest front others h, equalsSign, hblanks,
      fixed_eq_none_of_head rfl (hsigns d (List.mem_append_right part hd)).2]
    rfl
  · rw [hrest front others h]
    exact List.cons_ne_nil _ _

/-- A form that starts with an attribute fails if it fails behind that. -/
theorem attributeName_bind_eq_none {α : Type} {cs : List Char}
    {f : List Char × List Char → Option α}
    (hf : ∀ part rest, attributeName cs = some (part, rest) → f (part, rest) = none) :
    attributeName cs >>= f = none := by
  cases hname : attributeName cs with
  | none => rfl
  | some read => exact hf read.1 read.2 hname

namespace Unnamed

variable {cs : List Char} (h : Unnamed ('@' :: cs))

include h

/-- No guard is found behind a name that ends too early. -/
theorem guarded_eq_none : guarded ('@' :: cs) = none :=
  attributeName_bind_eq_none fun part rest hread => by
    dsimp only
    rw [h.space part rest _ hread rfl]
    rfl

/-- **What is no name is not recognised in any form.** -/
theorem recognisePredicate?_eq_none : recognisePredicate? ('@' :: cs) = none := by
  have hspace : ∀ {α : Type} {f : List Char × List Char → List Char → Option α} {s : String},
      s.toList.head? = some ' ' →
      (attributeName ('@' :: cs) >>= fun read => fixed s read.2 >>= f read) = none := by
    intro α f s hs
    refine attributeName_bind_eq_none fun part rest hread => ?_
    rw [h.space part rest s hread hs]
    rfl
  have hcall : ∀ function operator, call function operator ('@' :: cs) = none := by
    intro function operator
    rw [call, h.guarded_eq_none]
    rfl
  have hequals : equals ('@' :: cs) = none :=
    attributeName_bind_eq_none fun part rest hread => by
      dsimp only
      rw [h.equality part rest hread]
      rfl
  have hattribute : hasAttribute ('@' :: cs) = none :=
    attributeName_bind_eq_none fun part rest hread =>
      if_neg (by simpa using h.more part rest hread)
  refine (findSome?_skip (hspace rfl)).trans ?_
  refine (findSome?_skip (hspace rfl)).trans ?_
  refine (findSome?_skip (hcall _ _)).trans ?_
  refine (findSome?_skip (hspace rfl)).trans ?_
  refine (findSome?_skip (hcall _ _)).trans ?_
  refine (findSome?_skip hequals).trans ?_
  exact (findSome?_skip hattribute).trans rfl

end Unnamed

end Recogniser

/-- A condition on an attribute with another name does not come back. -/
theorem exists_predicateSelector_error {condition : Css.Condition} (h : condition.IsPlain)
    (hname : name ∈ condition.attribute?) (hother : ¬IsNamed name) :
    ∃ e, predicateSelector (conditionTest condition) = .error e := by
  have hnone : ∀ rest, IsWritten name →
      predicateSelector ('@' :: (name ++ rest)) =
        .error (.refused (.predicate ('@' :: (name ++ rest)))) := by
    intro rest hwritten
    rw [predicateSelector, (unnamed_append hwritten hother rest).recognisePredicate?_eq_none]
  cases condition with
  | hasAttribute other =>
      obtain rfl := Option.some.inj hname
      have herror := hnone [] h
      rw [List.append_nil] at herror
      exact ⟨_, herror⟩
  | attributeIs other operator value =>
      obtain rfl := Option.some.inj hname
      have htest : conditionTest (.attributeIs other operator value) = _ := attributeTest_eq
      rw [htest]
      exact ⟨_, hnone _ h.1⟩
  | hasClass | hasId | firstChild | lastChild | onlyChild | empty | nthChild => cases hname

end Extractor.XPath
