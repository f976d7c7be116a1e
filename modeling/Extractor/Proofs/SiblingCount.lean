import Extractor.Proofs.Restoration

/-!
# Extractor.Proofs.SiblingCount

A number of preceding siblings on the way from XPath to CSS and back. XPath
counts the siblings in front of an element and CSS the places from one on, so
that a number is raised on the way there and lowered on the way back, both in 64
bits. A number that does not fit is refused, and one whose place fits is kept.
Between them lies the largest number of 64 bits: raising it overflows
(`Query.keepsCount_iff`, `Query.countQuery_overflows`).
-/

namespace Extractor.XPath

open Number (IsNumeral)

variable {name ds : List Char} {tests : List (List Char)}

/-! ## paths of one step -/

/-- A name as a compound selector. -/
theorem isPlain_name (hname : Css.isName name = true) : Css.Compound.IsPlain ⟨some name, []⟩ :=
  ⟨fun _ h => Option.some.inj h ▸ Css.isType_of_isName hname, nofun, nofun⟩

theorem testElement_name (hname : Css.isName name = true) :
    testElement (Text.trim name) = .ok (some name) ∧
      ∀ conditions, compoundText (some name) conditions = name ++ conditions := by
  have hstar : name ≠ ['*'] := by
    rintro rfl
    contradiction
  have hident := isIdent_of_isIdentifier (Css.isIdentifier_of_isName hname)
  rw [Text.trim_eq_self (Css.isWritten_of_isName hname).unpadded]
  refine ⟨(testElement_eq_ok_iff (isPlain_name hname)).mpr ⟨.inr hident, ?_⟩, fun _ => if_neg hstar⟩
  rw [tested_eq]
  exact (if_neg hstar).symm

theorem stepSelector_name (hname : Css.isName name = true)
    (htests : ∀ t ∈ tests, Nesting.start.pass? t = some .start ∧ Text.Unpadded t)
    (pending : Css.Combinator) : stepSelector (name ++ brackets tests) pending =
      ((tests.mapM predicateSelector).map fun conditions => name ++ conditions.flatten).map
        (pending, ·) := by
  have hbracket : '[' ∉ name := not_mem_nodeTest (isPlain_name hname) (by decide)
  have hcolon : ':' ∉ name := not_mem_nodeTest (isPlain_name hname) (by decide)
  have haxis : (Text.splitFirst? [':', ':'] name).getD ("child".toList, name) =
      ("child".toList, name) := by
    rw [splitFirst?_eq_none hcolon]
    rfl
  obtain ⟨helement, htext⟩ := testElement_name hname
  rw [stepSelector_brackets hbracket haxis htests, helement]
  change (tests.mapM predicateSelector >>= fun conditions =>
    pure (pending, compoundText (some name) conditions.flatten)) = _
  simp only [htext]
  cases tests.mapM predicateSelector <;> rfl

/-- The selector of a path of one step, which may lie at any depth. -/
theorem selectorsOf_name (hname : Css.isName name = true)
    (htests : ∀ t ∈ tests, Nesting.start.pass? t = some .start ∧ Text.Unpadded t) :
    selectorsOf ("//".toList ++ (name ++ brackets tests)) =
      (tests.mapM predicateSelector).map fun conditions => name ++ conditions.flatten := by
  have hwritten := Css.isWritten_of_isName hname
  have hended := ended_brackets hwritten.ended tests
  have hstep : Text.Unpadded (name ++ brackets tests) :=
    hended.unpadded (Text.unblank_append hwritten.ne_nil (fun c hc =>
      (Css.of_isPlainChar (Css.isPlainChar_of_isName hname c hc)).2.2) _)
  have hpath : Text.Unpadded ("//".toList ++ (name ++ brackets tests)) :=
    (hended.append _).unpadded (Text.unblank_cons (by decide))
  have hwhole : ∀ sep ∈ "/|".toList, Whole sep (name ++ brackets tests) := fun sep hsep =>
    (whole_nodeTest (isPlain_name hname) hsep).append
      (whole_brackets fun t ht => (htests t ht).1)
  have hslashes : Whole '|' "//".toList := .plain (Text.forall_mem_of_all (by decide))
  have hselector : pathSelector ("//".toList ++ (name ++ brackets tests)) =
      (tests.mapM predicateSelector).map fun conditions => name ++ conditions.flatten := by
    rw [pathSelector, Text.trim_eq_self hpath]
    change (pathFrom [] .descendant (splitTopLevel '/' (name ++ brackets tests)) >>= fun css =>
      if css.isEmpty then throw (.refused .emptyPath) else return css) = _
    rw [(hwhole '/' (by decide)).splitTopLevel_eq,
      pathFrom_cons hstep (Bool.and_false _) (stepSelector_name hname htests _)]
    cases tests.mapM predicateSelector with
    | error e => rfl
    | ok conditions =>
        obtain ⟨c, cs, rfl⟩ := List.exists_cons_of_ne_nil hwritten.ne_nil
        rfl
  rw [selectorsOf, Text.trim_eq_self hpath,
    (hslashes.append (hwhole '|' (by decide))).splitTopLevel_eq, List.mapM_cons, hselector]
  cases tests.mapM predicateSelector with
  | error e => rfl
  | ok conditions =>
      change Except.ok (", ".toList.intercalate [_]) = _
      rw [List.intercalate_singleton]
      rfl

/-! ## counts -/

/-- The selector of a count asks for the place behind it, if that place has a number of 64 bits. -/
theorem countSelector_eq (hds : IsNumeral ds) : countSelector ds =
    if Nat.ofDigitChars 10 ds 0 + 1 < Nat.pow 2 64 then
      .ok (shortest (.nthChild (Nat.ofDigitChars 10 ds 0 + 1))).text
    else if Nat.ofDigitChars 10 ds 0 < Nat.pow 2 64 then .error .overflow
    else .error (.refused .siblingCount) := by
  rw [countSelector, hds.unsigned64?_eq]
  generalize Nat.ofDigitChars 10 ds 0 = k
  by_cases hk : k < Nat.pow 2 64
  · rw [if_pos hk, if_pos hk]
    cases k with
    | zero => rfl
    | succ k =>
        simp only [List.append_assoc]
        rfl
  · rw [if_neg hk, if_neg hk, if_neg (by omega)]

end Extractor.XPath

namespace Extractor.Query

open Number (IsNumeral)

variable {name ds : List Char}

/-! ## queries for a count -/

/-- The query for the elements of a name that have the given number of siblings before them. -/
def countQuery (name ds : List Char) : String :=
  String.ofList ("//".toList ++
    (name ++ '[' :: ("count(preceding-sibling::*) = ".toList ++ ds ++ [']'])))

theorem toList_countQuery (name ds : List Char) : (countQuery name ds).toList = "//".toList ++
    (name ++ '[' :: ("count(preceding-sibling::*) = ".toList ++ ds ++ [']'])) :=
  String.toList_ofList

/-- The query is refused, or it has a CSS counterpart that leads back to a query for the same
number. -/
def KeepsCount (name ds : List Char) : Prop :=
  (∃ e, xpathToCss (countQuery name ds) = .error (.refused e)) ∨
    ∃ css again, xpathToCss (countQuery name ds) = .ok css ∧ IsNumeral again ∧
      Nat.ofDigitChars 10 again 0 = Nat.ofDigitChars 10 ds 0 ∧
      cssToXPath css "//" = .ok (countQuery name again)

/-- The error of a query whose number does not fit 64 bits. -/
def countRefused (query : String) : BuildError :=
  .selector .xpath query (.noCss .siblingCount) none

/-- What comes back of the query is the name with the place behind the counted siblings, if that
place has a number of 64 bits. -/
theorem xpathToCss_countQuery (hname : Css.isName name = true) (hds : IsNumeral ds) :
    xpathToCss (countQuery name ds) =
      if Nat.ofDigitChars 10 ds 0 + 1 < Nat.pow 2 64 then
        .ok (String.ofList
          (name ++ (XPath.shortest (.nthChild (Nat.ofDigitChars 10 ds 0 + 1))).text))
      else if Nat.ofDigitChars 10 ds 0 < Nat.pow 2 64 then .error .overflow
      else .error (.refused (countRefused (countQuery name ds))) := by
  have htest := XPath.enclosable_count hds
  have hselectors := XPath.selectorsOf_name hname
    (List.forall_mem_singleton.mpr ⟨htest.pass, htest.unpadded⟩)
  rw [List.mapM_cons, XPath.predicateSelector_precedingCount hds, XPath.countSelector_eq hds,
    XPath.brackets, List.flatMap_singleton] at hselectors
  rw [xpathToCss, toList_countQuery, hselectors]
  generalize Nat.ofDigitChars 10 ds 0 = k
  by_cases hnext : k + 1 < Nat.pow 2 64
  · rw [if_pos hnext, if_pos hnext]
    change Except.ok (String.ofList
      (name ++ [(XPath.shortest (.nthChild (k + 1))).text].flatten)) = _
    rw [List.flatten_singleton]
  · rw [if_neg hnext, if_neg hnext]
    by_cases hk : k < Nat.pow 2 64
    · rw [if_pos hk, if_pos hk]
      rfl
    · rw [if_neg hk, if_neg hk]
      rfl

/-- A place among the siblings leads to the query for the number of siblings before it. -/
theorem cssToXPath_nthChild (hname : Css.isName name = true) {k : Nat}
    (hk : k + 1 < Nat.pow 2 64) :
    cssToXPath (String.ofList (name ++ (XPath.shortest (.nthChild (k + 1))).text)) "//" =
      .ok (countQuery name (Nat.toDigits 10 k)) := by
  have hreadable : Css.Complex.IsReadable
      ⟨⟨some name, [XPath.shortest (.nthChild (k + 1))]⟩, []⟩ :=
    ⟨⟨fun _ h => Option.some.inj h ▸ Css.isType_of_isName hname, nofun,
      List.forall_mem_singleton.mpr (XPath.isReadable_shortest ⟨Nat.succ_pos k, hk⟩)⟩, nofun⟩
  have hpath := cssToXPath_groupText (List.cons_ne_nil _ _)
    (List.forall_mem_singleton.mpr hreadable) "//"
  have htext : Css.groupText [⟨⟨some name, [XPath.shortest (.nthChild (k + 1))]⟩, []⟩] =
      name ++ (XPath.shortest (.nthChild (k + 1))).text := by
    simp [Css.groupText, Css.Complex.text, Css.Compound.text, Css.tailText]
  have hpredicate : XPath.predicates [XPath.shortest (.nthChild (k + 1))] =
      '[' :: ("count(preceding-sibling::*) = ".toList ++ Nat.toDigits 10 k ++ [']']) := by
    rw [XPath.predicates, List.flatMap_singleton, XPath.conditionTest_shortest]
    rfl
  have hquery : XPath.ofSelectors "//".toList
      [⟨⟨some name, [XPath.shortest (.nthChild (k + 1))]⟩, []⟩] =
        "//".toList ++ (name ++ '[' ::
          ("count(preceding-sibling::*) = ".toList ++ Nat.toDigits 10 k ++ [']'])) := by
    rw [XPath.ofSelectors, List.map_singleton, List.intercalate_singleton, XPath.pathOf,
      List.flatMap_nil, List.append_nil, List.append_assoc, hpredicate]
    rfl
  rw [htext, hquery] at hpath
  exact hpath

/-- A query that overflows is neither refused nor converted. -/
theorem not_keepsCount_of_overflow (h : xpathToCss (countQuery name ds) = .error .overflow) :
    ¬KeepsCount name ds := by
  rintro (⟨e, he⟩ | ⟨css, again, hok, -⟩)
  · rw [h] at he
    cases he
  · rw [h] at hok
    cases hok

/-- **Counts are kept unless they are the largest.** For every name and every numeral, the query for
a number of preceding siblings is refused, or leads to CSS from which a query for the same number
comes back, exactly if the place behind that number is not the first one that leaves 64 bits. At
that place the conversion overflows, and it refuses exactly the numbers that leave 64 bits
themselves. -/
theorem keepsCount_iff (name ds : List Char) (hname : Css.isName name = true)
    (hds : IsNumeral ds) :
    (KeepsCount name ds ↔ Nat.ofDigitChars 10 ds 0 + 1 ≠ Nat.pow 2 64) ∧
      (xpathToCss (countQuery name ds) = .error .overflow ↔
        Nat.ofDigitChars 10 ds 0 + 1 = Nat.pow 2 64) ∧
      (xpathToCss (countQuery name ds) = .error (.refused (countRefused (countQuery name ds))) ↔
        Nat.pow 2 64 ≤ Nat.ofDigitChars 10 ds 0) := by
  have hcss := xpathToCss_countQuery hname hds
  obtain hlt | heq | hgt := Nat.lt_trichotomy (Nat.ofDigitChars 10 ds 0 + 1) (Nat.pow 2 64)
  · rw [if_pos hlt] at hcss
    have hkeeps : KeepsCount name ds := .inr ⟨_, _, hcss, Number.isNumeral_toDigits _,
      Nat.ofDigitChars_ten_toDigits, cssToXPath_nthChild hname hlt⟩
    rw [hcss]
    exact ⟨iff_of_true hkeeps (by omega), iff_of_false (by simp) (by omega),
      iff_of_false (by simp) (by omega)⟩
  · rw [if_neg (by omega), if_pos (by omega)] at hcss
    have hlost := not_keepsCount_of_overflow hcss
    rw [hcss]
    exact ⟨iff_of_false hlost (by omega), iff_of_true rfl heq, iff_of_false (by simp) (by omega)⟩
  · rw [if_neg (by omega), if_neg (by omega)] at hcss
    have hkeeps : KeepsCount name ds := .inl ⟨_, hcss⟩
    rw [hcss]
    exact ⟨iff_of_true hkeeps (by omega), iff_of_false (by simp) (by omega),
      iff_of_true rfl (by omega)⟩

/-- The largest number that is kept, with zeros in front of it. -/
theorem keepsCount_iff_lastPlace :
    countQuery "li".toList "0018446744073709551614".toList =
        "//li[count(preceding-sibling::*) = 0018446744073709551614]" ∧
      Css.isName "li".toList = true ∧ IsNumeral "0018446744073709551614".toList ∧
      KeepsCount "li".toList "0018446744073709551614".toList ∧
      xpathToCss "//li[count(preceding-sibling::*) = 0018446744073709551614]" =
        .ok "li:nth-child(18446744073709551615)" := by
  have hname : Css.isName "li".toList = true := by decide
  have hnumeral : IsNumeral "0018446744073709551614".toList :=
    ⟨by decide, Text.forall_mem_of_all (by decide)⟩
  exact ⟨by decide, hname, hnumeral, (keepsCount_iff _ _ hname hnumeral).1.mpr (by decide),
    by decide +kernel⟩

/-- The largest number of 64 bits has no place behind it: the query for it is neither refused nor
converted. -/
theorem countQuery_overflows :
    IsNumeral "18446744073709551615".toList ∧
      xpathToCss "//li[count(preceding-sibling::*) = 18446744073709551615]" = .error .overflow ∧
      ¬KeepsCount "li".toList "18446744073709551615".toList := by
  have hquery : countQuery "li".toList "18446744073709551615".toList =
      "//li[count(preceding-sibling::*) = 18446744073709551615]" := by decide
  have hcss : xpathToCss "//li[count(preceding-sibling::*) = 18446744073709551615]" =
      .error .overflow := by decide +kernel
  exact ⟨⟨by decide, Text.forall_mem_of_all (by decide)⟩, hcss,
    not_keepsCount_of_overflow (by rw [hquery, hcss])⟩

end Extractor.Query
