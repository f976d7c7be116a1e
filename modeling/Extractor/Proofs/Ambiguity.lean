import Extractor.Conversion
import Extractor.Libraries.Standard
import Extractor.Proofs.OperandDue
import Extractor.Proofs.StandIns
import Extractor.Proofs.TokenStops

/-!
# Extractor.Proofs.Ambiguity

Converted queries that are taken for CSS. An XPath query is refused if it is a
selector as well, and every converted query starts with an axis, whose colons may be
read as those of a pseudo-element. That takes a type with the name of one, and a text
behind it where a selector may end: the end of the query, a comma or a colon. In an
XPath query no comma stands there (`XPath.not_accepts_axis`), and a colon only as part
of the type itself. What is left is `Confusable`.

* `checkXPath_cssToXPath` — every other converted query is accepted, and a type that
  is a pseudo-element and has nothing behind it is refused.
-/

namespace Extractor.XPath

/-! ## behind a step on an axis -/

theorem Marks.unique {ts : List Lexeme} {us vs : List Token} (h : Marks ts us) (h' : Marks ts vs) :
    us = vs :=
  List.append_cancel_right (h.tokens.symm.trans h'.tokens)

theorem marks_lexemes {us : List Token} (h : .endOfQuery ∉ us) : Marks (lexemes us) us where
  tokens := by simp [lexemes, Function.comp_def]
  no_end := h

/-- An expression in front of a comma or of the end is no part of a longer one. -/
theorem Derives.expression_unique {us vs ws : List Token} (h : Derives .expression us vs)
    (h' : Derives .expression us ws) (hgrip : gripOf vs ≤ 1) (hgrip' : gripOf ws ≤ 1)
    (hend : .endOfQuery ∉ us) : vs = ws := by
  have hm := marks_lexemes hend
  obtain ⟨rest, hrest, hread⟩ := h.reads.expression_end hgrip hm
  obtain ⟨rest', hrest', hread'⟩ := h'.reads.expression_end hgrip' hm
  have heq := (hread _ (Nat.le_refl _)).symm.trans (hread' _ (Nat.le_refl _))
  cases heq
  exact hrest.unique hrest'

theorem Derives.expression_of_step {us vs : List Token} (h : Derives .step us vs) :
    Derives .expression us vs :=
  (Derives.single (.location (.relative (.step h)))).binary_of_union .or

namespace Scans

variable {cs name rest : List Char} {us : List Token}

/-- A name in front is the first token, and so is the name of an axis. -/
theorem of_name (hname : Css.isName name = true) (hrest : EndsName rest)
    (h : Scans (name ++ rest) us) :
    ∃ vs, us = .name (String.ofList name) :: vs ∧ Scans rest vs := by
  cases name with
  | nil => contradiction
  | cons c name =>
      have hplain := Css.isPlainChar_of_isName hname c List.mem_cons_self
      rw [List.cons_append, cons_iff, readToken_name hname hrest] at h
      obtain ⟨hc, -⟩ | ⟨-, t, left, vs, hread, rfl, hvs⟩ := h
      · rw [(Css.of_isPlainChar hplain).2.2] at hc
        contradiction
      · cases hread
        exact ⟨vs, rfl, hvs⟩

theorem of_axis (hname : Css.isName name = true) (h : Scans (name ++ ':' :: ':' :: cs) us) :
    ∃ vs, us = .name (String.ofList name) :: .doubleColon :: vs ∧ Scans cs vs := by
  obtain ⟨vs, rfl, hvs⟩ := h.of_name hname (.inr ⟨cs, rfl⟩)
  rw [cons_iff] at hvs
  obtain ⟨hc, -⟩ | ⟨-, t, left, ws, hread, rfl, hws⟩ := hvs
  · exact absurd hc (by decide)
  · cases hread
    exact ⟨ws, rfl, hws⟩

end Scans

/-- A comma is a token on its own, and a colon is one only together with a second. -/
theorem readToken_comma_or_colon {c : Char} {cs rest : List Char} {t : Token}
    (hc : c = ',' ∨ c = ':') (h : readToken c cs = .ok (t, rest)) :
    t = .comma ∨ t = .doubleColon := by
  have hchar : (¬ (Text.isAsciiDigit c = true ∨ c = '.') ∧ ¬ (c = '"' ∨ c = '\'')) ∧
      isNameStart c ≠ true := by
    rcases hc with rfl | rfl <;> decide
  cases readToken_shape h with
  | pair hpair =>
      unfold double? at hpair
      split at hpair <;> simp_all
  | mark hmark _ =>
      rcases hc with rfl | rfl <;> cases hmark
      exact .inl rfl
  | number hnumber => exact absurd hnumber hchar.1.1
  | literal hquote => exact absurd hquote hchar.1.2
  | name hstart _ => exact absurd hstart hchar.2

/-- **Behind a name on an axis there is neither a comma nor, apart from the name, a colon.** -/
theorem not_accepts_axis {axis name blanks cs : List Char} {c : Char}
    (haxis : Css.isName axis = true) (haxes : String.ofList axis ∈ axes)
    (hname : Css.isName name = true) (hblanks : ∀ b ∈ blanks, Text.isBlank b = true)
    (hc : c = ',' ∨ c = ':' ∧ blanks ≠ []) :
    accepts (String.ofList (axis ++ ':' :: ':' :: (name ++ (blanks ++ c :: cs)))) = false := by
  by_contra haccepts
  rw [Bool.not_eq_false] at haccepts
  obtain ⟨us, hscans⟩ := exists_scans haccepts
  rw [String.toList_ofList] at hscans
  have hderives := hscans.derives haccepts
  have hend := hscans.no_end
  have hends : EndsName (blanks ++ c :: cs) := by
    refine .inl fun d hd => ?_
    cases blanks with
    | nil =>
        obtain rfl : c = ',' := hc.resolve_right fun h => h.2 rfl
        exact Option.some.inj hd ▸ by decide
    | cons b blanks =>
        obtain rfl : b = d := Option.some.inj hd
        have hstop : isStop b = true := by simp [isStop, hblanks b List.mem_cons_self]
        exact ⟨isNamePart_of_isStop hstop, ne_of_isStop hstop (by decide)⟩
  obtain ⟨vs, rfl, hvs⟩ := hscans.of_axis haxis
  obtain ⟨ws, rfl, hws⟩ := hvs.of_name hname hends
  rw [Scans.blanks_iff hblanks, Scans.cons_iff] at hws
  obtain ⟨hblank, -⟩ | ⟨-, t, rest, others, hread, rfl, -⟩ := hws
  · rcases hc with rfl | ⟨rfl, -⟩ <;> exact absurd hblank (by decide)
  · obtain rfl | rfl := readToken_comma_or_colon (hc.imp_right And.left) hread
    · -- the step in front of the comma is a whole expression already
      have hstep : Derives .expression
          ([.name (String.ofList axis), .doubleColon] ++ ([.name (String.ofList name)] ++
            .comma :: others)) (.comma :: others) :=
        (Derives.test (.named haxes) (.name _) .noPredicates).expression_of_step
      have heq := hderives.expression_unique hstep (by decide) (Nat.le_refl 1) hend
      cases heq
    · obtain ⟨after, hrun, -⟩ := hderives.exists_run?
      cases hrun

/-! ## behind the first node test -/

theorem exists_step_eq (combinator : Css.Combinator) (compound : Css.Compound) :
    ∃ rest, step combinator compound = '/' :: rest := by
  cases combinator with
  | child => exact ⟨_, rfl⟩
  | descendant | sibling =>
      dsimp only [step]
      simp only [String.reduceToList, List.append_assoc, List.cons_append]
      exact ⟨_, rfl⟩
  | adjacent =>
      dsimp only [step]
      split <;> simp only [String.reduceToList, List.append_assoc, List.cons_append]
      all_goals exact ⟨_, rfl⟩

/-- Behind the first node test of a query stands a bracket, a slash or a bar, or nothing. So no name
goes on there, and a selector might end there only if the group is a type on its own. -/
theorem exists_ofSelectors_eq (lead : List Char) (first : Css.Complex)
    (others : List Css.Complex) : ∃ behind,
      ofSelectors lead (first :: others) = lead ++ (nodeTest first.head ++ behind) ∧
        (∀ c ∈ behind.head?, Css.isPseudoNamePart c = false) ∧
        (Css.endsSelector behind = true →
          first.head.conditions = [] ∧ first.tail = [] ∧ others = []) := by
  obtain ⟨⟨element, conditions⟩, tail⟩ := first
  simp only [ofSelectors, List.map_cons, Text.intercalate_eq_append, pathOf, List.append_assoc]
  refine ⟨_, rfl, ?_⟩
  cases conditions with
  | cons condition conditions =>
      exact ⟨fun c hc => Option.some.inj hc ▸ by decide, fun hends => by cases hends⟩
  | nil =>
      cases tail with
      | cons next tail =>
          obtain ⟨rest, hrest⟩ := exists_step_eq next.1 next.2
          rw [List.flatMap_cons, hrest]
          exact ⟨fun c hc => Option.some.inj hc ▸ by decide, fun hends => by cases hends⟩
      | nil =>
          cases others with
          | cons next others =>
              exact ⟨fun c hc => Option.some.inj hc ▸ by decide, fun hends => by cases hends⟩
          | nil => exact ⟨fun _ hc => absurd hc (by simp [predicates]), fun _ => ⟨rfl, rfl, rfl⟩⟩

end Extractor.XPath

namespace Extractor.Query

open Css (IsPseudoElement)

/-! ## converted queries -/

/-- The query of the selectors may be taken for CSS: the first type starts with the name of a
pseudo-element and goes on with a colon, or it is that name, but for white space, and the only thing
in the group. -/
def Confusable (selectors : List Css.Complex) : Prop :=
  ∃ first others name rest, selectors = first :: others ∧ IsPseudoElement name ∧
    first.head.element = some (name ++ rest) ∧
    (rest.head? = some ':' ∨ (∀ c ∈ rest, Text.isBlank c = true) ∧
      first.head.conditions = [] ∧ first.tail = [] ∧ others = [])

theorem defaultPrefix_append (cs : List Char) :
    XPath.defaultPrefix.toList ++ cs = "descendant-or-self".toList ++ ':' :: ':' :: cs := by
  simp [XPath.defaultPrefix]

/-- The star that stands for a missing type is no pseudo-element. -/
theorem element_eq_of_nodeTest {compound : Css.Compound} {name rest : List Char}
    (hname : IsPseudoElement name) (h : XPath.nodeTest compound = name ++ rest) :
    compound.element = some (name ++ rest) := by
  obtain ⟨element, conditions⟩ := compound
  cases element with
  | some test => exact congrArg some h
  | none =>
      have hstart := hname.isName
      cases name with
      | nil => cases hstart
      | cons c name =>
          obtain ⟨rfl, -⟩ := List.cons.inj h
          cases hstart

/-- Only confusable selectors have a path that both languages accept. -/
theorem confusable_of_accepts [Libraries] [Libraries.LawfulSelectors] {first : Css.Complex}
    {others : List Css.Complex}
    (hxpath : XPath.accepts (String.ofList
      (XPath.ofSelectors XPath.defaultPrefix.toList (first :: others))) = true)
    (hcss : Css.accepts (String.ofList
      (XPath.ofSelectors XPath.defaultPrefix.toList (first :: others))) = true) :
    Confusable (first :: others) := by
  obtain ⟨behind, hquery, hbehind, halone⟩ :=
    XPath.exists_ofSelectors_eq XPath.defaultPrefix.toList first others
  rw [hquery, defaultPrefix_append] at hxpath hcss
  rw [Css.accepts, String.toList_ofList] at hcss
  obtain ⟨after, hafter⟩ := Css.exists_standInElement (by decide) hcss
  obtain ⟨name, rest, hname, htest, hends⟩ := Css.exists_isPseudoElement hbehind hafter
  refine ⟨first, others, name, rest, rfl, hname, element_eq_of_nodeTest hname htest, ?_⟩
  obtain ⟨hblank, hends⟩ | ⟨blanks, c, more, rfl, hblanks, hc⟩ := Css.endsSelector_append hends
  · exact .inr ⟨hblank, halone hends⟩
  · by_cases hcolon : c = ':' ∧ blanks = []
    · obtain ⟨rfl, rfl⟩ := hcolon
      exact .inl rfl
    · have hapart : c = ',' ∨ c = ':' ∧ blanks ≠ [] :=
        hc.imp_right fun h => ⟨h, fun hnil => hcolon ⟨h, hnil⟩⟩
      rw [htest, List.append_assoc, List.append_assoc, List.cons_append,
        XPath.not_accepts_axis (by decide) (by decide) hname.isName hblanks hapart] at hxpath
      cases hxpath

/-- Such a name is accepted behind the default prefix. -/
theorem accepts_isPseudoElement [Libraries] [Libraries.LawfulSelectors] {name : List Char}
    (h : IsPseudoElement name) :
    Css.accepts (String.ofList (XPath.defaultPrefix.toList ++ name)) = true := by
  rw [defaultPrefix_append, Css.accepts, String.toList_ofList,
    Css.withStandIns_element (by decide) h.standInElement?_eq, Css.replaceStandIns]
  exact Libraries.LawfulSelectors.isSelectorList_root (by decide)

/-- A path is refused if it could be taken for a selector. -/
theorem checkXPath_eq [Libraries] {x : String} (hx : XPath.checkSyntax x = .ok ()) : checkXPath x =
    if Css.accepts x then .error (.selector .xpath x .ambiguous (some .css)) else .ok () := by
  rw [checkXPath, hx]

/-- A converted selector is checked as a path. -/
theorem convertQuery_toXPath [Libraries] {query lead x : String}
    (h : cssToXPath query lead = .ok x) :
    (Conversion.toXPath lead).convertQuery query = (checkXPath x).map fun _ => x := by
  rw [Conversion.convertQuery, Conversion.convertText, h]
  change ((liftM (checkXPath x) : Except (Failure BuildError) Unit) >>= fun _ => pure x) = _
  cases checkXPath x <;> rfl

/-- **Converted queries are taken for CSS only where a pseudo-element is a type.** A converted query
that is XPath is accepted as such unless the selectors are confusable, and refused as CSS if they
are a type with the name of a pseudo-element and nothing else. The conversion has the query as its
result where it is accepted, and fails where it is refused. -/
theorem checkXPath_cssToXPath [Libraries] [Libraries.LawfulSelectors] {query x : String}
    (h : cssToXPath query XPath.defaultPrefix = .ok x) (hx : XPath.checkSyntax x = .ok ()) :
    ∃ selectors, Css.readSelectors (Text.trim query.toList) = .ok selectors ∧
      (Conversion.toXPath XPath.defaultPrefix).convertQuery query =
        (checkXPath x).map (fun _ => x) ∧
      (¬ Confusable selectors → checkXPath x = .ok ()) ∧
      ∀ name, IsPseudoElement name → selectors = [⟨⟨some name, []⟩, []⟩] →
        checkXPath x = .error (.selector .xpath x .ambiguous (some .css)) := by
  have hconvert := convertQuery_toXPath h
  rw [cssToXPath] at h
  split at h
  · next selectors hread =>
      cases h
      refine ⟨selectors, hread, hconvert, fun hclear => ?_, ?_⟩
      · cases selectors with
        | nil => cases hx
        | cons first others =>
            have haccepts := mt (confusable_of_accepts (by rw [XPath.accepts, hx]; rfl)) hclear
            rw [checkXPath_eq hx, if_neg haccepts]
      · rintro name hname rfl
        have hquery : XPath.ofSelectors XPath.defaultPrefix.toList [⟨⟨some name, []⟩, []⟩] =
            XPath.defaultPrefix.toList ++ name := by
          simp [XPath.ofSelectors, XPath.pathOf, XPath.nodeTest, XPath.predicates]
        rw [hquery] at hx ⊢
        rw [checkXPath_eq hx, if_pos (accepts_isPseudoElement hname)]
  · cases h

/-- An element named like a pseudo-element, with a step behind it and alone. -/
theorem checkXPath_cssToXPath_marker :
    (Conversion.toXPath XPath.defaultPrefix).convertQuery "marker > b" =
        .ok "descendant-or-self::marker/b" ∧
      (Conversion.toXPath XPath.defaultPrefix).convertQuery "Marker" =
        .error (.refused
          (.selector .xpath "descendant-or-self::Marker" .ambiguous (some .css))) := by
  constructor
  · have hselectors : Css.readSelectors (Text.trim "marker > b".toList) =
        .ok [⟨⟨some "marker".toList, []⟩, [(.child, ⟨some "b".toList, []⟩)]⟩] := by
      decide +kernel
    obtain ⟨selectors, hread, hconvert, hclear, -⟩ :=
      @checkXPath_cssToXPath _ _ "marker > b" "descendant-or-self::marker/b" (by decide +kernel)
        (by decide +kernel)
    rw [hselectors] at hread
    cases hread
    rw [hconvert, hclear ?_]
    · rfl
    rintro ⟨first, others, name, rest, heq, -, helement, hcolon | ⟨-, -, htail, -⟩⟩
    · have hmem := List.mem_append_right name (List.mem_of_mem_head? hcolon)
      cases heq
      rw [← Option.some.inj helement] at hmem
      exact absurd hmem (by decide)
    · cases heq
      cases htail
  · have hselectors : Css.readSelectors (Text.trim "Marker".toList) =
        .ok [⟨⟨some "Marker".toList, []⟩, []⟩] := by
      decide +kernel
    obtain ⟨selectors, hread, hconvert, -, hrefused⟩ :=
      @checkXPath_cssToXPath _ _ "Marker" "descendant-or-self::Marker" (by decide +kernel)
        (by decide +kernel)
    rw [hselectors] at hread
    cases hread
    rw [hconvert, hrefused _ (by decide) rfl]
    rfl

/-- Selectors whose converted queries are XPath and are refused as CSS nevertheless: a type on its
own, and one with a colon, behind which the slash and the star of a step open a comment. -/
theorem converted_taken_for_css :
    (checkCss "marker" = .ok () ∧
      cssToXPath "marker" XPath.defaultPrefix = .ok "descendant-or-self::marker" ∧
      XPath.checkSyntax "descendant-or-self::marker" = .ok () ∧
      checkXPath "descendant-or-self::marker" =
        .error (.selector .xpath "descendant-or-self::marker" .ambiguous (some .css))) ∧
    checkCss "before\\:hover > *" = .ok () ∧
      cssToXPath "before\\:hover > *" XPath.defaultPrefix =
        .ok "descendant-or-self::before:hover/*" ∧
      XPath.checkSyntax "descendant-or-self::before:hover/*" = .ok () ∧
      checkXPath "descendant-or-self::before:hover/*" =
        .error (.selector .xpath "descendant-or-self::before:hover/*" .ambiguous (some .css)) := by
  decide +kernel

end Extractor.Query
