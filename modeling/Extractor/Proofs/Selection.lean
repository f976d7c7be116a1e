import Extractor.Proofs.ConditionMeaning
import Extractor.Proofs.Restoration
import Mathlib.Data.List.Induction

/-!
# Extractor.Proofs.Selection

A selector and its query select the same elements. From what one predicate and
one step select (`exists_kept`, `exists_select_stepsOf`) the argument goes over
the compound selectors of a path, from the last one back to the first
(`exists_select_pathOf`), and over the selectors of a group:

* `Query.cssToXPath_selects` — in every document, the query that is written for
  a group of selectors selects the elements that the group matches.
-/

namespace Extractor.XPath.Fragment

open Css (Combinator Compound Condition)
open Document (Place)

variable {d : Document} {p : Place} {ps : List Place} {c : Compound}

/-! ## predicates -/

/-- Nodes are kept by an expression that tells, at whatever place, exactly if it holds of them. -/
theorem exists_kept {e : Expr} {P : Place → Prop} (ps : List Place) (h : ∀ p ∈ ps, ∀ k, ∃ v,
    eval d p k e = some v ∧ (v.keeps k = true ↔ P p)) (k : Nat) :
    ∃ l, kept d e k ps = some l ∧ ∀ q, q ∈ l ↔ q ∈ ps ∧ P q := by
  induction ps generalizing k with
  | nil => exact ⟨[], rfl, by simp⟩
  | cons p ps ih =>
      obtain ⟨v, hv, hP⟩ := h p List.mem_cons_self k
      obtain ⟨later, hlater, hmem⟩ := ih (fun q hq => h q (List.mem_cons_of_mem p hq)) (k + 1)
      refine ⟨if v.keeps k then p :: later else later, by simp [kept, hv, hlater], fun q => ?_⟩
      by_cases hkeeps : v.keeps k = true
      · have hp := hP.mp hkeeps
        rw [if_pos hkeeps, List.mem_cons, List.mem_cons, hmem]
        constructor
        · rintro (rfl | ⟨hq, hPq⟩)
          · exact ⟨.inl rfl, hp⟩
          · exact ⟨.inr hq, hPq⟩
        · rintro ⟨rfl | hq, hPq⟩
          · exact .inl rfl
          · exact .inr ⟨hq, hPq⟩
      · have hp := hP.not.mp hkeeps
        rw [if_neg hkeeps, List.mem_cons, hmem]
        constructor
        · exact fun ⟨hq, hPq⟩ => ⟨.inr hq, hPq⟩
        · rintro ⟨rfl | hq, hPq⟩
          · exact absurd hPq hp
          · exact ⟨hq, hPq⟩

/-- The tests of a compound keep the nodes that meet its conditions. -/
theorem exists_keptByAll {conditions : List Condition} (hff : d.NoFormFeed)
    (hgrammar : ∀ condition ∈ conditions, condition.InGrammar)
    (hproper : ∀ condition ∈ conditions, condition.IsProper) (ps : List Place) :
    ∃ l, keptByAll d (conditions.map conditionExpr) ps = some l ∧
      ∀ q, q ∈ l ↔ q ∈ ps ∧ ∀ condition ∈ conditions, condition.Holds d q := by
  induction conditions generalizing ps with
  | nil => exact ⟨ps, rfl, by simp⟩
  | cons condition conditions ih =>
      rw [List.forall_mem_cons] at hgrammar hproper
      obtain ⟨first, hfirst, hmem⟩ := exists_kept ps (fun p _ k =>
        @eval_conditionExpr d p k condition hff hgrammar.1 hproper.1) 1
      obtain ⟨later, hlater, hmem'⟩ := ih hgrammar.2 hproper.2 first
      refine ⟨later, by simp [keptByAll, hfirst, hlater], fun q => ?_⟩
      rw [hmem', hmem, List.forall_mem_cons, and_assoc]

/-! ## tests -/

/-- A node test accepts the elements with the name, or all. -/
theorem accepts_testOf (c : Compound) (q : Place) :
    (testOf c).accepts d q = true ↔ d.isElement q = true ∧
      ∀ name ∈ c.element, name = ['*'] ∨ (d.tag? q).map Tag.name = some name := by
  unfold testOf
  cases helement : c.element with
  | none => simp [nodeTest, helement, NodeTest.accepts]
  | some name =>
      have hname : nodeTest c = name := by simp [nodeTest, helement]
      rw [hname]
      by_cases hstar : name = ['*']
      · simp [hstar, NodeTest.accepts]
      · cases htag : d.tag? q <;> simp [hstar, NodeTest.accepts, Document.isElement, htag]

/-- A compound selector is its node test and its conditions. -/
theorem matches_iff (c : Compound) (q : Place) : c.Matches d q ↔
    (testOf c).accepts d q = true ∧ ∀ condition ∈ c.conditions, condition.Holds d q := by
  rw [accepts_testOf]
  constructor
  · rintro ⟨helement, htype, hconditions⟩
    exact ⟨⟨helement, htype⟩, hconditions⟩
  · rintro ⟨⟨helement, htype⟩, hconditions⟩
    exact ⟨helement, htype, hconditions⟩

/-- The next sibling's test is true of the first node only. -/
theorem eval_nextExpr {k : Nat} (test : NodeTest) (hp : d.isElement p = true) :
    eval d p k (nextExpr test) = some (.truth (test.accepts d p && (k : Int) == 1)) := by
  cases test with
  | any => simp [nextExpr, eval, Value.equal?, NodeTest.accepts, hp]
  | named name =>
      obtain ⟨tag, htag⟩ := Option.isSome_iff_exists.mp hp
      simp [nextExpr, eval, Value.equal?, Value.isTrue, NodeTest.accepts, htag]

/-- Only the first of several siblings can be next. -/
theorem kept_nextExpr_later (test : NodeTest) (hps : ∀ p ∈ ps, d.isElement p = true) {k : Nat}
    (hk : 1 < k) : kept d (nextExpr test) k ps = some [] := by
  induction ps generalizing k with
  | nil => rfl
  | cons p ps ih =>
      rw [List.forall_mem_cons] at hps
      have hlater := ih hps.2 (Nat.lt_succ_of_lt hk)
      have hposition : ((k : Int) == 1) = false := by
        rw [beq_eq_false_iff_ne]
        omega
      simp [kept, eval_nextExpr test hps.1, hlater, hposition, Value.keeps, Value.isTrue]

theorem kept_nextExpr (test : NodeTest) (hps : ∀ p ∈ ps, d.isElement p = true) :
    kept d (nextExpr test) 1 ps = some (ps.head?.filter fun p => test.accepts d p).toList := by
  cases ps with
  | nil => rfl
  | cons p ps =>
      rw [List.forall_mem_cons] at hps
      have hlater := kept_nextExpr_later test hps.2 (by decide : 1 < 2)
      simp only [kept, eval_nextExpr test hps.1, hlater]
      cases haccepts : test.accepts d p <;>
        simp [Value.keeps, Value.isTrue, Option.filter, haccepts]

/-! ## from many nodes -/

/-- Selecting from many nodes collects what is selected from each. -/
theorem exists_mapM {α : Type} {f : α → Option (List Place)} {R : α → Place → Prop} (as : List α)
    (h : ∀ a ∈ as, ∃ l, f a = some l ∧ ∀ q, q ∈ l ↔ R a q) :
    ∃ ls, as.mapM f = some ls ∧ ∀ q, q ∈ ls.flatten ↔ ∃ a ∈ as, R a q := by
  induction as with
  | nil => exact ⟨[], rfl, by simp⟩
  | cons a as ih =>
      rw [List.forall_mem_cons] at h
      obtain ⟨l, hl, hmem⟩ := h.1
      obtain ⟨ls, hls, hmem'⟩ := ih h.2
      refine ⟨l :: ls, by simp [List.mapM_cons, hl, hls], fun q => ?_⟩
      rw [List.flatten_cons, List.mem_append, hmem, hmem']
      simp

theorem exists_select_step {s : Step} {R : Place → Place → Prop} (ps : List Place)
    (h : ∀ p ∈ ps, ∃ l, s.select d p = some l ∧ ∀ q, q ∈ l ↔ R p q) :
    ∃ l, Path.select d [s] ps = some l ∧ ∀ q, q ∈ l ↔ ∃ p ∈ ps, R p q := by
  obtain ⟨ls, hls, hmem⟩ := exists_mapM ps h
  exact ⟨ls.flatten, by simp [Path.select, hls], hmem⟩

/-- Steps one behind the other are selected one after the other. -/
theorem select_append (a b : Path) (ps : List Place) :
    Path.select d (a ++ b) ps = (Path.select d a ps).bind (Path.select d b) := by
  induction a generalizing ps with
  | nil => rfl
  | cons s a ih =>
      simp only [List.cons_append, Path.select]
      cases ps.mapM (s.select d) with
      | none => rfl
      | some reached => exact ih reached.flatten

/-- A step finds what a combinator finds if it goes to the same places from each node. -/
theorem exists_select_joined {s : Step} {R : Place → Place → Prop} (combinator : Combinator)
    (hR : ∀ p q, d.isElement q = true → (R p q ↔ combinator.Joins d p q)) (ps : List Place)
    (h : ∀ p, ∃ l, s.select d p = some l ∧ ∀ q, q ∈ l ↔ R p q ∧ c.Matches d q) :
    ∃ l, Path.select d [s] ps = some l ∧
      ∀ q, q ∈ l ↔ c.Matches d q ∧ ∃ p ∈ ps, combinator.Joins d p q := by
  obtain ⟨l, hl, hmem⟩ := exists_select_step ps fun p _ => h p
  refine ⟨l, hl, fun q => ?_⟩
  rw [hmem]
  constructor
  · rintro ⟨p, hp, hR', hq⟩
    exact ⟨hq, p, hp, (hR p q hq.element).mp hR'⟩
  · rintro ⟨hq, p, hp, hjoins⟩
    exact ⟨p, hp, (hR p q hq.element).mpr hjoins, hq⟩

/-- The elements below an element are the children of it and of the elements below it. -/
theorem joins_descendant_iff {p q : Place} (hp : d.isElement p = true) (hq : d.isElement q = true) :
    Combinator.descendant.Joins d p q ↔
      ∃ r, (r ∈ d.descendantsOrSelf p ∧ d.isElement r = true) ∧ q ∈ d.children r := by
  have hnode := Document.isSome_node? hq
  constructor
  · rintro ⟨⟨t, rfl⟩, hne⟩
    obtain ⟨i, t, rfl⟩ := List.exists_cons_of_ne_nil (fun ht : t = [] => hne (by rw [ht]; rfl))
    have hr : d.isElement (t ++ p) = true :=
      Document.isElement_parent hnode (by simp [Document.ne_nil_of_isElement hp])
    exact ⟨t ++ p, ⟨(Document.mem_descendantsOrSelf (Document.isSome_node? hr)).mpr
      (List.suffix_append t p), hr⟩, (Document.mem_children hnode).mpr ⟨i, rfl⟩⟩
  · rintro ⟨r, ⟨hr, helement⟩, hchild⟩
    obtain ⟨i, rfl⟩ := (Document.mem_children hnode).mp hchild
    have hsuffix := (Document.mem_descendantsOrSelf (Document.isSome_node? helement)).mp hr
    refine ⟨hsuffix.trans (List.suffix_cons i r), ?_⟩
    rintro rfl
    have hlength := hsuffix.length_le
    rw [List.length_cons] at hlength
    omega

/-! ## steps and paths -/

section Steps

variable (hff : d.NoFormFeed) (hc : c.InGrammar)
  (hproper : ∀ condition ∈ c.conditions, condition.IsProper)

include hff hc hproper

/-- A step along an axis selects the places of the axis that match the compound. -/
theorem exists_select_compound (axis : Axis) (p : Place) :
    ∃ l, Step.select d ⟨axis, testOf c, c.conditions.map conditionExpr⟩ p = some l ∧
      ∀ q, q ∈ l ↔ q ∈ axis.places d p ∧ c.Matches d q := by
  obtain ⟨l, hl, hmem⟩ := exists_keptByAll hff hc.conditions hproper
    (candidates d axis (testOf c) p)
  refine ⟨l, hl, fun q => ?_⟩
  rw [hmem, candidates, List.mem_filter, and_assoc, matches_iff]

theorem exists_select_next (p : Place) :
    ∃ l, Step.select d ⟨.followingSibling, .any, nextExpr (testOf c) ::
        c.conditions.map conditionExpr⟩ p = some l ∧
      ∀ q, q ∈ l ↔ (d.following p).find? d.isElement = some q ∧ c.Matches d q := by
  have helements : ∀ q ∈ candidates d .followingSibling .any p, d.isElement q = true :=
    fun q hq => (List.mem_filter.mp hq).2
  have hnext := kept_nextExpr (testOf c) helements
  have hhead : (candidates d .followingSibling .any p).head? = (d.following p).find? d.isElement :=
    List.head?_filter ..
  obtain ⟨l, hl, hmem⟩ := exists_keptByAll hff hc.conditions hproper
    (((d.following p).find? d.isElement).filter fun q => (testOf c).accepts d q).toList
  rw [hhead] at hnext
  refine ⟨l, by simp [Step.select, keptByAll, hnext, hl], fun q => ?_⟩
  rw [hmem, Option.mem_toList, Option.filter_eq_some_iff, and_assoc, matches_iff]

theorem exists_select_descendant (hps : ∀ p ∈ ps, d.isElement p = true) :
    ∃ l, Path.select d (stepsOf .descendant c) ps = some l ∧
      ∀ q, q ∈ l ↔ c.Matches d q ∧ ∃ p ∈ ps, Combinator.descendant.Joins d p q := by
  obtain ⟨first, hfirst, hmem⟩ := @exists_select_step d ⟨.descendantOrSelf, .any, []⟩
    (fun p r => r ∈ d.descendantsOrSelf p ∧ d.isElement r = true) ps
    fun p _ => ⟨_, rfl, fun r => List.mem_filter⟩
  obtain ⟨l, hl, hmem'⟩ := exists_select_step first fun r _ =>
    exists_select_compound hff hc hproper .child r
  refine ⟨l, ?_, fun q => ?_⟩
  · have happend := select_append [⟨.descendantOrSelf, .any, []⟩]
      [⟨.child, testOf c, c.conditions.map conditionExpr⟩] ps (d := d)
    rw [hfirst] at happend
    exact happend.trans hl
  · rw [hmem']
    constructor
    · rintro ⟨r, hr, hchild, hq⟩
      obtain ⟨p, hp, hbelow⟩ := (hmem r).mp hr
      exact ⟨hq, p, hp, (joins_descendant_iff (hps p hp) hq.element).mpr ⟨r, hbelow, hchild⟩⟩
    · rintro ⟨hq, p, hp, hjoins⟩
      obtain ⟨r, hbelow, hchild⟩ := (joins_descendant_iff (hps p hp) hq.element).mp hjoins
      exact ⟨r, (hmem r).mpr ⟨p, hp, hbelow⟩, hchild, hq⟩

/-- **The steps of a combinator select what it joins to a compound.** -/
theorem exists_select_stepsOf (combinator : Combinator)
    (hps : ∀ p ∈ ps, d.isElement p = true) :
    ∃ l, Path.select d (stepsOf combinator c) ps = some l ∧
      ∀ q, q ∈ l ↔ c.Matches d q ∧ ∃ p ∈ ps, combinator.Joins d p q := by
  cases combinator with
  | descendant => exact exists_select_descendant hff hc hproper hps
  | child =>
      exact exists_select_joined .child
        (fun _ _ hq => Document.mem_children (Document.isSome_node? hq)) ps
        (exists_select_compound hff hc hproper .child)
  | adjacent =>
      exact exists_select_joined .adjacent
        (fun _ _ hq => Document.find?_following.trans (and_iff_right hq)) ps
        (exists_select_next hff hc hproper)
  | sibling =>
      exact exists_select_joined .sibling
        (fun _ _ hq => Document.mem_following (Document.isSome_node? hq)) ps
        (exists_select_compound hff hc hproper .followingSibling)

end Steps

/-- Whatever matches a selector is an element. -/
theorem isElement_of_matches {s : Css.Complex} {q : Place} (h : s.Matches d q) :
    d.isElement q = true := by
  unfold Css.Complex.Matches at h
  cases htail : s.tail.reverse with
  | nil =>
      rw [htail] at h
      exact h.element
  | cons last earlier =>
      rw [htail] at h
      exact h.1.element

/-- **The path of a selector leads to what the selector matches.** By induction on the compound
selectors from the last one back, as the selector itself is matched. -/
theorem exists_select_pathOf (hff : d.NoFormFeed) {s : Css.Complex} (hgrammar : s.InGrammar)
    (hproper : ∀ c ∈ s.compounds, ∀ condition ∈ c.conditions, condition.IsProper) :
    ∃ l, Path.select d (pathOf s) [[]] = some l ∧ ∀ q, q ∈ l ↔ s.Matches d q := by
  obtain ⟨head, tail⟩ := s
  induction tail using List.reverseRecOn with
  | nil =>
      obtain ⟨l, hl, hmem⟩ := exists_select_step [[]] fun p _ =>
        exists_select_compound hff (hgrammar head List.mem_cons_self)
          (hproper head List.mem_cons_self) .descendantOrSelf p
      refine ⟨l, hl, fun q => ?_⟩
      rw [hmem]
      constructor
      · rintro ⟨p, -, -, hq⟩
        exact hq
      · intro hq
        have hmatch : head.Matches d q := hq
        exact ⟨[], List.mem_singleton_self _, (Document.mem_descendantsOrSelf
          (Document.isSome_node? hmatch.element)).mpr (List.nil_suffix ..), hmatch⟩
  | append_singleton tail last ih =>
      obtain ⟨combinator, c⟩ := last
      have hlast : c ∈ Css.Complex.compounds ⟨head, tail ++ [(combinator, c)]⟩ := by
        simp [Css.Complex.compounds]
      have hearlier : ∀ c' ∈ Css.Complex.compounds ⟨head, tail⟩,
          c' ∈ Css.Complex.compounds ⟨head, tail ++ [(combinator, c)]⟩ := by
        intro c' hc'
        rw [Css.Complex.compounds, List.mem_cons] at hc' ⊢
        exact hc'.imp_right fun hmem => by simp [hmem]
      obtain ⟨earlier, hearlier', hmem⟩ := ih (fun c' hc' => hgrammar c' (hearlier c' hc'))
        fun c' hc' => hproper c' (hearlier c' hc')
      have helements : ∀ p ∈ earlier, d.isElement p = true := fun p hp =>
        isElement_of_matches ((hmem p).mp hp)
      obtain ⟨l, hl, hmem'⟩ := exists_select_stepsOf hff (hgrammar c hlast)
        (hproper c hlast) combinator helements
      refine ⟨l, ?_, fun q => ?_⟩
      · have hpath : pathOf ⟨head, tail ++ [(combinator, c)]⟩ =
            pathOf ⟨head, tail⟩ ++ stepsOf combinator c := by
          simp [pathOf, tailPath]
        rw [hpath, select_append, hearlier']
        exact hl
      · have hmatches : Css.Complex.Matches d ⟨head, tail ++ [(combinator, c)]⟩ q ↔
            c.Matches d q ∧ ∃ p, Css.Complex.Matches d ⟨head, tail⟩ p ∧ combinator.Joins d p q := by
          simp [Css.Complex.Matches, Css.MatchesBack]
        rw [hmem', hmatches]
        simp only [hmem]

/-- A query selects exactly what a group of selectors matches. -/
theorem exists_select {selectors : List Css.Complex} (hff : d.NoFormFeed) (hne : selectors ≠ [])
    (hgrammar : ∀ s ∈ selectors, s.InGrammar)
    (hproper : ∀ s ∈ selectors, ∀ c ∈ s.compounds, ∀ condition ∈ c.conditions,
      condition.IsProper) :
    ∃ l, select d (ofSelectors defaultPrefix.toList selectors) = some l ∧
      ∀ q, q ∈ l ↔ Css.GroupMatches d selectors q := by
  obtain ⟨ls, hls, hmem⟩ := exists_mapM selectors fun s hs =>
    exists_select_pathOf hff (hgrammar s hs) (hproper s hs)
  refine ⟨ls.flatten, ?_, hmem⟩
  simp [select, parse_ofSelectors hne hgrammar, List.mapM_map, Function.comp_def, hls]

end Extractor.XPath.Fragment

namespace Extractor.Query

/-- **Selectors and their query select the same elements.** A group of selectors of the grammar is
converted, from its canonical text and from every other text that is read as this group, and the
query that comes of it has an answer in every document: the elements that the group matches. -/
theorem cssToXPath_selects {selectors : List Css.Complex} (hne : selectors ≠ [])
    (hgrammar : ∀ s ∈ selectors, s.InGrammar)
    (hproper : ∀ s ∈ selectors, ∀ c ∈ s.compounds, ∀ condition ∈ c.conditions,
      condition.IsProper) :
    ∃ x, cssToXPath (String.ofList (Css.groupText selectors)) XPath.defaultPrefix = .ok x ∧
      (∀ query, Css.readSelectors (Text.trim query.toList) = .ok selectors →
        cssToXPath query XPath.defaultPrefix = .ok x) ∧
      ∀ d : Document, d.NoFormFeed → ∃ places, XPath.Fragment.select d x.toList = some places ∧
        ∀ p, p ∈ places ↔ Css.GroupMatches d selectors p := by
  refine ⟨String.ofList (XPath.ofSelectors XPath.defaultPrefix.toList selectors),
    cssToXPath_groupText hne (fun s hs => (hgrammar s hs).isReadable) _, fun query hquery => ?_,
    fun d hff => ?_⟩
  · rw [cssToXPath, hquery]
  · rw [String.toList_ofList]
    exact XPath.Fragment.exists_select hff hne hgrammar hproper

/-- A list of two items; a text stands between them, and a link in the second one. -/
def menu : Document :=
  ⟨[.element { name := "ul".toList, attributes := [("class".toList, "wide \n menu".toList)] }
    [.element { name := "li".toList } [.text "one".toList], .text " ".toList,
      .element { name := "li".toList }
        [.element { name := "a".toList, attributes := [("href".toList, "pdf".toList)] } []]]]⟩

/-- The items behind an item, links to a file with a longer name than there is, and empty links. -/
def menuSelectors : List Css.Complex :=
  [⟨⟨some "ul".toList, [.hasClass "menu".toList]⟩,
      [(.child, ⟨some "li".toList, []⟩), (.adjacent, ⟨some "li".toList, []⟩)]⟩,
    ⟨⟨none, [.attributeIs "href".toList .ends "a.pdf".toList]⟩, []⟩,
    ⟨⟨some "ul".toList, []⟩, [(.descendant, ⟨some "a".toList, [.empty]⟩)]⟩]

/-- The elements of a menu that three selectors match. -/
theorem cssToXPath_selects_menu :
    ∃ x, cssToXPath "ul.menu > li + li, [href$=\"a.pdf\"], ul a:empty" XPath.defaultPrefix = .ok x ∧
      XPath.Fragment.select menu x.toList = some [[2, 0], [0, 2, 0]] ∧
      ∀ p, Css.GroupMatches menu menuSelectors p ↔ p = [2, 0] ∨ p = [0, 2, 0] := by
  have hne : menuSelectors ≠ [] := by decide
  have hgrammar : ∀ s ∈ menuSelectors, s.InGrammar := by decide
  have hproper : ∀ s ∈ menuSelectors, ∀ c ∈ s.compounds, ∀ condition ∈ c.conditions,
      condition.IsProper := by decide
  have hff : menu.NoFormFeed := by decide
  obtain ⟨x, hx, -, hselects⟩ := cssToXPath_selects hne hgrammar hproper
  have htext : String.ofList (Css.groupText menuSelectors) =
      "ul.menu > li + li, [href$=\"a.pdf\"], ul a:empty" := by decide
  have hpath := cssToXPath_groupText hne (fun s hs => (hgrammar s hs).isReadable)
    XPath.defaultPrefix
  obtain rfl := Except.ok.inj (hx.symm.trans hpath)
  rw [htext] at hx
  obtain ⟨places, hplaces, hmem⟩ := hselects menu hff
  have hselect : XPath.Fragment.select menu (String.ofList
      (XPath.ofSelectors XPath.defaultPrefix.toList menuSelectors)).toList =
        some [[2, 0], [0, 2, 0]] := by
    rw [String.toList_ofList]
    decide +kernel
  refine ⟨_, hx, hselect, fun p => ?_⟩
  obtain rfl := Option.some.inj (hplaces.symm.trans hselect)
  simpa using (hmem p).symm

end Extractor.Query
