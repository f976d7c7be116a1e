import Extractor.Libraries.Standard
import Extractor.Proofs.Conversion

/-!
# Extractor.Proofs.Recheck

A module is checked before its queries are converted and not again. This is
enough: a query is replaced only by one that is accepted
(`Operation.Accepted.convertOperation`), and a check reads nothing else of a
search. So a map of steps that keeps what is accepted keeps every part of a
check without errors, for chains, for members and for whole registries
(`Registry.check_mapSteps`).
-/

namespace Extractor

open Outcome

/-! ## arguments -/

namespace ElementPredicate

variable {ε : Type} {f : Dialect → String → Except ε (Dialect × String)}
  {p converted : ElementPredicate}

/-- Replacing queries keeps the patterns and replaces each query by itself. -/
theorem mapQueries_eq_ok (h : p.mapQueries f = .ok converted) :
    converted.patterns = p.patterns ∧
      List.Forall₂ (fun q q' => f q.1 q.2 = .ok q') p.queries converted.queries := by
  induction p generalizing converted with
  | finds dialect query =>
      rw [mapQueries, bind_eq_ok] at h
      obtain ⟨⟨dialect', query'⟩, hf, h⟩ := h
      rw [pure_eq_ok] at h
      subst h
      exact ⟨rfl, .cons hf .nil⟩
  | and left right ihl ihr | or left right ihl ihr =>
      rw [mapQueries, bind_eq_ok] at h
      obtain ⟨left', hleft, h⟩ := h
      rw [bind_eq_ok] at h
      obtain ⟨right', hright, h⟩ := h
      rw [pure_eq_ok] at h
      subst h
      obtain ⟨hpl, hql⟩ := ihl hleft
      obtain ⟨hpr, hqr⟩ := ihr hright
      simp only [patterns, queries, leaves, List.filterMap_append] at hpl hpr hql hqr ⊢
      exact ⟨by rw [hpl, hpr], List.rel_append hql hqr⟩
  | not operand ih =>
      rw [mapQueries, bind_eq_ok] at h
      obtain ⟨operand', hoperand, h⟩ := h
      rw [pure_eq_ok] at h
      subst h
      obtain ⟨hpatterns, hqueries⟩ := ih hoperand
      exact ⟨hpatterns, hqueries⟩
  | _ =>
      injection h with h
      subst h
      exact ⟨rfl, .nil⟩

end ElementPredicate

/-- **What an operation with accepted arguments is converted into has accepted arguments.** -/
theorem Operation.Accepted.convertOperation [Libraries] {c : Conversion}
    {operation converted : Operation} (h : operation.Accepted)
    (hconvert : c.convertOperation operation = .ok (some converted)) :
    converted.Accepted := by
  cases operation
  case select | selectAll | remove | isFound =>
    rw [Conversion.convertOperation] at hconvert
    obtain ⟨q, rfl, hq⟩ := Conversion.convertIn_eq_ok hconvert
    exact ⟨by simp, rfl, by simpa [Operation.queries, Operation.query?] using hq⟩
  case filterElements predicate =>
    rw [Conversion.convertOperation] at hconvert
    split at hconvert
    · rw [bind_eq_ok] at hconvert
      obtain ⟨predicate', hmap, hconvert⟩ := hconvert
      rw [pure_eq_ok, Option.some.injEq] at hconvert
      subst hconvert
      obtain ⟨hpatterns, hqueries⟩ := ElementPredicate.mapQueries_eq_ok hmap
      refine ⟨by simp, ?_, fun q' hq' => ?_⟩
      · have hsame := (checkPatterns_eq_ok (by simp) (by simp)).mp h.patterns
        rw [checkPatterns_eq_ok (by simp) (by simp), Operation.patterns, hpatterns]
        exact hsame
      · obtain ⟨q, hq, hf⟩ := exists_left hqueries hq'
        split at hf
        · rw [bind_eq_ok] at hf
          obtain ⟨query, hquery, hf⟩ := hf
          rw [pure_eq_ok] at hf
          subst hf
          exact Conversion.check_of_convertQuery hquery
        · rw [pure_eq_ok] at hf
          subst hf
          exact h.queries q hq
    · simp at hconvert
  all_goals simp [Conversion.convertOperation] at hconvert

/-- A map of steps that rewrites only searches, and accepted arguments into accepted ones. -/
structure Step.Revises [Libraries] (f : Step → Step) : Prop extends Step.Rewrites f where
  accepted : ∀ step : Step, step.operation.Accepted → (f step).operation.Accepted

/-- Converting where it can be done is a revision. -/
theorem Conversion.revises_tryStep [Libraries] (c : Conversion) :
    Step.Revises fun step => (c.tryStep step).1 where
  toRewrites := c.rewrites_tryStep
  accepted step h := by
    unfold tryStep
    split
    · next hoperation => exact h.convertOperation hoperation
    · exact h

/-! ## chains -/

section Chain

variable {f : Step → Step} {schema field : String} {s : ChainState} {place : Nat} {chain : Chain}
  {step : Step} {hook : Hook} {kind : SchemaKind}

/-- A rewritten step leads to the same state. -/
theorem ChainState.advance_map (hf : Step.Rewrites f) :
    s.advance place (f step) = s.advance place step := by
  have halike := Chain.alike_of_rewrites hf step
  cases hdefault : step.isDefault with
  | true =>
      rw [advance_of_isDefault hdefault, advance_of_isDefault (halike.isDefault.trans hdefault)]
  | false =>
      cases hnested : step.operation.isNested with
      | true =>
          rw [advance_of_isNested hnested, advance_of_isNested (halike.isNested.trans hnested),
            halike.returns]
      | false =>
          rw [advance_of_not_isNested hdefault hnested,
            advance_of_not_isNested (halike.isDefault.trans hdefault)
              (halike.isNested.trans hnested),
            halike.returns]

/-- A revised step gets no error that it did not have, and neither does a chain. -/
theorem ChainState.causes_map [Libraries] (hf : Step.Revises f) (h : s.causes place step = []) :
    s.causes place (f step) = [] := by
  have halike := Chain.alike_of_rewrites hf.toRewrites step
  rw [causes_eq_nil_iff] at h ⊢
  rw [halike.isDefault, fits, halike.accepts]
  refine ⟨h.1, ?_⟩
  split
  · next hdefault => simpa [hdefault] using h.2
  · next hdefault =>
      have hstep := h.2
      rw [if_neg hdefault] at hstep
      exact ⟨hstep.1, hf.accepted step hstep.2⟩

theorem checkSteps_map [Libraries] (hf : Step.Revises f)
    (h : checkSteps schema field s place chain = []) :
    checkSteps schema field s place (chain.map f) = [] := by
  induction chain generalizing s place with
  | nil => rfl
  | cons step rest ih =>
      obtain ⟨hstep, hrest⟩ := checkSteps_cons_eq_nil h
      rw [List.map_cons, checkSteps, ChainState.causes_map hf hstep,
        ChainState.advance_map hf.toRewrites, ih hrest]
      rfl

/-- A revised chain passes the check that the chain passes. -/
theorem checkChain_map [Libraries] (hf : Step.Revises f) (h : checkChain schema field chain = []) :
    checkChain schema field (chain.map f) = [] := by
  have hne := checkChain_ne_nil h
  rw [checkChain, if_neg (by simpa using hne)] at h
  rw [checkChain, if_neg (by simpa using hne)]
  exact checkSteps_map hf h

/-! ## members -/

theorem Chain.hasDefault_map (hf : Step.Rewrites f) :
    Chain.hasDefault (chain.map f) = Chain.hasDefault chain := by
  rw [hasDefault, hasDefault, List.any_map]
  exact congrArg chain.any (funext fun step => (Chain.alike_of_rewrites hf step).isDefault)

/-- The causes of members stay away when steps are rewritten. -/
theorem defaultCause?_map (hf : Step.Rewrites f) (h : defaultCause? chain = none) :
    defaultCause? (chain.map f) = none := by
  rw [defaultCause?, Chain.default?_map hf, Chain.cursor_map hf]
  rw [defaultCause?] at h
  split
  · rfl
  · next value hvalue =>
      simp only [hvalue] at h
      split at h
      · contradiction
      · next hjson =>
          rw [if_neg hjson]
          exact h

theorem hookCauses_map (hf : Step.Rewrites f) (h : hookCauses hook chain = []) :
    hookCauses hook (chain.map f) = [] := by
  rw [hookCauses, List.append_eq_nil_iff] at h ⊢
  rw [Chain.hasDefault_map hf, Chain.cursor_map hf, Chain.default?_map hf]
  refine ⟨h.1, ?_⟩
  have hrest := h.2
  split_ifs at hrest ⊢
  · rfl
  · rfl
  · rw [defaultCause?_map hf (by simpa using hrest)]
    rfl

theorem fieldCauses_map (hf : Step.Rewrites f) (h : fieldCauses kind chain = []) :
    fieldCauses kind (chain.map f) = [] := by
  simp only [fieldCauses, Chain.cursor_map hf] at h ⊢
  split_ifs at h ⊢
  rw [defaultCause?_map hf (by simpa using h)]
  rfl

end Chain

/-! ## schemas -/

namespace Registry

variable {f : Step → Step} {r r' : Registry} {name schema field : String} {kind : SchemaKind}
  {resolved : Resolved} {chain : Chain} {hook : Hook}

/-- The reports of hooks and of fields stay without errors. -/
theorem hookReport_map [Libraries] (hf : Step.Revises f)
    (h : (r.hookReport schema kind hook chain).errors = []) :
    (r'.hookReport schema kind hook (chain.map f)).errors = [] := by
  rw [hookReport] at h ⊢
  split
  · next hallows =>
      rw [if_pos hallows, memberReport_errors] at h
      exact memberReport_errors.mpr ⟨checkChain_map hf h.1, hookCauses_map hf.toRewrites h.2⟩
  · rfl

theorem fieldReport_map [Libraries] (hf : Step.Revises f)
    (h : (r.fieldReport schema kind field chain).errors = []) :
    (r'.fieldReport schema kind field (chain.map f)).errors = [] := by
  rw [fieldReport] at h ⊢
  split
  · next hnamed =>
      rw [if_pos hnamed, memberReport_errors] at h
      exact memberReport_errors.mpr ⟨checkChain_map hf h.1, fieldCauses_map hf.toRewrites h.2⟩
  · next hnamed =>
      rw [if_neg hnamed] at h
      contradiction

theorem missingHooks_map :
    missingHooks schema kind (resolved.mapSteps f) = missingHooks schema kind resolved := by
  simp only [missingHooks, Resolved.hook?_mapSteps, Option.isNone_map]

/-- A report without errors stays so when all steps are revised. -/
theorem report_map [Libraries] (hf : Step.Revises f)
    (h : (r.report name kind resolved).errors = []) :
    (r'.report name kind (resolved.mapSteps f)).errors = [] := by
  rw [report, Report.errors_concat_eq_nil] at h ⊢
  simp only [List.mem_append, List.mem_singleton, List.mem_map, or_assoc] at h ⊢
  rintro report (rfl | ⟨⟨hook, chain'⟩, hmem, rfl⟩ | ⟨⟨field, chain'⟩, hmem, rfl⟩ | rfl)
  · rw [missingHooks_map]
    exact h _ (.inl rfl)
  · rw [Resolved.hooks_mapSteps, List.mem_map] at hmem
    obtain ⟨⟨hook, chain⟩, hmem, heq⟩ := hmem
    cases heq
    exact hookReport_map hf (h _ (.inr (.inl ⟨(hook, chain), hmem, rfl⟩)))
  · rw [Resolved.named_mapSteps, List.mem_map] at hmem
    obtain ⟨⟨field, chain⟩, hmem, heq⟩ := hmem
    cases heq
    exact fieldReport_map hf (h _ (.inr (.inr (.inl ⟨(field, chain), hmem, rfl⟩))))
  · rfl

/-- A schema that is checked without errors is so with revised steps. -/
theorem checkSchema_mapSteps [Libraries] (hf : Step.Revises f) {report : Report}
    (h : r.checkSchema name = .ok report) (hok : report.errors = []) :
    ∃ report', (r.mapSteps f).checkSchema name = .ok report' ∧ report'.errors = [] := by
  rw [checkSchema, bind_eq_ok] at h
  obtain ⟨s, hs, h⟩ := h
  rw [bind_eq_ok] at h
  obtain ⟨resolved, hresolved, h⟩ := h
  rw [pure_eq_ok] at h
  subst h
  refine ⟨(r.mapSteps f).report name s.kind (resolved.mapSteps f), ?_, report_map hf hok⟩
  rw [checkSchema, resolve_mapSteps, linearise_mapSteps, hs, hresolved]
  rfl

/-- **A registry that is checked without errors is so with revised steps.** -/
theorem check_mapSteps [Libraries] (hf : Step.Revises f) {report : Report}
    (h : r.check = .ok report) (hok : report.errors = []) :
    ∃ report', (r.mapSteps f).check = .ok report' ∧ report'.errors = [] := by
  rw [check, bind_eq_ok] at h
  obtain ⟨reports, hreports, h⟩ := h
  rw [pure_eq_ok] at h
  subst h
  rw [Report.errors_concat_eq_nil] at hok
  have hnames : (r.mapSteps f).names = r.names := by
    rw [names, names, mapSteps, List.map_map]
    rfl
  have hschemas : ∀ name ∈ r.names, ∃ report',
      (r.mapSteps f).checkSchema name = .ok report' ∧ report'.errors = [] := by
    intro name hname
    obtain ⟨report, hmem, hreport⟩ := exists_right (mapM_eq_ok.mp hreports) hname
    exact checkSchema_mapSteps hf hreport (hok report hmem)
  obtain ⟨reports', hreports', hok'⟩ := exists_mapM hschemas
  refine ⟨.concat reports', ?_, Report.errors_concat_eq_nil.mpr hok'⟩
  rw [check, hnames, hreports']
  rfl

/-- **Converting the queries of a registry that is checked without errors leaves it without
errors**, in either direction and whatever leads the paths. -/
theorem check_convert [Libraries] (r : Registry) (c : Conversion) (report : Report)
    (hcheck : r.check = .ok report) (hok : report.errors = []) :
    ∃ report', (r.convert c).1.check = .ok report' ∧ report'.errors = [] :=
  check_mapSteps c.revises_tryStep hcheck hok

/-- Schemas with queries of both dialects, one of them in an inherited field. -/
def links : Registry where
  schemas := [
    { Schema.ofKind "Base" .item with
      members := [("title", some [
        .plain (.select .css "h1 > b") .document .document,
        .plain .text .document .string])] },
    { Schema.ofKind "Page" .item with
      parents := ["Base"]
      members := [("links", some [
        .plain (.selectAll .css "a[href]") .document .listDocument,
        .plain (.filterElements (.and (.finds .css "b:first-child") (.not (.finds .xpath "//i"))))
          .listDocument .listDocument,
        .plain .textAll .listDocument .listString])] }]

/-- Links with three queries, which are converted and checked again. -/
theorem check_convert_links :
    ∃ report report', links.check = .ok report ∧ report.errors = [] ∧
      (links.convert (.toXPath XPath.defaultPrefix)).2 = 3 ∧
      (links.convert (.toXPath XPath.defaultPrefix)).1.check = .ok report' ∧
      report'.errors = [] := by
  have hok : (match links.check with
      | .ok report => report.isOk
      | .error _ => false) = true := by decide +kernel
  have hcount : (links.convert (.toXPath XPath.defaultPrefix)).2 = 3 := by decide +kernel
  cases hcheck : links.check with
  | error e => simp [hcheck] at hok
  | ok report =>
      have herrors : report.errors = [] := by simpa [hcheck, Report.isOk] using hok
      obtain ⟨report', hcheck', herrors'⟩ :=
        check_convert links (.toXPath XPath.defaultPrefix) report hcheck herrors
      exact ⟨report, report', rfl, herrors, hcount, hcheck', herrors'⟩

end Registry

end Extractor
