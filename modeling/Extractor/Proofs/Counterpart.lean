import Extractor.Libraries.Standard
import Extractor.Proofs.Conversion

/-!
# Extractor.Proofs.Counterpart

What becomes of a chain whose queries are converted. Every step turns into its
counterpart: a query of the source dialect is replaced by what it is converted
into, in a step of the same sort and at the same place of a condition, and all
else stays (`convertChain_eq_ok_iff`). No query of the source dialect is left, so
a second conversion of the same direction finds nothing to do, and one of the
other direction leads back to the same sorts of steps (`Conversion.keeps_shape`).
-/

namespace Extractor

open Outcome

/-! ## conditions -/

namespace ElementPredicate

/-- Whether the condition is without connectives. -/
def isLeaf : ElementPredicate → Bool
  | and .. | or .. | not _ => false
  | _ => true

/-- The condition without the texts of its queries. -/
def outline : ElementPredicate → ElementPredicate
  | finds dialect _ => finds dialect ""
  | and left right => and left.outline right.outline
  | or left right => or left.outline right.outline
  | not operand => not operand.outline
  | leaf => leaf

/-- The first condition turns into the second one: in each part without connectives a query of the
source dialect is replaced by what it is converted into. -/
inductive Turns [Libraries] (c : Conversion) : ElementPredicate → ElementPredicate → Prop
  | query {query converted : String} (h : c.convertQuery query = .ok converted) :
      Turns c (finds c.source query) (finds c.target converted)
  | leaf {p : ElementPredicate} (hleaf : p.isLeaf = true) (h : ∀ q ∈ p.queries, q.1 ≠ c.source) :
      Turns c p p
  | and {left left' right right' : ElementPredicate} (hleft : Turns c left left')
      (hright : Turns c right right') : Turns c (and left right) (and left' right')
  | or {left left' right right' : ElementPredicate} (hleft : Turns c left left')
      (hright : Turns c right right') : Turns c (or left right) (or left' right')
  | not {operand operand' : ElementPredicate} (h : Turns c operand operand') :
      Turns c (not operand) (not operand')

variable {c : Conversion} {p p' p'' : ElementPredicate}

/-- The queries of a condition are those of its parts. -/
@[simp] theorem queries_finds (dialect : Dialect) (query : String) :
    (finds dialect query).queries = [(dialect, query)] := rfl

@[simp] theorem queries_and (left right : ElementPredicate) :
    (and left right).queries = left.queries ++ right.queries := by
  simp [queries, leaves]

@[simp] theorem queries_or (left right : ElementPredicate) :
    (or left right).queries = left.queries ++ right.queries := by
  simp [queries, leaves]

@[simp] theorem queries_not (operand : ElementPredicate) :
    (not operand).queries = operand.queries := rfl

/-- The queries of a condition can be converted exactly if it turns into another condition. -/
theorem mapQueries_eq_ok_iff [Libraries] :
    (p.mapQueries fun dialect query => do
      if dialect = c.source then return (c.target, ← c.convertQuery query)
      else return (dialect, query)) = .ok p' ↔ p.Turns c p' := by
  constructor
  · intro h
    induction p generalizing p' with
    | finds dialect query =>
        by_cases hdialect : dialect = c.source
        · subst hdialect
          simp only [mapQueries, if_true, bind_eq_ok, pure_eq_ok] at h
          obtain ⟨_, ⟨converted, hconverted, rfl⟩, rfl⟩ := h
          exact .query hconverted
        · simp only [mapQueries, hdialect, if_false, pure_bind, pure_eq_ok] at h
          subst h
          exact .leaf rfl (by simpa using hdialect)
    | and left right ihl ihr =>
        simp only [mapQueries, bind_eq_ok, pure_eq_ok] at h
        obtain ⟨left', hleft, right', hright, rfl⟩ := h
        exact .and (ihl hleft) (ihr hright)
    | or left right ihl ihr =>
        simp only [mapQueries, bind_eq_ok, pure_eq_ok] at h
        obtain ⟨left', hleft, right', hright, rfl⟩ := h
        exact .or (ihl hleft) (ihr hright)
    | not operand ih =>
        simp only [mapQueries, bind_eq_ok, pure_eq_ok] at h
        obtain ⟨operand', hoperand, rfl⟩ := h
        exact .not (ih hoperand)
    | _ =>
        cases h
        exact .leaf rfl (by simp [queries, leaves, query?])
  · intro h
    induction h with
    | query hconverted => simp [mapQueries, hconverted]
    | @leaf p hleaf hother =>
        cases p with
        | finds dialect query => simp_all [mapQueries]
        | and | or | not => cases hleaf
        | _ => rfl
    | and _ _ ihl ihr | or _ _ ihl ihr =>
        simp only [mapQueries, ihl, ihr, ok_bind]
        rfl
    | not _ ih =>
        simp only [mapQueries, ih, ok_bind]
        rfl

/-- Nothing is left to be converted. -/
theorem Turns.ne_source [Libraries] (h : p.Turns c p') : ∀ q ∈ p'.queries, q.1 ≠ c.source := by
  induction h with
  | query => cases c <;> simp [Conversion.source, Conversion.target]
  | leaf _ hother => exact hother
  | and _ _ ihl ihr =>
      rw [queries_and, List.forall_mem_append]
      exact ⟨ihl, ihr⟩
  | or _ _ ihl ihr =>
      rw [queries_or, List.forall_mem_append]
      exact ⟨ihl, ihr⟩
  | not _ ih => exact ih

/-- A condition without queries of the source dialect stays. -/
theorem Turns.eq_self [Libraries] (h : p.Turns c p') (hother : ∀ q ∈ p.queries, q.1 ≠ c.source) :
    p' = p := by
  induction h with
  | query => simp at hother
  | leaf => rfl
  | and _ _ ihl ihr | or _ _ ihl ihr =>
      simp only [queries_and, queries_or, List.forall_mem_append] at hother
      rw [ihl hother.1, ihr hother.2]
  | not _ ih => rw [ih hother]

/-- A condition without a query in the source language turns into itself. -/
theorem Turns.self [Libraries] (h : ∀ q ∈ p.queries, q.1 ≠ c.source) : p.Turns c p := by
  induction p with
  | and left right ihl ihr =>
      simp only [queries_and, List.forall_mem_append] at h
      exact .and (ihl h.1) (ihr h.2)
  | or left right ihl ihr =>
      simp only [queries_or, List.forall_mem_append] at h
      exact .or (ihl h.1) (ihr h.2)
  | not operand ih => exact .not (ih h)
  | _ => exact .leaf rfl h

/-- There and back again. -/
theorem Turns.outline_eq [Libraries] {lead : String} (h : p.Turns (.toXPath lead) p')
    (hback : p'.Turns .toCss p'') (hcss : ∀ q ∈ p.queries, q.1 = .css) :
    p''.outline = p.outline := by
  induction h generalizing p'' with
  | query =>
      cases hback with
      | query => rfl
      | leaf _ hother => simp [Conversion.source, Conversion.target] at hother
  | @leaf p _ hother =>
      have hnone : p.queries = [] :=
        List.eq_nil_iff_forall_not_mem.mpr fun q hq => hother q hq (hcss q hq)
      rw [hback.eq_self (by simp [hnone])]
  | and _ _ ihl ihr =>
      simp only [queries_and, List.forall_mem_append] at hcss
      cases hback with
      | leaf hleaf => cases hleaf
      | and hleft hright => rw [outline, outline, ihl hleft hcss.1, ihr hright hcss.2]
  | or _ _ ihl ihr =>
      simp only [queries_or, List.forall_mem_append] at hcss
      cases hback with
      | leaf hleaf => cases hleaf
      | or hleft hright => rw [outline, outline, ihl hleft hcss.1, ihr hright hcss.2]
  | not _ ih =>
      cases hback with
      | leaf hleaf => cases hleaf
      | not hoperand => rw [outline, outline, ih hoperand hcss]

end ElementPredicate

/-! ## operations -/

namespace Operation

/-- The operation without the texts of its queries. -/
def outline : Operation → Operation
  | select dialect _ => select dialect ""
  | selectAll dialect _ => selectAll dialect ""
  | remove dialect _ => remove dialect ""
  | isFound dialect _ message => isFound dialect "" message
  | filterElements predicate => filterElements predicate.outline
  | operation => operation

/-- The first operation turns into the second one: one that searches by a query of the source
dialect into the same sort of search, and one without such queries into itself. -/
inductive Turns [Libraries] (c : Conversion) : Operation → Operation → Prop
  | select {query converted : String} (h : c.convertQuery query = .ok converted) :
      Turns c (select c.source query) (select c.target converted)
  | selectAll {query converted : String} (h : c.convertQuery query = .ok converted) :
      Turns c (selectAll c.source query) (selectAll c.target converted)
  | remove {query converted : String} (h : c.convertQuery query = .ok converted) :
      Turns c (remove c.source query) (remove c.target converted)
  | isFound {query converted message : String} (h : c.convertQuery query = .ok converted) :
      Turns c (isFound c.source query message) (isFound c.target converted message)
  | filterElements {p p' : ElementPredicate} (h : p.Turns c p') :
      Turns c (filterElements p) (filterElements p')
  | other {operation : Operation} (h : ∀ q ∈ operation.queries, q.1 ≠ c.source) :
      Turns c operation operation

variable {c : Conversion} {operation operation' operation'' : Operation}

/-- Nothing is left to be converted. -/
theorem Turns.ne_source [Libraries] (h : operation.Turns c operation') :
    ∀ q ∈ operation'.queries, q.1 ≠ c.source := by
  have htarget : c.target ≠ c.source := by cases c <;> simp [Conversion.source, Conversion.target]
  cases h with
  | filterElements hp => exact hp.ne_source
  | other hother => exact hother
  | _ => simpa [queries, query?] using htarget

/-- An operation without a query in the source language stays as it is. -/
theorem Turns.eq_self [Libraries] (h : operation.Turns c operation')
    (hother : ∀ q ∈ operation.queries, q.1 ≠ c.source) : operation' = operation := by
  cases h with
  | filterElements hp => rw [hp.eq_self hother]
  | other => rfl
  | _ => simp [queries, query?] at hother

/-- There and back again. -/
theorem Turns.outline_eq [Libraries] {lead : String}
    (h : operation.Turns (.toXPath lead) operation') (hback : operation'.Turns .toCss operation'')
    (hcss : ∀ q ∈ operation.queries, q.1 = .css) :
    operation''.outline = operation.outline := by
  cases h with
  | filterElements hp =>
      cases hback with
      | filterElements hp' => rw [outline, outline, hp.outline_eq hp' hcss]
      | other hother => rw [outline, outline, hp.outline_eq (.self hother) hcss]
  | other hother =>
      have hnone : operation.queries = [] :=
        List.eq_nil_iff_forall_not_mem.mpr fun q hq => hother q hq (hcss q hq)
      rw [hback.eq_self (by simp [hnone])]
  | select | selectAll | remove | isFound =>
      cases hback with
      | other hother => simp [queries, query?, Conversion.source, Conversion.target] at hother
      | _ => rfl

theorem name_outline (operation : Operation) : operation.outline.name = operation.name := by
  cases operation
  case select dialect _ | selectAll dialect _ | remove dialect _ | isFound dialect _ _ =>
    cases dialect <;> rfl
  all_goals rfl

end Operation

namespace Conversion

variable {c : Conversion} {dialect : Dialect} {query : String} {operation converted : Operation}

/-- A query is converted if it is in the source language. -/
theorem convertIn_eq_some_iff [Libraries] {make : Dialect → String → Operation} :
    c.convertIn dialect query make = .ok (some converted) ↔
      dialect = c.source ∧ ∃ q, c.convertQuery query = .ok q ∧ make c.target q = converted := by
  by_cases hdialect : dialect = c.source
  · simp only [convertIn, hdialect, if_true, bind_eq_ok, pure_eq_ok, Option.some.injEq, true_and]
  · simp [convertIn, hdialect]

/-- A query in another language is left alone. -/
theorem convertIn_eq_none_iff [Libraries] {make : Dialect → String → Operation} :
    c.convertIn dialect query make = .ok none ↔ dialect ≠ c.source := by
  by_cases hdialect : dialect = c.source
  · simp only [convertIn, hdialect, if_true, bind_eq_ok, pure_eq_ok]
    simp
  · simp [convertIn, hdialect]

theorem any_source_iff {p : ElementPredicate} :
    p.queries.any (·.1 = c.source) = true ↔ ¬∀ q ∈ p.queries, q.1 ≠ c.source := by
  simp only [List.any_eq_true, decide_eq_true_eq, ne_eq, not_forall, not_not, exists_prop]

/-- An operation is left alone exactly if none of its queries is in the source language. -/
theorem convertOperation_eq_none_iff [Libraries] :
    c.convertOperation operation = .ok none ↔ ∀ q ∈ operation.queries, q.1 ≠ c.source := by
  cases operation
  case select | selectAll | remove | isFound =>
    simp [convertOperation, convertIn_eq_none_iff, Operation.queries, Operation.query?]
  case filterElements p =>
    by_cases hnone : ∀ q ∈ p.queries, q.1 ≠ c.source
    · rw [convertOperation, if_neg (by simpa only [any_source_iff, not_not] using hnone)]
      exact iff_of_true rfl hnone
    · rw [convertOperation, if_pos (any_source_iff.mpr hnone)]
      simp only [bind_eq_ok, pure_eq_ok]
      exact iff_of_false (by simp) hnone
  all_goals simp [convertOperation, Operation.queries, Operation.query?]

/-- Where an operation is converted, it turns into the result. -/
theorem turns_of_convertOperation [Libraries]
    (h : c.convertOperation operation = .ok (some converted)) :
    operation.Turns c converted := by
  cases operation
  case select | selectAll | remove | isFound =>
    rw [convertOperation, convertIn_eq_some_iff] at h
    obtain ⟨rfl, q, hq, rfl⟩ := h
    constructor
    exact hq
  case filterElements p =>
    rw [convertOperation] at h
    split at h
    · rw [bind_eq_ok] at h
      obtain ⟨p', hp', h⟩ := h
      rw [pure_eq_ok, Option.some.injEq] at h
      subst h
      exact .filterElements (ElementPredicate.mapQueries_eq_ok_iff.mp hp')
    · simp at h
  all_goals simp [convertOperation] at h

/-- What an operation turns into is what it is converted into, or itself where nothing is to be
converted. -/
theorem convertOperation_of_turns [Libraries] (h : operation.Turns c converted) :
    ∃ result, c.convertOperation operation = .ok result ∧ result.getD operation = converted := by
  by_cases hnone : ∀ q ∈ operation.queries, q.1 ≠ c.source
  · exact ⟨none, convertOperation_eq_none_iff.mpr hnone, (h.eq_self hnone).symm⟩
  · refine ⟨some converted, ?_, rfl⟩
    cases h with
    | other hother => exact absurd hother hnone
    | filterElements hp =>
        rw [convertOperation, if_pos (any_source_iff.mpr hnone),
          ElementPredicate.mapQueries_eq_ok_iff.mpr hp]
        rfl
    | _ hq =>
        rw [convertOperation, convertIn_eq_some_iff]
        exact ⟨rfl, _, hq, rfl⟩

end Conversion

/-! ## steps and chains -/

/-- The first step turns into the second one: the types and the slot stay. -/
structure Step.Turns [Libraries] (c : Conversion) (step step' : Step) : Prop where
  operation : step.operation.Turns c step'.operation
  accepts : step'.accepts = step.accepts
  returns : step'.returns = step.returns
  slot : step'.slot = step.slot

/-- The step without the texts of its queries. -/
def Step.outline (step : Step) : Step := { step with operation := step.operation.outline }

namespace Conversion

variable [Libraries]

variable {c : Conversion} {step step' : Step} {chain converted : Chain}

/-- **A step is converted exactly into what it turns into.** -/
theorem convertStep_eq_ok_iff : c.convertStep step = .ok step' ↔ step.Turns c step' := by
  have hrun : ∀ result, c.convertOperation step.operation = .ok result →
      c.convertStep step = .ok { step with operation := result.getD step.operation } := by
    intro result hresult
    rw [convertStep, hresult]
    cases result <;> rfl
  constructor
  · intro h
    obtain ⟨result, hresult, -⟩ := bind_eq_ok.mp h
    rw [hrun result hresult] at h
    cases h
    refine ⟨?_, rfl, rfl, rfl⟩
    cases result with
    | none => exact .other (convertOperation_eq_none_iff.mp hresult)
    | some operation => exact turns_of_convertOperation hresult
  · rintro ⟨hoperation, haccepts, hreturns, hslot⟩
    obtain ⟨result, hresult, hgetD⟩ := convertOperation_of_turns hoperation
    rw [hrun result hresult, hgetD, ← haccepts, ← hreturns, ← hslot]

theorem convertChain_eq_ok_iff :
    c.convertChain chain = .ok converted ↔ List.Forall₂ (Step.Turns c) chain converted := by
  rw [convertChain, mapM_eq_ok]
  simp only [convertStep_eq_ok_iff]

/-- What could be converted has been, and what could not be stays so. -/
theorem tryStep_tryStep : c.tryStep (c.tryStep step).1 = ((c.tryStep step).1, false) := by
  cases hresult : c.convertOperation step.operation with
  | error e => simp [tryStep, hresult]
  | ok result =>
      cases result with
      | none => simp [tryStep, hresult]
      | some operation =>
          have hnone := (turns_of_convertOperation hresult).ne_source
          rw [← convertOperation_eq_none_iff] at hnone
          simp [tryStep, hresult, hnone]

/-- Converting a schema twice does what converting it once does. -/
theorem trySchema_trySchema (schema : Schema) :
    c.trySchema (c.trySchema schema) = c.trySchema schema := by
  simp [trySchema, Function.comp_def, tryStep_tryStep]

theorem countIn_trySchema (schema : Schema) : c.countIn (c.trySchema schema) = 0 := by
  rw [countIn, List.countP_eq_zero]
  intro step hstep
  obtain ⟨⟨name, chain⟩, hmember, hstep⟩ := List.mem_flatMap.mp hstep
  obtain ⟨⟨name, chain⟩, -, heq⟩ := List.mem_map.mp hmember
  cases heq
  cases chain with
  | none => simp at hstep
  | some chain =>
      obtain ⟨first, -, rfl⟩ := List.mem_map.mp hstep
      simp [tryStep_tryStep]

/-- There and back again. -/
theorem outline_eq {lead : String} {back : Chain}
    (h : (toXPath lead).convertChain chain = .ok converted)
    (hback : toCss.convertChain converted = .ok back)
    (hcss : ∀ step ∈ chain, ∀ q ∈ step.operation.queries, q.1 = .css) :
    back.map Step.outline = chain.map Step.outline := by
  rw [convertChain_eq_ok_iff] at h hback
  induction h generalizing back with
  | nil =>
      cases hback
      rfl
  | @cons step step' chain converted hstep _ ih =>
      cases hback with
      | @cons _ step'' _ back hstep' hrest =>
          obtain ⟨hfirst, hlater⟩ := List.forall_mem_cons.mp hcss
          have hsame : step''.outline = step.outline := by
            rw [Step.outline, Step.outline, hstep.operation.outline_eq hstep'.operation hfirst,
              hstep'.accepts, hstep.accepts, hstep'.returns, hstep.returns, hstep'.slot, hstep.slot]
          rw [List.map_cons, List.map_cons, hsame, ih hrest hlater]

end Conversion

/-- A registry is converted once. -/
theorem Registry.convert_convert [Libraries] (r : Registry) (c : Conversion) :
    (r.convert c).1.convert c = ((r.convert c).1, 0) := by
  simp [Registry.convert, Conversion.trySchema_trySchema, Conversion.countIn_trySchema,
    List.foldl_map, Function.comp_def]

/-- **Conversion keeps the shape of chains.** A chain is converted exactly into the chain of the
counterparts of its steps. One without XPath queries that is converted into XPath and back has the
same steps again up to the texts of the queries, so the same kinds and types. And a registry that is
converted a second time stays as it is. -/
theorem Conversion.keeps_shape [Libraries] :
    (∀ (c : Conversion) (chain converted : Chain),
      c.convertChain chain = .ok converted ↔ List.Forall₂ (Step.Turns c) chain converted) ∧
    (∀ (lead : String) (chain converted back : Chain),
      (∀ step ∈ chain, ∀ q ∈ step.operation.queries, q.1 ≠ .xpath) →
      (toXPath lead).convertChain chain = .ok converted → toCss.convertChain converted = .ok back →
        back.map Step.outline = chain.map Step.outline ∧
        back.map (fun step => (step.operation.name, step.accepts, step.returns)) =
          chain.map fun step => (step.operation.name, step.accepts, step.returns)) ∧
    ∀ (r : Registry) (c : Conversion), (r.convert c).1.convert c = ((r.convert c).1, 0) := by
  refine ⟨fun c chain converted => convertChain_eq_ok_iff, ?_, Registry.convert_convert⟩
  intro lead chain converted back hcss h hback
  have hdialect : ∀ d : Dialect, d ≠ .xpath → d = .css := by
    intro d hd
    cases d <;> simp_all
  have houtline := outline_eq h hback fun step hstep q hq => hdialect q.1 (hcss step hstep q hq)
  refine ⟨houtline, ?_⟩
  have hkinds : (fun step : Step => (step.operation.name, step.accepts, step.returns)) =
      (fun step => (step.operation.name, step.accepts, step.returns)) ∘ Step.outline := by
    funext step
    exact congrArg (·, _) (Operation.name_outline step.operation).symm
  rw [hkinds, ← List.map_map, houtline, List.map_map]

/-- The texts of the items of a list that have a link and no name of their own. -/
def Conversion.linkedItems : Chain :=
  [.plain (.selectAll .css "li") .document .listDocument,
    .plain (.filterElements (.and (.finds .css "a[b]") (.not (.hasAttribute ["id"]))))
      .listDocument .listDocument,
    .plain .textAll .listDocument .listString]

/-- A chain of three steps that goes to paths and back. -/
theorem Conversion.keeps_shape_linkedItems :
    ∃ converted back, (toXPath XPath.defaultPrefix).convertChain linkedItems = .ok converted ∧
      toCss.convertChain converted = .ok back ∧
      back.map (fun step => (step.operation.name, step.accepts, step.returns)) =
        [("CSS_ALL", .document, .listDocument), ("DOCUMENT_FILTER", .listDocument, .listDocument),
          ("TEXT_ALL", .listDocument, .listString)] := by
  have hboth : ((toXPath XPath.defaultPrefix).convertChain linkedItems >>=
      toCss.convertChain).isOk = true := by
    decide +kernel
  cases hrun : (toXPath XPath.defaultPrefix).convertChain linkedItems >>= toCss.convertChain with
  | error e =>
      rw [hrun] at hboth
      contradiction
  | ok back =>
      obtain ⟨converted, hconverted, hback⟩ := bind_eq_ok.mp hrun
      refine ⟨converted, back, hconverted, hback, ?_⟩
      exact (keeps_shape.2.1 _ linkedItems converted back (by decide) hconverted hback).2

end Extractor
