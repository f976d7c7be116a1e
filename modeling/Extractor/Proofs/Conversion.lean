import Extractor.Conversion
import Extractor.Proofs.Checked

/-!
# Extractor.Proofs.Conversion

What converting queries leaves as it was. A conversion is a map of steps that
only touches what looks for elements (`Step.Rewrites`), so chains keep their
types, defaults and references. Mapping the steps of all schemas commutes with
inheritance (`Registry.linearise_mapSteps`): what a converted registry holds for
a schema is what the registry held, step by step converted.
-/

namespace Extractor

open Outcome

/-! ## operations -/

namespace Operation

/-- Whether the operation looks for elements by queries. -/
def isSearch : Operation → Bool
  | select .. | selectAll .. | remove .. | isFound .. | filterElements _ => true
  | _ => false

/-- The operations are the same, or both look for elements. -/
def Similar (a b : Operation) : Prop := a = b ∨ a.isSearch = true ∧ b.isSearch = true

/-- The literal of a default. -/
def literal? : Operation → Option Literal
  | default value => some value
  | _ => none

/-- The schema that the operation hands over to. -/
def schema? : Operation → Option String
  | nested schema _ => some schema
  | _ => none

/-- The shape that the operation reads into. -/
def shape? : Operation → Option String
  | jsonify shape _ _ => some shape
  | _ => none

/-- A search is no default and refers to nothing declared. -/
structure Inert (operation : Operation) : Prop where
  isDefault : operation.isDefault = false
  isNested : operation.isNested = false
  literal? : operation.literal? = none
  schema? : operation.schema? = none
  shape? : operation.shape? = none

/-- Every search is inert. -/
theorem inert_of_isSearch (operation : Operation) (h : operation.isSearch = true) :
    operation.Inert := by
  cases operation <;> first | exact ⟨rfl, rfl, rfl, rfl, rfl⟩ | contradiction

/-- What is the same for all inert operations is the same for similar ones. -/
theorem Similar.congr {α : Type} {a b : Operation} {x : α} (h : Similar a b) (g : Operation → α)
    (hg : ∀ {operation : Operation}, operation.Inert → g operation = x) : g b = g a := by
  rcases h with rfl | ⟨ha, hb⟩
  · rfl
  · rw [hg (inert_of_isSearch a ha), hg (inert_of_isSearch b hb)]

end Operation

namespace Conversion

variable [Libraries]

variable {c : Conversion} {dialect : Dialect} {query : String} {operation converted : Operation}

/-- What a query is converted into is accepted. -/
theorem check_of_convertQuery {converted : String} (h : c.convertQuery query = .ok converted) :
    Query.check c.target converted = .ok () := by
  rw [convertQuery, bind_eq_ok] at h
  obtain ⟨q, -, h⟩ := h
  rw [bind_eq_ok] at h
  obtain ⟨_, hcheck, h⟩ := h
  rw [pure_eq_ok] at h
  exact h ▸ lift_eq_ok.mp hcheck

/-- A converted query is one that the check of its language accepts. -/
theorem convertIn_eq_ok {make : Dialect → String → Operation}
    (h : c.convertIn dialect query make = .ok (some converted)) :
    ∃ q, converted = make c.target q ∧ Query.check c.target q = .ok () := by
  unfold convertIn at h
  split at h
  · rw [bind_eq_ok] at h
    obtain ⟨q, hq, h⟩ := h
    rw [pure_eq_ok, Option.some.injEq] at h
    exact ⟨q, h.symm, check_of_convertQuery hq⟩
  · simp at h

/-- Only searches are converted, and into searches. -/
theorem isSearch_of_convertOperation (h : c.convertOperation operation = .ok (some converted)) :
    operation.isSearch = true ∧ converted.isSearch = true := by
  cases operation
  case select | selectAll | remove | isFound =>
    rw [convertOperation] at h
    obtain ⟨q, rfl, -⟩ := convertIn_eq_ok h
    exact ⟨rfl, rfl⟩
  case filterElements predicate =>
    rw [convertOperation] at h
    split at h
    · rw [bind_eq_ok] at h
      obtain ⟨p, -, h⟩ := h
      rw [pure_eq_ok, Option.some.injEq] at h
      exact ⟨rfl, h ▸ rfl⟩
    · simp at h
  all_goals simp [convertOperation] at h

end Conversion

/-! ## steps and chains -/

/-- A map of steps that keeps their types and all operations that are no searches. -/
structure Step.Rewrites (f : Step → Step) : Prop where
  accepts : ∀ step, (f step).accepts = step.accepts
  returns : ∀ step, (f step).returns = step.returns
  similar : ∀ step : Step, step.operation.Similar (f step).operation

/-- Leaving every step alone is a rewriting, and so is converting where it can be done. -/
theorem Step.rewrites_id : Step.Rewrites id := ⟨fun _ => rfl, fun _ => rfl, fun _ => .inl rfl⟩

theorem Conversion.rewrites_tryStep [Libraries] (c : Conversion) :
    Step.Rewrites fun step => (c.tryStep step).1 := by
  have hcases : ∀ step, (c.tryStep step).1 = step ∨ ∃ operation,
      c.convertOperation step.operation = .ok (some operation) ∧
        (c.tryStep step).1 = { step with operation := operation } := by
    intro step
    unfold tryStep
    split
    · next operation hoperation => exact .inr ⟨operation, hoperation, rfl⟩
    · exact .inl rfl
  refine ⟨fun step => ?_, fun step => ?_, fun step => ?_⟩
  all_goals rcases hcases step with hsame | ⟨operation, hoperation, hstep⟩
  · rw [hsame]
  · rw [hstep]
  · rw [hsame]
  · rw [hstep]
  · exact .inl (by rw [hsame])
  · rw [hstep]
    exact .inr (isSearch_of_convertOperation hoperation)

namespace Chain

variable {f : Step → Step} {chain : Chain}

/-- A rewritten step is like the step that it replaces. -/
theorem alike_of_rewrites (hf : Step.Rewrites f) (step : Step) : step.Alike (f step) where
  accepts := hf.accepts step
  returns := hf.returns step
  isDefault := (hf.similar step).congr Operation.isDefault (·.isDefault)
  isNested := (hf.similar step).congr Operation.isNested (·.isNested)

/-- What a chain is known by does not change when its steps are rewritten. -/
theorem nodes_map (hf : Step.Rewrites f) : nodes (chain.map f) = (nodes chain).map f := by
  rw [nodes, nodes, List.filter_map]
  congr 2
  funext step
  exact congrArg (!·) (alike_of_rewrites hf step).isDefault

theorem cursor_map (hf : Step.Rewrites f) : cursor (chain.map f) = cursor chain := by
  have hnodes : (chain.map f).filter (!·.isDefault) = (chain.filter (!·.isDefault)).map f :=
    nodes_map hf
  rw [cursor, cursor, hnodes, List.getLast?_map]
  cases (chain.filter (!·.isDefault)).getLast? with
  | none => rfl
  | some step => exact hf.returns step

theorem default?_cons (step : Step) : default? (step :: chain) = step.operation.literal? := by
  obtain ⟨operation, accepts, returns, slot⟩ := step
  cases operation <;> rfl

theorem default?_map (hf : Step.Rewrites f) : default? (chain.map f) = default? chain := by
  cases chain with
  | nil => rfl
  | cons step rest =>
      rw [List.map_cons, default?_cons, default?_cons]
      exact (hf.similar step).congr Operation.literal? (·.literal?)

/-- What inert operations do not have is found at the same step. -/
theorem findSome?_map {α : Type} {g : Operation → Option α} (hf : Step.Rewrites f)
    (hg : ∀ {operation : Operation}, operation.Inert → g operation = none) :
    (chain.map f).findSome? (g ·.operation) = chain.findSome? (g ·.operation) := by
  rw [List.findSome?_map]
  congr 1
  funext step
  exact (hf.similar step).congr g hg

theorem nestedSchema?_map (hf : Step.Rewrites f) :
    nestedSchema? (chain.map f) = nestedSchema? chain :=
  findSome?_map hf Operation.Inert.schema?

theorem shape?_map (hf : Step.Rewrites f) : shape? (chain.map f) = shape? chain :=
  findSome?_map hf Operation.Inert.shape?

/-- A chain that runs does so after a rewriting. -/
theorem runs_map (hf : Step.Rewrites f) (h : chain.Runs) : Runs (chain.map f) := by
  constructor
  · rw [nodes_map hf]
    simpa using h.nonempty
  · have hfits := h.fits
    rw [nodes_map hf]
    rw [← List.map_id (nodes chain)] at hfits
    exact hfits.of_alike (alike_of_rewrites hf)

end Chain

/-! ## schemas -/

/-- The schema with each step replaced. -/
def Schema.mapSteps (f : Step → Step) (schema : Schema) : Schema :=
  { schema with
    members := schema.members.map fun (name, chain) => (name, chain.map (List.map f)) }

/-- What a schema comes to, with each step replaced. -/
def Resolved.mapSteps (f : Step → Step) (resolved : Resolved) : Resolved :=
  { resolved with fields := resolved.fields.map fun (name, chain) => (name, chain.map f) }

/-- The registry with each step replaced. -/
def Registry.mapSteps (f : Step → Step) (r : Registry) : Registry :=
  ⟨r.schemas.map (Schema.mapSteps f)⟩

/-- The first entries of each key stay the first if the values change. -/
theorem Keyed.firsts_map {α β : Type} (g : α → β) (l : List (String × α)) :
    firsts (l.map fun p => (p.1, g p.2)) = (firsts l).map fun p => (p.1, g p.2) := by
  induction l with
  | nil => rfl
  | cons p l ih =>
      rw [List.map_cons, firsts, ih, firsts, List.map_cons, List.filter_map]
      rfl

namespace Resolved

variable {f : Step → Step} {resolved : Resolved}

/-- Fields are inherited in the same way whatever is done to the steps. -/
theorem ofLineage_mapSteps (lineage : List Schema) :
    ofLineage (lineage.map (Schema.mapSteps f)) = (ofLineage lineage).mapSteps f := by
  have hmembers : (lineage.map (Schema.mapSteps f)).flatMap Schema.members =
      (lineage.flatMap Schema.members).map fun p => (p.1, p.2.map (List.map f)) := by
    rw [List.flatMap_map, List.map_flatMap]
    rfl
  have hfields : (ofLineage (lineage.map (Schema.mapSteps f))).fields =
      (ofLineage lineage).fields.map fun (name, chain) => (name, chain.map f) := by
    simp only [ofLineage]
    rw [hmembers, List.filter_map, Keyed.firsts_map, List.filterMap_map, List.map_filterMap]
    refine List.filterMap_congr fun p _ => ?_
    obtain ⟨name, chain⟩ := p
    cases chain <;> rfl
  have hfind : ∀ {α : Type} (g : Schema → Option α), (∀ s, g (Schema.mapSteps f s) = g s) →
      (lineage.map (Schema.mapSteps f)).findSome? g = lineage.findSome? g := by
    intro α g hg
    rw [List.findSome?_map]
    exact congrArg (lineage.findSome? ·) (funext hg)
  rw [mapSteps, ← hfields, ofLineage, ofLineage]
  rw [hfind Schema.docstring fun _ => rfl, hfind Schema.signature fun _ => rfl,
    hfind Schema.excluded fun _ => rfl]

theorem hook?_mapSteps (hook : Hook) :
    (resolved.mapSteps f).hook? hook = (resolved.hook? hook).map (List.map f) := by
  rw [hook?, hook?, mapSteps]
  induction resolved.fields with
  | nil => rfl
  | cons p fields ih =>
      rw [List.map_cons, List.lookup_cons, List.lookup_cons, ih]
      split <;> rfl

theorem hooks_mapSteps :
    (resolved.mapSteps f).hooks = resolved.hooks.map fun (hook, chain) => (hook, chain.map f) := by
  rw [hooks, hooks, mapSteps, List.filterMap_map, List.map_filterMap]
  refine List.filterMap_congr fun field _ => ?_
  cases hhook : Hook.ofName? field.1 <;> simp [hhook]

theorem named_mapSteps :
    (resolved.mapSteps f).named = resolved.named.map fun (name, chain) => (name, chain.map f) := by
  rw [named, mapSteps, List.filter_map]
  rfl

end Resolved

namespace Registry

variable {f : Step → Step} {r : Registry} {kind : SchemaKind}

theorem mapSteps_id : r.mapSteps id = r := by
  have hschema : Schema.mapSteps id = id := by
    funext s
    simp [Schema.mapSteps]
  rw [mapSteps, hschema, List.map_id]

/-- Names are found in a registry as they were, in schemas with rewritten steps. -/
theorem get?_mapSteps (name : String) :
    (r.mapSteps f).get? name = (r.get? name).map (Schema.mapSteps f) := by
  rw [get?, get?, mapSteps, List.find?_map]
  rfl

theorem resolve_mapSteps (name referrer : String) :
    (r.mapSteps f).resolve name referrer = (r.resolve name referrer).map (Schema.mapSteps f) := by
  rw [resolve, resolve, get?_mapSteps]
  cases r.get? name <;> rfl

/-- Ancestors are met in the same order, whatever the steps of their chains are. -/
theorem visit_mapSteps (fuel : Nat) (done : List Schema) (schema : Schema) :
    (r.mapSteps f).visit kind fuel (done.map (Schema.mapSteps f)) (schema.mapSteps f) =
      (r.visit kind fuel done schema).map (List.map (Schema.mapSteps f)) := by
  induction fuel generalizing done schema with
  | zero => rfl
  | succ fuel ih =>
      have hmet : (done.map (Schema.mapSteps f)).any (·.name == (schema.mapSteps f).name) =
          done.any (·.name == schema.name) := by
        rw [List.any_map]
        rfl
      rw [visit, visit, hmet]
      split
      · rfl
      · have hstart : done.map (Schema.mapSteps f) ++ [schema.mapSteps f] =
            (done ++ [schema]).map (Schema.mapSteps f) := by simp
        rw [hstart]
        refine foldlM_map (fun done name _ => ?_) (done ++ [schema])
        rw [resolve_mapSteps, map_bind, bind_map]
        congr 1
        funext parent
        have hkind : (parent.mapSteps f).kind = parent.kind := rfl
        rw [hkind]
        split
        · exact ih done parent
        · rfl

/-- The order of ancestors and the fields that come of it do not depend on the steps. -/
theorem linearise_mapSteps (name : String) :
    (r.mapSteps f).linearise name = (r.linearise name).map (Resolved.mapSteps f) := by
  have hlineage : (r.mapSteps f).lineage name =
      (r.lineage name).map (List.map (Schema.mapSteps f)) := by
    have hlength : (r.mapSteps f).schemas.length = r.schemas.length := by simp [mapSteps]
    rw [lineage, lineage, resolve_mapSteps, map_bind, bind_map, hlength]
    exact congrArg _ (funext fun root => visit_mapSteps _ [] root)
  rw [linearise, linearise, hlineage, map_bind, bind_map]
  exact congrArg _ (funext fun lineage => congrArg Except.ok (Resolved.ofLineage_mapSteps lineage))

/-- What a registry with replaced steps holds for a name is what the registry holds, replaced. -/
theorem exists_of_mapSteps {name : String} {schema' : Schema} {resolved' : Resolved}
    (hschema : (r.mapSteps f).resolve name name = .ok schema')
    (hresolved : (r.mapSteps f).linearise name = .ok resolved') :
    ∃ schema resolved, r.get? name = some schema ∧ r.linearise name = .ok resolved ∧
      schema.mapSteps f = schema' ∧ resolved.mapSteps f = resolved' := by
  rw [resolve_eq_ok, get?_mapSteps, Option.map_eq_some_iff] at hschema
  obtain ⟨schema, hget, rfl⟩ := hschema
  rw [linearise_mapSteps, map_eq_ok] at hresolved
  obtain ⟨resolved, hlinear, rfl⟩ := hresolved
  exact ⟨schema, resolved, hget, hlinear, rfl, rfl⟩

end Registry

end Extractor
