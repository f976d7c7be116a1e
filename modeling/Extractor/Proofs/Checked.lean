import Extractor.Check.Schema
import Extractor.Proofs.Flow
import Mathlib.Data.List.Chain

/-!
# Extractor.Proofs.Checked

What a check that finds no errors has found out. The check of a chain leaves
steps that fit together (`checkChain_fits`); the checks of hooks and named
fields add what these may give and fall back to (`Resolved.Checked`); and the
check of a registry does so for every schema with what it inherits
(`Registry.checked_of_check`).
-/

namespace Extractor

open Outcome

/-! ## chains -/

namespace Chain

/-- The steps of a chain without defaults. -/
def nodes (chain : Chain) : List Step := chain.filter (!·.isDefault)

/-- Steps that fit together when they start with a value of the type. -/
structure Fits (type : ValueType) (steps : List Step) : Prop where
  no_default : ∀ step ∈ steps, step.isDefault = false
  /-- Only the last step hands over to another schema. -/
  nested_last : ∀ step ∈ steps.dropLast, step.operation.isNested = false
  takes_first : ∀ step, steps.head? = some step → step.accepts.accepts type = true
  linked : steps.IsChain fun step next => next.accepts.accepts step.returns = true

variable {type : ValueType} {chain steps : Chain} {step : Step}

theorem Fits.nil : Fits type [] := ⟨by simp, by simp, by simp, .nil⟩

/-- A step fits before steps that fit what it returns. -/
theorem Fits.cons (hdefault : step.isDefault = false) (htakes : step.accepts.accepts type = true)
    (hnested : step.operation.isNested = true → steps = []) (h : Fits step.returns steps) :
    Fits type (step :: steps) where
  no_default := List.forall_mem_cons.mpr ⟨hdefault, h.no_default⟩
  nested_last := by
    cases steps with
    | nil => simp
    | cons next rest =>
        have hstep : step.operation.isNested = false := by simpa using hnested
        rw [List.dropLast_cons_cons]
        exact List.forall_mem_cons.mpr ⟨hstep, h.nested_last⟩
  takes_first first hfirst := by
    rw [List.head?_cons, Option.some.injEq] at hfirst
    exact hfirst ▸ htakes
  linked := by
    cases steps with
    | nil => exact .singleton step
    | cons next rest => exact .cons_cons (h.takes_first next rfl) h.linked

end Chain

/-- Two steps that take and give the same and do the same to the flow of a chain. -/
structure Step.Alike (s t : Step) : Prop where
  accepts : t.accepts = s.accepts
  returns : t.returns = s.returns
  isDefault : t.isDefault = s.isDefault
  isNested : t.operation.isNested = s.operation.isNested

/-- Whether steps fit together does not depend on what alike steps disagree in. -/
theorem Chain.Fits.of_alike {ι : Type} {type : ValueType} {l : List ι} {f g : ι → Step}
    (h : Fits type (l.map f)) (halike : ∀ i, (f i).Alike (g i)) : Fits type (l.map g) where
  no_default := by
    have hf := List.forall_mem_map.mp h.no_default
    exact List.forall_mem_map.mpr fun i hi => (halike i).isDefault.trans (hf i hi)
  nested_last := by
    have hf := h.nested_last
    rw [← List.map_dropLast, List.forall_mem_map] at hf ⊢
    exact fun i hi => (halike i).isNested.trans (hf i hi)
  takes_first := by
    have hf := h.takes_first
    rw [List.head?_map] at hf ⊢
    intro step hstep
    obtain ⟨i, hi, rfl⟩ := Option.map_eq_some_iff.mp hstep
    rw [(halike i).accepts]
    exact hf (f i) (Option.map_eq_some_iff.mpr ⟨i, hi, rfl⟩)
  linked := by
    have hf := h.linked
    rw [List.isChain_map] at hf ⊢
    refine hf.imp fun i j hij => ?_
    rw [(halike j).accepts, (halike i).returns]
    exact hij

section ChainCheck

variable {schema field : String} {s : ChainState} {place : Nat} {chain steps : Chain} {step : Step}

/-- A step without a fault follows no hand-over; a default is in front, and any other step takes the
type so far and has arguments that are accepted. -/
theorem ChainState.causes_eq_nil_iff [Libraries] :
    s.causes place step = [] ↔ s.nestedAt = none ∧
      if step.isDefault then place = 0 else s.fits step = true ∧ step.operation.Accepted := by
  rw [ChainState.causes, List.append_eq_nil_iff, ← checkArguments_eq_ok]
  refine and_congr ?_ ?_
  · cases s.nestedAt <;> simp
  · cases step.isDefault with
    | true => simp
    | false => cases checkArguments step.operation <;> simp

/-- A step without a cause has nothing nested before it and accepts the type in front of it. -/
theorem ChainState.causes_eq_nil [Libraries] (h : s.causes place step = []) :
    s.nestedAt = none ∧ (step.isDefault = true → place = 0) ∧
      (step.isDefault = false → step.accepts.accepts s.type = true) := by
  obtain ⟨hnested, hstep⟩ := ChainState.causes_eq_nil_iff.mp h
  refine ⟨hnested, fun hdefault => by simpa [hdefault] using hstep, fun hdefault => ?_⟩
  rw [if_neg (by simp [hdefault]), ChainState.fits, Bool.and_eq_true] at hstep
  exact hstep.1.1

/-- A chain without errors has none at its first step and none behind it. -/
theorem checkSteps_cons_eq_nil [Libraries]
    (h : checkSteps schema field s place (step :: steps) = []) :
    s.causes place step = [] ∧
      checkSteps schema field (s.advance place step) (place + 1) steps = [] := by
  rw [checkSteps, List.append_eq_nil_iff, List.map_eq_nil_iff] at h
  exact h

/-- Behind a hand-over nothing is let pass. -/
theorem checkSteps_of_nested [Libraries] {at' : Nat} {type : ValueType}
    (h : checkSteps schema field ⟨type, some at'⟩ place steps = []) : steps = [] := by
  cases steps with
  | nil => rfl
  | cons step rest =>
      have hnested := (ChainState.causes_eq_nil (checkSteps_cons_eq_nil h).1).1
      contradiction

/-- The state behind a nested step, behind any other step, and behind a default. -/
theorem ChainState.advance_of_isNested (h : step.operation.isNested = true) :
    ChainState.advance s place step = ⟨step.returns, some place⟩ := by
  obtain ⟨operation, accepts, returns, slot⟩ := step
  cases operation <;> first | rfl | contradiction

theorem ChainState.advance_of_not_isNested (hdefault : step.isDefault = false)
    (h : step.operation.isNested = false) :
    ChainState.advance s place step = ⟨step.returns, s.nestedAt⟩ := by
  obtain ⟨operation, accepts, returns, slot⟩ := step
  cases operation <;> first | rfl | contradiction

theorem ChainState.advance_of_isDefault (h : step.isDefault = true) :
    ChainState.advance s place step = s := by
  obtain ⟨operation, accepts, returns, slot⟩ := step
  cases operation <;> first | rfl | contradiction

/-- A step that is no default and what follows it fit, if what follows does. -/
theorem fits_cons_of_checkSteps [Libraries] {type : ValueType} (hdefault : step.isDefault = false)
    (h : checkSteps schema field ⟨type, none⟩ place (step :: steps) = [])
    (ih : ∀ type, checkSteps schema field ⟨type, none⟩ (place + 1) steps = [] →
      Chain.Fits type steps) : Chain.Fits type (step :: steps) := by
  obtain ⟨hcauses, hrest⟩ := checkSteps_cons_eq_nil h
  have htakes := (ChainState.causes_eq_nil hcauses).2.2 hdefault
  cases hnested : step.operation.isNested with
  | true =>
      rw [ChainState.advance_of_isNested hnested] at hrest
      obtain rfl := checkSteps_of_nested hrest
      exact .cons hdefault htakes (fun _ => rfl) .nil
  | false =>
      rw [ChainState.advance_of_not_isNested hdefault hnested] at hrest
      exact .cons hdefault htakes (by simp [hnested]) (ih step.returns hrest)

/-- Behind the front no default is let pass. -/
theorem fits_of_checkSteps [Libraries] {type : ValueType} (hplace : place ≠ 0)
    (h : checkSteps schema field ⟨type, none⟩ place steps = []) : Chain.Fits type steps := by
  induction steps generalizing type place with
  | nil => exact .nil
  | cons step rest ih =>
      have hdefault : step.isDefault = false := by
        by_contra hdefault
        have hfirst := (ChainState.causes_eq_nil (checkSteps_cons_eq_nil h).1).2.1
        exact hplace (hfirst (by simpa using hdefault))
      exact fits_cons_of_checkSteps hdefault h fun type => ih (Nat.succ_ne_zero place)

theorem Chain.Fits.nodes_eq {type : ValueType} (h : Fits type steps) : nodes steps = steps := by
  rw [nodes, List.filter_eq_self]
  exact fun step hstep => by simp [h.no_default step hstep]

/-- An empty chain is reported. -/
theorem checkChain_ne_nil [Libraries] (h : checkChain schema field chain = []) : chain ≠ [] := by
  rintro rfl
  simp [checkChain] at h

/-- **The steps of a chain that the check lets pass fit together**, whatever its default. -/
theorem checkChain_fits [Libraries] (h : checkChain schema field chain = []) :
    Chain.Fits .document (Chain.nodes chain) := by
  have hne := checkChain_ne_nil h
  rw [checkChain, if_neg (by simpa using hne)] at h
  cases chain with
  | nil => exact .nil
  | cons step rest =>
      cases hdefault : step.isDefault with
      | true =>
          have hrest := (checkSteps_cons_eq_nil h).2
          rw [ChainState.advance_of_isDefault hdefault] at hrest
          have hfits := fits_of_checkSteps Nat.one_ne_zero hrest
          rw [Chain.nodes, List.filter_cons_of_neg (by simp [hdefault]), ← Chain.nodes,
            hfits.nodes_eq]
          exact hfits
      | false =>
          have hfits := fits_cons_of_checkSteps hdefault h fun _ =>
            fits_of_checkSteps Nat.one_ne_zero
          rw [hfits.nodes_eq]
          exact hfits

end ChainCheck

/-! ## members -/

/-- A fallback, where there is one, fits the type of the values that it stands in for. -/
def FallbackFits (type : ValueType) (fallback : Option Literal) : Prop :=
  ∀ value, fallback = some value →
    type ≠ .json ∧ type ≠ .any ∧ defaultFits value type = true

/-- Of what stands in for a string, only a string is not null. -/
theorem FallbackFits.exists_str {fallback : Option Literal} (h : FallbackFits .string fallback)
    (hnull : fallback.any Literal.isNull = false) {value : Literal}
    (hvalue : fallback = some value) : ∃ text, value = .str text := by
  obtain ⟨-, -, hfits⟩ := h value hvalue
  subst hvalue
  cases value
  case str text => exact ⟨text, rfl⟩
  case null => simp [Literal.isNull] at hnull
  case list items => simp [defaultFits, ValueType.isList, ValueType.item?] at hfits
  all_goals simp [defaultFits, Literal.valueType?] at hfits

/-- What a hook may give and fall back to. -/
structure Hook.Admits (hook : Hook) (type : ValueType) (fallback : Option Literal) : Prop where
  splitDoc : hook = .splitDoc → type = .listDocument
  key : hook = .key → type = .string
  extracted : hook = .value ∨ hook = .item → type ≠ .document ∧ type ≠ .listDocument
  no_fallback : hook = .preValidate ∨ hook = .splitDoc → fallback = none
  fallback_fits : FallbackFits type fallback
  key_fallback : hook = .key → ∀ value, fallback = some value → ∃ text, value = .str text

/-- What a named field of a schema may give and fall back to. -/
structure SchemaKind.Admits (kind : SchemaKind) (type : ValueType) (fallback : Option Literal) :
    Prop where
  terminal : type.isFieldTerminal = true
  strings : kind = .accUniqueList → type = .listString
  fallback_fits : FallbackFits type fallback

namespace Chain

/-- A chain of which a function can be made: there are steps, and they fit together. -/
structure Runs (chain : Chain) : Prop where
  nonempty : nodes chain ≠ []
  fits : Fits .document (nodes chain)

variable {chain : Chain} {hook : Hook} {kind : SchemaKind}

/-- A chain that returns something else than a document has steps. -/
theorem nodes_ne_nil_of_cursor (h : cursor chain ≠ .document) : nodes chain ≠ [] := by
  intro hnil
  rw [nodes] at hnil
  simp [cursor, hnil] at h

/-- A chain without a default consists of its nodes. -/
theorem nodes_of_not_hasDefault (h : hasDefault chain = false) : nodes chain = chain := by
  rw [nodes, List.filter_eq_self]
  simpa [hasDefault] using h

theorem default?_of_not_hasDefault (h : hasDefault chain = false) : default? chain = none := by
  cases chain with
  | nil => rfl
  | cons step rest =>
      obtain ⟨operation, accepts, returns, slot⟩ := step
      cases operation
      case default value => simp [hasDefault, Step.isDefault, Operation.isDefault] at h
      all_goals rfl

/-- A default without a cause fits the cursor of its chain. -/
theorem fallbackFits_of_defaultCause? (h : defaultCause? chain = none) :
    FallbackFits (cursor chain) (default? chain) := by
  intro value hvalue
  simp only [defaultCause?, hvalue] at h
  split at h
  · contradiction
  · next hjson =>
      split at h
      · next hfits => simpa [hfits] using hjson
      · contradiction

/-- A hook without a fault gives a type that fits it, and only those that may have a default have
one. -/
theorem hookCauses_eq_nil (h : hookCauses hook chain = []) :
    (hook.forbidsDefault = true → hasDefault chain = false) ∧
      (hook ≠ .preValidate → hookTypeFits (cursor chain) hook = true) ∧
      (hook = .key → (default? chain).any Literal.isNull = false) ∧
      (hook.forbidsDefault = false → defaultCause? chain = none) := by
  rw [hookCauses, List.append_eq_nil_iff] at h
  obtain ⟨hdefault, h⟩ := h
  refine ⟨fun hforbids => by simpa [hforbids] using hdefault, ?_⟩
  by_cases hpre : hook = .preValidate
  · subst hpre
    simp [Hook.forbidsDefault]
  · rw [if_neg hpre] at h
    split at h
    · contradiction
    · next htype =>
        split at h
        · contradiction
        · next hnull =>
            refine ⟨fun _ => by simpa using htype, fun hkey => by simpa [hkey] using hnull, ?_⟩
            intro hallows
            simpa [hallows] using h

/-- **A hook that passes the check** is a chain that runs and that the hook admits. -/
theorem runs_of_hookCauses [Libraries] {schema field : String}
    (hchain : checkChain schema field chain = []) (h : hookCauses hook chain = []) :
    Runs chain ∧ hook.Admits (cursor chain) (default? chain) := by
  have hfits := checkChain_fits hchain
  obtain ⟨hdefault, htype, hnull, hcause⟩ := hookCauses_eq_nil h
  cases hook with
  | preValidate =>
      have hnone := hdefault rfl
      have hnonempty : nodes chain ≠ [] := by
        rw [nodes_of_not_hasDefault hnone]
        exact checkChain_ne_nil hchain
      refine ⟨⟨hnonempty, hfits⟩, ?_⟩
      rw [default?_of_not_hasDefault hnone]
      constructor <;> simp [FallbackFits]
  | splitDoc =>
      have hcursor : cursor chain = .listDocument := by simpa [hookTypeFits] using htype
      refine ⟨⟨nodes_ne_nil_of_cursor (by simp [hcursor]), hfits⟩, ?_⟩
      rw [default?_of_not_hasDefault (hdefault rfl)]
      constructor <;> simp [FallbackFits, hcursor]
  | key =>
      have hcursor : cursor chain = .string := by simpa [hookTypeFits] using htype
      have hfallback := fallbackFits_of_defaultCause? (hcause rfl)
      refine ⟨⟨nodes_ne_nil_of_cursor (by simp [hcursor]), hfits⟩, ?_⟩
      rw [hcursor] at hfallback ⊢
      exact ⟨nofun, fun _ => rfl, by simp, by simp, hfallback,
        fun _ _ => hfallback.exists_str (hnull rfl)⟩
  | value | item =>
      have hmarkup : (cursor chain).isMarkup = false := by simpa [hookTypeFits] using htype
      have hcursor : cursor chain ≠ .document ∧ cursor chain ≠ .listDocument := by
        constructor <;> rintro hc <;> simp [hc, ValueType.isMarkup] at hmarkup
      refine ⟨⟨nodes_ne_nil_of_cursor hcursor.1, hfits⟩, ?_⟩
      exact ⟨nofun, nofun, fun _ => hcursor, by simp, fallbackFits_of_defaultCause? (hcause rfl),
        nofun⟩

/-- **A named field that passes the check** is a chain that runs and that the kind admits. -/
theorem runs_of_fieldCauses [Libraries] {schema field : String}
    (hchain : checkChain schema field chain = []) (h : fieldCauses kind chain = []) :
    Runs chain ∧ kind.Admits (cursor chain) (default? chain) := by
  simp only [fieldCauses] at h
  split at h
  · contradiction
  · next hstrings =>
      split at h
      · contradiction
      · next hterminal =>
          have hterminal : (cursor chain).isFieldTerminal = true := by simpa using hterminal
          have hcursor : cursor chain ≠ .document := by
            intro hc
            rw [hc] at hterminal
            contradiction
          refine ⟨⟨nodes_ne_nil_of_cursor hcursor, checkChain_fits hchain⟩, hterminal, ?_, ?_⟩
          · intro hkind
            simpa [hkind] using hstrings
          · exact fallbackFits_of_defaultCause? (by simpa using h)

end Chain

/-! ## schemas -/

/-- What the members of a schema that are used come to, when nothing is wrong with them. -/
structure Resolved.Checked (kind : SchemaKind) (resolved : Resolved) : Prop where
  required : ∀ hook ∈ kind.requiredHooks, (resolved.hook? hook).isSome = true
  hook : ∀ hook chain, kind.allowsHook hook = true → resolved.hook? hook = some chain →
    chain.Runs ∧ hook.Admits chain.cursor chain.default?
  named : ∀ name chain, kind.hasNamedFields = true → (name, chain) ∈ resolved.named →
    chain.Runs ∧ kind.Admits chain.cursor chain.default?

/-- Reports as one hold what each of them has found, in their order. -/
theorem Report.concat_eq (reports : List Report) : Report.concat reports =
    ⟨reports.flatMap Report.errors, reports.flatMap Report.warnings⟩ := by
  have hfold : ∀ start : Report, reports.foldl append start =
      start.append ⟨reports.flatMap Report.errors, reports.flatMap Report.warnings⟩ := by
    induction reports with
    | nil => simp [Report.append]
    | cons report reports ih =>
        intro start
        rw [List.foldl_cons, ih]
        simp only [Report.append, List.flatMap_cons, List.append_assoc]
  exact hfold .empty

/-- The errors of reports one behind the other are those of each, and likewise for warnings. -/
theorem Report.errors_concat (reports : List Report) :
    (Report.concat reports).errors = reports.flatMap Report.errors := by
  rw [concat_eq]

theorem Report.warnings_concat (reports : List Report) :
    (Report.concat reports).warnings = reports.flatMap Report.warnings := by
  rw [concat_eq]

theorem Report.errors_concat_eq_nil {reports : List Report} :
    (Report.concat reports).errors = [] ↔ ∀ report ∈ reports, report.errors = [] := by
  rw [errors_concat, List.flatMap_eq_nil_iff]

theorem Hook.ofName?_name (hook : Hook) : Hook.ofName? hook.name = some hook := by
  cases hook <;> decide +kernel

/-- The chain of a hook is one of the resolved fields. -/
theorem Resolved.mem_fields_of_hook? {resolved : Resolved} {hook : Hook} {chain : Chain}
    (h : resolved.hook? hook = some chain) : (hook.name, chain) ∈ resolved.fields := by
  obtain ⟨front, back, hfields, -⟩ := List.lookup_eq_some_iff.mp h
  simp [hfields]

theorem Resolved.mem_hooks {resolved : Resolved} {hook : Hook} {chain : Chain}
    (h : resolved.hook? hook = some chain) : (hook, chain) ∈ resolved.hooks := by
  rw [Resolved.hooks, List.mem_filterMap]
  refine ⟨(hook.name, chain), mem_fields_of_hook? h, ?_⟩
  simp [Hook.ofName?_name]

namespace Registry

variable {r : Registry} {name schema field : String} {kind : SchemaKind} {resolved : Resolved}
  {chain : Chain} {causes : List (Option Nat × CheckCause)}

/-- A member is without errors if its chain is and nothing else is wrong with it. -/
theorem memberReport_errors [Libraries] :
    (r.memberReport schema field chain causes).errors = [] ↔
      checkChain schema field chain = [] ∧ causes = [] := by
  simp only [memberReport, List.isEmpty_iff]
  split
  · next hchain => simp [hchain]
  · next hchain => simp [hchain]

/-- A schema without faults has the hooks of its kind, and all members that it uses are in order. -/
theorem checked_of_report [Libraries] (h : (r.report name kind resolved).errors = []) :
    resolved.Checked kind := by
  rw [report, Report.errors_concat_eq_nil] at h
  simp only [List.mem_append, List.mem_singleton, List.mem_map, or_assoc] at h
  refine ⟨?_, ?_, ?_⟩
  · intro hook hhook
    have hmissing := h (missingHooks name kind resolved) (.inl rfl)
    simp only [missingHooks, List.map_eq_nil_iff, List.filter_eq_nil_iff] at hmissing
    exact Option.isSome_iff_ne_none.mpr (by simpa using hmissing hook hhook)
  · intro hook chain hallows hchain
    have hreport := h (r.hookReport name kind hook chain)
      (.inr (.inl ⟨(hook, chain), Resolved.mem_hooks hchain, rfl⟩))
    rw [hookReport, if_pos hallows] at hreport
    obtain ⟨hchain, hcauses⟩ := memberReport_errors.mp hreport
    exact Chain.runs_of_hookCauses hchain hcauses
  · intro field chain hnamed hmem
    have hreport := h (r.fieldReport name kind field chain)
      (.inr (.inr (.inl ⟨(field, chain), hmem, rfl⟩)))
    rw [fieldReport, if_pos hnamed] at hreport
    obtain ⟨hchain, hcauses⟩ := memberReport_errors.mp hreport
    exact Chain.runs_of_fieldCauses hchain hcauses

/-- A name resolves to the schema that is registered under it. -/
theorem resolve_eq_ok {referrer : String} {s : Schema} :
    r.resolve name referrer = .ok s ↔ r.get? name = some s := by
  rw [resolve]
  cases r.get? name <;> simp

theorem mem_names_of_get? {s : Schema} (h : r.get? name = some s) : name ∈ r.names := by
  rw [get?] at h
  have hname : s.name = name := by simpa using List.find?_some h
  exact List.mem_map.mpr ⟨s, List.mem_of_find?_eq_some h, hname⟩

/-- **When the check of a registry finds no errors, every schema with what it inherits is in
order.** -/
theorem checked_of_check [Libraries] {report : Report} (hcheck : r.check = .ok report)
    (hok : report.errors = []) (hname : name ∈ r.names) :
    ∃ s resolved, r.get? name = some s ∧ r.linearise name = .ok resolved ∧
      resolved.Checked s.kind := by
  rw [check, bind_eq_ok] at hcheck
  obtain ⟨reports, hreports, hreport⟩ := hcheck
  rw [pure_eq_ok] at hreport
  subst hreport
  rw [Report.errors_concat_eq_nil] at hok
  obtain ⟨report, hmem, hschema⟩ := exists_right (mapM_eq_ok.mp hreports) hname
  rw [checkSchema, bind_eq_ok] at hschema
  obtain ⟨s, hs, hschema⟩ := hschema
  rw [bind_eq_ok] at hschema
  obtain ⟨resolved, hresolved, hschema⟩ := hschema
  rw [pure_eq_ok] at hschema
  subst hschema
  exact ⟨s, resolved, resolve_eq_ok.mp hs, hresolved, checked_of_report (hok _ hmem)⟩

end Registry

end Extractor
