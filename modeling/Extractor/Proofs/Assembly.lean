import Extractor.Libraries.Standard
import Extractor.Module.Basic
import Extractor.Proofs.Conversion

/-!
# Extractor.Proofs.Assembly

The stages of assembling, and the functions that come out of them. When a
module assembles, every stage has succeeded (`Module.assemble_stages`), and the
members of its parsers are the lowered chains of its schemas, converted step by
step and linked (`Module.mem_hook_iff`, `Module.mem_field_iff`). Since what was
checked is what is lowered, the functions are sound (`Module.assemble_sound`).
-/

namespace Extractor

open Outcome

/-! ## stages -/

/-- What becomes of a step under the options. -/
def Options.rewrite [Libraries] (o : Options) : Step → Step :=
  match o.conversion? with
  | some c => fun step => (c.tryStep step).1
  | none => id

/-- Whatever the options say, a step is rewritten into one that accepts and returns the same. -/
theorem Options.rewrites [Libraries] (o : Options) : Step.Rewrites o.rewrite := by
  unfold Options.rewrite
  split
  · exact Conversion.rewrites_tryStep _
  · exact Step.rewrites_id

namespace Module

/-- The stages of assembling: what each of them gave for the program. -/
structure Stages [Libraries] (m : Module) (o : Options) (p : Program)
    (order shapeOrder : List String) : Prop where
  references : m.resolveReferences = .ok ()
  ordered : m.schemaOrder = .ok order
  shapesOrdered : m.shapeOrder = .ok shapeOrder
  checked : ∃ report, m.registry.check = .ok report ∧ report.errors = []
  types : List.Forall₂ (fun name type => ∃ plain,
    (m.registry.mapSteps o.rewrite).resultType m.shapes name = .ok plain ∧
      type = linkType order plain) order p.resultTypes
  parsers : List.Forall₂ (fun name parser =>
    m.linkedParser o (m.registry.mapSteps o.rewrite) order name = .ok parser) order p.parsers
  shapes : p.shapes = shapeOrder.filterMap m.shapes.get?

variable {m : Module} {o : Options} {a : Assembled} {order : List String} {name : String}
  {parser : Parser}

/-- The nodes in front of a program are docstrings. -/
theorem mem_docstringNodes {node : ProgramNode} (h : node ∈ m.docstringNodes o) :
    ∃ text, node = .docstring text := by
  rw [docstringNodes] at h
  split at h
  · next text _ =>
      split at h
      · exact ⟨text, List.mem_singleton.mp h⟩
      · contradiction
  · contradiction

/-- What is lowered is the registry with the steps that the options make of its own. -/
theorem lowered_eq_ok [Libraries] {registry : Registry} (h : m.lowered o = .ok registry) :
    registry = m.registry.mapSteps o.rewrite := by
  rw [lowered] at h
  rw [Options.rewrite]
  cases hc : o.conversion? with
  | none =>
      rw [hc] at h
      rw [Registry.mapSteps_id]
      exact (Except.ok.inj h).symm
  | some c =>
      rw [hc, map_eq_ok] at h
      obtain ⟨converted, hconverted, rfl⟩ := h
      rw [Registry.runConversion] at hconverted
      split at hconverted
      · contradiction
      · exact congrArg Prod.fst (Except.ok.inj hconverted).symm

section Parts

variable (shapes : List JsonShape) (types : List ResultType) (parsers : List Parser)

/-- The parts of a program are those from which it was put together. -/
theorem programOf_parts : (m.programOf o shapes types parsers).shapes = shapes ∧
    (m.programOf o shapes types parsers).resultTypes = types ∧
    (m.programOf o shapes types parsers).parsers = parsers := by
  refine ⟨?_, ?_, ?_⟩
  all_goals
    simp only [programOf, Program.shapes, Program.resultTypes, Program.parsers, List.append_assoc,
      List.cons_append, List.nil_append, List.filterMap_append, List.filterMap_cons_none,
      List.filterMap_map, Function.comp_apply, List.filterMap_some, List.filterMap_none,
      List.append_nil, List.append_left_eq_self, List.filterMap_eq_nil_iff]
    intro node hnode
    obtain ⟨text, rfl⟩ := mem_docstringNodes hnode
    rfl

@[simp] theorem shapes_programOf : (m.programOf o shapes types parsers).shapes = shapes :=
  (programOf_parts shapes types parsers).1

@[simp] theorem resultTypes_programOf : (m.programOf o shapes types parsers).resultTypes = types :=
  (programOf_parts shapes types parsers).2.1

@[simp] theorem parsers_programOf : (m.programOf o shapes types parsers).parsers = parsers :=
  (programOf_parts shapes types parsers).2.2

end Parts

/-- A module assembles exactly when each stage succeeds on what those before it gave. -/
theorem assemble_eq_ok [Libraries] : m.assemble o = .ok a ↔ ∃ order shapeOrder report types parsers,
    o.check = .ok () ∧ m.resolveReferences = .ok () ∧ m.schemaOrder = .ok order ∧
    m.shapeOrder = .ok shapeOrder ∧ m.registry.check = .ok report ∧ report.errors = [] ∧
    m.lowered o = .ok (m.registry.mapSteps o.rewrite) ∧
    order.mapM (fun name => do
      let type ← (m.registry.mapSteps o.rewrite).resultType m.shapes name
      return linkType order type) = .ok types ∧
    order.mapM (m.linkedParser o (m.registry.mapSteps o.rewrite) order) = .ok parsers ∧
    a = ⟨m.programOf o (shapeOrder.filterMap m.shapes.get?) types parsers, report.warnings⟩ := by
  have hreport : ∀ (report : Report) (warnings : List Warning), report.toExcept = .ok warnings ↔
      report.errors = [] ∧ warnings = report.warnings := by
    intro report warnings
    rw [Report.toExcept, Report.isOk]
    cases report.errors <;> simp [eq_comm]
  simp only [assemble, bind_eq_ok, lift_eq_ok, hreport, linkedParts, pure_eq_ok]
  constructor
  · rintro ⟨⟨⟩, hoptions, ⟨⟩, hreferences, order, horder, shapeOrder, hshapeOrder, report, hcheck,
      _, ⟨herrors, rfl⟩, registry, hlowered, _, ⟨types, htypes, parsers, hparsers, rfl⟩, rfl⟩
    obtain rfl := lowered_eq_ok hlowered
    exact ⟨order, shapeOrder, report, types, parsers, hoptions, hreferences, horder, hshapeOrder,
      hcheck, herrors, hlowered, htypes, hparsers, rfl⟩
  · rintro ⟨order, shapeOrder, report, types, parsers, hoptions, hreferences, horder, hshapeOrder,
      hcheck, herrors, hlowered, htypes, hparsers, rfl⟩
    exact ⟨(), hoptions, (), hreferences, order, horder, shapeOrder, hshapeOrder, report, hcheck,
      _, ⟨herrors, rfl⟩, _, hlowered, _, ⟨types, htypes, parsers, hparsers, rfl⟩, rfl⟩

/-- **A module that assembles went through all stages.** -/
theorem assemble_stages [Libraries] (h : m.assemble o = .ok a) :
    ∃ order shapeOrder, Stages m o a.program order shapeOrder := by
  obtain ⟨order, shapeOrder, report, types, parsers, -, hreferences, horder, hshapeOrder, hcheck,
    herrors, -, htypes, hparsers, rfl⟩ := assemble_eq_ok.mp h
  refine ⟨order, shapeOrder, hreferences, horder, hshapeOrder, ⟨report, hcheck, herrors⟩,
    ?_, ?_, shapes_programOf ..⟩
  · rw [resultTypes_programOf]
    refine (mapM_eq_ok.mp htypes).imp fun name type htype => ?_
    rw [bind_eq_ok] at htype
    obtain ⟨plain, hplain, htype⟩ := htype
    exact ⟨plain, hplain, (pure_eq_ok.mp htype).symm⟩
  · rw [parsers_programOf]
    exact mapM_eq_ok.mp hparsers

end Module

/-! ## members -/

section Lowering

variable {name field : String} {kind : SchemaKind} {resolved : Resolved} {hook : Hook}
  {body : FunctionBody} {f : Step → Step}

/-- A kind of schema has the members of the hooks that it allows and that are defined. -/
theorem mem_hookMembers : .hook hook body ∈ hookMembers kind resolved ↔
    kind.allowsHook hook = true ∧ ∃ chain, resolved.hook? hook = some chain ∧
      lowerChain chain (hook ≠ .preValidate) = body := by
  have hall : hook ∈ Hook.all := by cases hook <;> decide
  simp only [hookMembers, List.mem_filterMap, List.mem_filter, Option.map_eq_some_iff,
    ParserMember.hook.injEq]
  constructor
  · rintro ⟨other, ⟨-, hallows⟩, chain, hchain, rfl, hbody⟩
    exact ⟨hallows, chain, hchain, hbody⟩
  · rintro ⟨hallows, chain, hchain, hbody⟩
    exact ⟨hook, ⟨hall, hallows⟩, chain, hchain, rfl, hbody⟩

/-- Named fields become members where the kind has them. -/
theorem mem_namedMembers : .field field body ∈ namedMembers kind resolved ↔
    kind.hasNamedFields = true ∧ ∃ chain, (field, chain) ∈ resolved.named ∧
      lowerChain chain true = body := by
  rw [namedMembers]
  split
  · next hnamed => simp [hnamed]
  · next hnamed => simp [hnamed]

/-- The hooks of a lowered schema are its hook members, and likewise for its fields. -/
theorem mem_lowerSchema_hook : .hook hook body ∈ (lowerSchema name kind resolved).members ↔
    .hook hook body ∈ hookMembers kind resolved := by
  have hnamed : .hook hook body ∉ namedMembers kind resolved := by
    rw [namedMembers]
    split <;> simp
  simp [lowerSchema, hnamed]

theorem mem_lowerSchema_field : .field field body ∈ (lowerSchema name kind resolved).members ↔
    .field field body ∈ namedMembers kind resolved := by
  have hhooks : .field field body ∉ hookMembers kind resolved := by simp [hookMembers]
  simp [lowerSchema, hhooks]

end Lowering

namespace Module

variable {m : Module} {o : Options} {order : List String} {name : String} {parser : Parser}

/-- A parser that was linked comes from a schema of its name, with the members of its lowering. -/
theorem linkedParser_eq_ok [Libraries]
    (h : m.linkedParser o (m.registry.mapSteps o.rewrite) order name = .ok parser) :
    ∃ schema resolved, m.registry.get? name = some schema ∧
      m.registry.linearise name = .ok resolved ∧ parser.name = name ∧ parser.kind = schema.kind ∧
      parser.members = (lowerSchema name schema.kind (resolved.mapSteps o.rewrite)).members.map
        (m.linkMember order) := by
  rw [linkedParser, bind_eq_ok] at h
  obtain ⟨lowered, hlowered, h⟩ := h
  have hparser : ∃ docstring, parser = { lowered with
      docstring := docstring
      members := lowered.members.map (m.linkMember order) } := by
    dsimp only at h
    split at h
    all_goals
      rw [bind_eq_ok] at h
      obtain ⟨docstring, -, h⟩ := h
      exact ⟨docstring, (pure_eq_ok.mp h).symm⟩
  obtain ⟨docstring, rfl⟩ := hparser
  rw [Registry.parser, bind_eq_ok] at hlowered
  obtain ⟨s, hs, hlowered⟩ := hlowered
  rw [bind_eq_ok] at hlowered
  obtain ⟨mapped, hmapped, hlowered⟩ := hlowered
  rw [pure_eq_ok] at hlowered
  obtain ⟨schema, resolved, hschema, hresolved, rfl, rfl⟩ := Registry.exists_of_mapSteps hs hmapped
  subst hlowered
  exact ⟨schema, resolved, hschema, hresolved, rfl, rfl, rfl⟩

variable {resolved : Resolved} {kind : SchemaKind} {hook : Hook} {field : String}
  {body : FunctionBody} {members : List ParserMember}

/-- Linking goes through the members one by one and keeps what they are. -/
theorem mem_hook_link : .hook hook body ∈ members.map (m.linkMember order) ↔
    ∃ plain, .hook hook plain ∈ members ∧ body = m.linkBody order plain := by
  rw [List.mem_map]
  constructor
  · rintro ⟨member, hmem, hlink⟩
    cases member <;> simp only [linkMember, reduceCtorEq, ParserMember.hook.injEq] at hlink
    obtain ⟨rfl, rfl⟩ := hlink
    exact ⟨_, hmem, rfl⟩
  · rintro ⟨plain, hmem, rfl⟩
    exact ⟨_, hmem, rfl⟩

theorem mem_field_link : .field field body ∈ members.map (m.linkMember order) ↔
    ∃ plain, .field field plain ∈ members ∧ body = m.linkBody order plain := by
  rw [List.mem_map]
  constructor
  · rintro ⟨member, hmem, hlink⟩
    cases member <;> simp only [linkMember, reduceCtorEq, ParserMember.field.injEq] at hlink
    obtain ⟨rfl, rfl⟩ := hlink
    exact ⟨_, hmem, rfl⟩
  · rintro ⟨plain, hmem, rfl⟩
    exact ⟨_, hmem, rfl⟩

/-- The hooks of a parser are those of its schema that the kind uses, converted and linked. -/
theorem mem_hook_iff [Libraries] : .hook hook body ∈
      (lowerSchema name kind (resolved.mapSteps o.rewrite)).members.map (m.linkMember order) ↔
    kind.allowsHook hook = true ∧ ∃ chain, resolved.hook? hook = some chain ∧
      body = m.linkBody order (lowerChain (chain.map o.rewrite) (hook ≠ .preValidate)) := by
  rw [mem_hook_link]
  simp only [mem_lowerSchema_hook, mem_hookMembers, Resolved.hook?_mapSteps,
    Option.map_eq_some_iff]
  constructor
  · rintro ⟨-, ⟨hallows, -, ⟨chain, hchain, rfl⟩, rfl⟩, rfl⟩
    exact ⟨hallows, chain, hchain, rfl⟩
  · rintro ⟨hallows, chain, hchain, rfl⟩
    exact ⟨_, ⟨hallows, _, ⟨chain, hchain, rfl⟩, rfl⟩, rfl⟩

/-- The fields of a parser are those of its schema, converted and linked, if the kind has any. -/
theorem mem_field_iff [Libraries] : .field field body ∈
      (lowerSchema name kind (resolved.mapSteps o.rewrite)).members.map (m.linkMember order) ↔
    kind.hasNamedFields = true ∧ ∃ chain, (field, chain) ∈ resolved.named ∧
      body = m.linkBody order (lowerChain (chain.map o.rewrite) true) := by
  rw [mem_field_link]
  simp only [mem_lowerSchema_field, mem_namedMembers, Resolved.named_mapSteps, List.mem_map,
    Prod.mk.injEq]
  constructor
  · rintro ⟨_, ⟨hnamed, _, ⟨⟨_, chain⟩, hchain, rfl, rfl⟩, rfl⟩, rfl⟩
    exact ⟨hnamed, chain, hchain, rfl⟩
  · rintro ⟨hnamed, chain, hchain, rfl⟩
    exact ⟨_, ⟨hnamed, _, ⟨_, hchain, rfl, rfl⟩, rfl⟩, rfl⟩

end Module

/-! ## functions -/

namespace FunctionBody

/-- The steps of a function before its last one. -/
def nodes (body : FunctionBody) : List Step := body.steps.dropLast

/-- A function that runs: there are nodes that fit together, and behind them a terminal that takes
what the last one gives, which is what the function gives. -/
structure Sound (body : FunctionBody) (ending : Operation) : Prop where
  nonempty : body.nodes ≠ []
  fits : Chain.Fits .document body.nodes
  gives : body.nodes.getLast?.map Step.returns = some body.returns
  ends : ∃ terminal, body.steps = body.nodes ++ [terminal] ∧ terminal.operation = ending ∧
    terminal.accepts.accepts body.returns = true

end FunctionBody

/-- Numbering the steps does not change how they fit. -/
theorem numberSteps_fits {type : ValueType} {count : Nat} {steps : List Step}
    (h : Chain.Fits type steps) : Chain.Fits type (numberSteps count steps) := by
  rw [← List.zipIdx_map_fst 0 steps] at h
  exact h.of_alike fun _ => ⟨rfl, rfl, rfl, rfl⟩

theorem numberSteps_map_returns {count : Nat} {steps : List Step} :
    (numberSteps count steps).map Step.returns = steps.map Step.returns := by
  nth_rewrite 2 [← List.zipIdx_map_fst 0 steps]
  rw [numberSteps, List.map_map, List.map_map]
  rfl

/-- The last node of a chain gives the type of its cursor. -/
theorem Chain.nodes_getLast? {chain : Chain} (h : nodes chain ≠ []) :
    (nodes chain).getLast?.map Step.returns = some (cursor chain) := by
  have hlast := List.getLast?_eq_some_getLast h
  rw [hlast, cursor, ← nodes, hlast]
  rfl

/-- The nodes of a lowered chain are those of the chain, numbered. -/
theorem lowerChain_nodes (chain : Chain) (returns : Bool) :
    (lowerChain chain returns).nodes = numberSteps chain.nodes.length chain.nodes := by
  rw [FunctionBody.nodes, lowerChain, List.dropLast_concat]
  rfl

/-- **A chain that runs becomes a function that runs.** -/
theorem lowerChain_sound {chain : Chain} (h : chain.Runs) (returns : Bool) :
    (lowerChain chain returns).Sound (if returns then .result else .noResult) where
  nonempty := by
    rw [lowerChain_nodes, numberSteps]
    simpa using h.nonempty
  fits := by
    rw [lowerChain_nodes]
    exact numberSteps_fits h.fits
  gives := by
    rw [lowerChain_nodes, ← List.getLast?_map, numberSteps_map_returns, List.getLast?_map]
    exact Chain.nodes_getLast? h.nonempty
  ends := by
    refine ⟨endingStep returns chain.cursor chain.nodes.length, ?_, ?_, ?_⟩
    · rw [lowerChain_nodes]
      rfl
    · cases returns <;> rfl
    · cases returns <;> simp [endingStep, lowerChain, ValueType.accepts]

namespace Module

variable {m : Module} {order : List String} {body : FunctionBody} {ending : Operation} {step : Step}

theorem linkStep_alike (step : Step) : step.Alike (m.linkStep order step) := by
  obtain ⟨operation, accepts, returns, slot⟩ := step
  cases operation <;> exact ⟨rfl, rfl, rfl, rfl⟩

theorem linkStep_of_not_isReference (h : step.operation.isReference = false) :
    m.linkStep order step = step := by
  obtain ⟨operation, accepts, returns, slot⟩ := step
  cases operation <;> first | rfl | contradiction

/-- A body is linked step by step. -/
theorem linkBody_nodes : (m.linkBody order body).nodes = body.nodes.map (m.linkStep order) := by
  rw [FunctionBody.nodes, FunctionBody.nodes, linkBody, List.map_dropLast]

/-- Linking a function does not touch how it runs. -/
theorem linkBody_sound (h : body.Sound ending) (hending : ending.isReference = false) :
    (m.linkBody order body).Sound ending where
  nonempty := by
    rw [linkBody_nodes]
    simpa using h.nonempty
  fits := by
    have hfits := h.fits
    rw [← List.map_id body.nodes] at hfits
    rw [linkBody_nodes]
    exact hfits.of_alike linkStep_alike
  gives := by
    have hreturns : Step.returns ∘ m.linkStep order = Step.returns :=
      funext fun step => (linkStep_alike step).returns
    rw [linkBody_nodes, List.getLast?_map, Option.map_map, hreturns]
    exact h.gives
  ends := by
    obtain ⟨terminal, hsteps, hoperation, haccepts⟩ := h.ends
    have hterminal : m.linkStep order terminal = terminal :=
      linkStep_of_not_isReference (hoperation ▸ hending)
    refine ⟨terminal, ?_, hoperation, haccepts⟩
    have hmap := congrArg (List.map (m.linkStep order)) hsteps
    rw [List.map_append, List.map_singleton, hterminal, ← linkBody_nodes] at hmap
    exact hmap

end Module

/-! ## parsers -/

/-- The hook of which a member is the function. -/
def ParserMember.hook? : ParserMember → Option Hook
  | .hook h _ => some h
  | _ => none

/-- The hooks that a parser has functions for. -/
def Parser.hooks (p : Parser) : List Hook := p.members.filterMap ParserMember.hook?

/-- A parser all of whose functions run, give what they may give and fall back to what they may fall
back to, with the hooks of its kind. -/
structure Parser.Sound (p : Parser) : Prop where
  /-- Validation gives nothing; every other hook ends with its result. -/
  hook : ∀ hook body, .hook hook body ∈ p.members →
    body.Sound (if hook = .preValidate then .noResult else .result) ∧
      hook.Admits body.returns body.fallback
  field : ∀ name body, .field name body ∈ p.members →
    body.Sound .result ∧ p.kind.Admits body.returns body.fallback
  required : ∀ hook ∈ p.kind.requiredHooks, hook ∈ p.hooks
  used : ∀ hook ∈ p.hooks, hook = .preValidate ∨ hook ∈ p.kind.requiredHooks
  once : p.hooks.Nodup

/-- The hooks of a parser are those of its members. -/
theorem Parser.mem_hooks {p : Parser} {hook : Hook} :
    hook ∈ p.hooks ↔ ∃ body, .hook hook body ∈ p.members := by
  rw [Parser.hooks, List.mem_filterMap]
  constructor
  · rintro ⟨member, hmem, hmember⟩
    cases member <;> simp only [ParserMember.hook?, reduceCtorEq, Option.some.injEq] at hmember
    exact ⟨_, hmember ▸ hmem⟩
  · rintro ⟨body, hmem⟩
    exact ⟨_, hmem, rfl⟩

/-- The hook members stand in the order of the hooks. -/
theorem hookMembers_filterMap {kind : SchemaKind} {resolved : Resolved} :
    (hookMembers kind resolved).filterMap ParserMember.hook? =
      (Hook.all.filter kind.allowsHook).filter fun hook => (resolved.hook? hook).isSome := by
  rw [hookMembers, List.filterMap_filterMap]
  generalize Hook.all.filter kind.allowsHook = used
  rw [← List.filterMap_eq_filter]
  congr 1
  funext hook
  cases h : resolved.hook? hook <;> simp [Option.guard, h, ParserMember.hook?]

theorem lowerSchema_hooks {name : String} {kind : SchemaKind} {resolved : Resolved} :
    (lowerSchema name kind resolved).hooks =
      (Hook.all.filter kind.allowsHook).filter fun hook => (resolved.hook? hook).isSome := by
  have hnamed : (namedMembers kind resolved).filterMap ParserMember.hook? = [] := by
    rw [namedMembers]
    split <;> simp [ParserMember.hook?]
  rw [Parser.hooks, lowerSchema, List.filterMap_append, List.filterMap_append,
    List.filterMap_append, hnamed, hookMembers_filterMap]
  exact (List.append_nil _).trans (List.append_nil _)

namespace Module

variable {m : Module} {o : Options} {order : List String} {name : String} {parser : Parser}
  {schema : Schema} {resolved : Resolved}

/-- What a function of a parser gives and falls back to is what the chain does. -/
theorem linkBody_lowerChain_sound [Libraries] {chain : Chain} (h : chain.Runs) (returns : Bool) :
    let body := m.linkBody order (lowerChain (chain.map o.rewrite) returns)
    body.Sound (if returns then .result else .noResult) ∧ body.returns = chain.cursor ∧
      body.fallback = chain.default? := by
  refine ⟨linkBody_sound (lowerChain_sound (Chain.runs_map o.rewrites h) returns) ?_,
    Chain.cursor_map o.rewrites, Chain.default?_map o.rewrites⟩
  cases returns <;> rfl

/-- The parser of a schema that was checked is sound. -/
theorem parser_sound [Libraries] (hkind : parser.kind = schema.kind)
    (hmembers : parser.members = (lowerSchema name schema.kind
      (resolved.mapSteps o.rewrite)).members.map (m.linkMember order))
    (h : resolved.Checked schema.kind) : parser.Sound where
  hook hook body hmem := by
    rw [hmembers, mem_hook_iff] at hmem
    obtain ⟨hallows, chain, hchain, rfl⟩ := hmem
    obtain ⟨hruns, hadmits⟩ := h.hook hook chain hallows hchain
    obtain ⟨hsound, hreturns, hfallback⟩ := linkBody_lowerChain_sound hruns (hook ≠ .preValidate)
    rw [hreturns, hfallback]
    refine ⟨?_, hadmits⟩
    cases hook <;> exact hsound
  field field body hmem := by
    rw [hmembers, mem_field_iff] at hmem
    obtain ⟨hnamed, chain, hchain, rfl⟩ := hmem
    obtain ⟨hruns, hadmits⟩ := h.named field chain hnamed hchain
    obtain ⟨hsound, hreturns, hfallback⟩ := linkBody_lowerChain_sound hruns true
    rw [hreturns, hfallback, hkind]
    exact ⟨hsound, hadmits⟩
  required hook hhook := by
    rw [hkind] at hhook
    obtain ⟨chain, hchain⟩ := Option.isSome_iff_exists.mp (h.required hook hhook)
    have hallows : schema.kind.allowsHook hook = true := by simp [SchemaKind.allowsHook, hhook]
    rw [Parser.mem_hooks, hmembers]
    exact ⟨_, mem_hook_iff.mpr ⟨hallows, chain, hchain, rfl⟩⟩
  used hook hhook := by
    rw [Parser.mem_hooks, hmembers] at hhook
    obtain ⟨body, hmem⟩ := hhook
    rw [hkind]
    simpa [SchemaKind.allowsHook] using (mem_hook_iff.mp hmem).1
  once := by
    have hlink : ParserMember.hook? ∘ m.linkMember order = ParserMember.hook? :=
      funext fun member => by cases member <;> rfl
    rw [Parser.hooks, hmembers, List.filterMap_map, hlink, ← Parser.hooks, lowerSchema_hooks]
    exact ((by decide : Hook.all.Nodup).filter _).filter _

/-- **Every function of an assembled program is sound.** -/
theorem assemble_sound [Libraries] (m : Module) (o : Options) (a : Assembled)
    (h : m.assemble o = .ok a) :
    ∀ parser ∈ a.program.parsers, parser.Sound := by
  obtain ⟨order, shapeOrder, hstages⟩ := assemble_stages h
  obtain ⟨report, hcheck, herrors⟩ := hstages.checked
  intro parser hparser
  obtain ⟨name, -, hlinked⟩ := exists_left hstages.parsers hparser
  obtain ⟨schema, resolved, hschema, hresolved, -, hkind, hmembers⟩ := linkedParser_eq_ok hlinked
  obtain ⟨s, r, hs, hr, hchecked⟩ :=
    Registry.checked_of_check hcheck herrors (Registry.mem_names_of_get? hschema)
  obtain rfl : schema = s := Option.some.inj (hschema.symm.trans hs)
  obtain rfl : resolved = r := Except.ok.inj (hresolved.symm.trans hr)
  exact parser_sound hkind hmembers hchecked

/-- Prices by name, and a schema that inherits all but the price, which it reads as a whole
number. -/
def prices : Module where
  docstring := none
  registry := ⟨[
    { Schema.ofKind "Prices" .dict with
      members := [
        (Hook.splitDoc.name, some [.plain (.selectAll .css "li") .document .listDocument]),
        (Hook.key.name, some [.plain (.default (.str "?")) .any .any,
          .plain (.select .css "b") .document .document, .plain .text .document .string]),
        (Hook.value.name, some [.plain .text .document .string,
          .plain .toFloat .string .float])] },
    { Schema.ofKind "WholePrices" .dict with
      parents := ["Prices"]
      members := [(Hook.value.name, some [.plain (.default (.int 0)) .any .any,
        .plain .text .document .string, .plain .toInt .string .int])] }]⟩
  shapes := []

/-- A schema of prices and one that inherits from it, with the queries converted. -/
theorem assemble_sound_prices :
    ∃ a, prices.assemble { cssToXPath := true } = .ok a ∧
      a.program.parsers.map Parser.hooks =
        [[.splitDoc, .key, .value], [.splitDoc, .key, .value]] ∧
      ∀ parser ∈ a.program.parsers, parser.Sound := by
  have hhooks : ((prices.assemble { cssToXPath := true }).map fun a =>
      a.program.parsers.map Parser.hooks).toOption =
        some [[.splitDoc, .key, .value], [.splitDoc, .key, .value]] := by decide +kernel
  cases h : prices.assemble { cssToXPath := true } with
  | error e =>
      rw [h] at hhooks
      contradiction
  | ok a =>
      rw [h] at hhooks
      exact ⟨a, rfl, Option.some.inj hhooks, assemble_sound prices _ a h⟩

end Module

end Extractor
