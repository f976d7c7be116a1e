import Extractor.Libraries.Standard
import Extractor.Proofs.Inheritance

/-!
# Extractor.Proofs.Views

Three views of a schema: the functions of its parser, the calls by which the
parser works, and the fields of the type of its result. Each is made by a walk
of its own over the kind, its hooks and the named fields. They agree
(`Module.assemble_views`) because of what the check asks for: the hooks of the
kind are there, and a document is split into a list of elements.
-/

namespace Extractor

open Outcome

/-! ## views -/

/-- The name and the body of a function. -/
def ParserMember.function? : ParserMember → Option (String × FunctionBody)
  | .hook h body => some (h.name, body)
  | .field name body => some (name, body)
  | _ => none

/-- The calls that start a parser. -/
def ParserMember.start? : ParserMember → Option (List Step)
  | .start _ calls => some calls
  | _ => none

namespace Parser

/-- The functions of hooks and fields, in order. -/
def functions (p : Parser) : List (String × FunctionBody) :=
  p.members.filterMap ParserMember.function?

/-- The functions whose results make up the result of the parser. -/
def results (p : Parser) : List (String × FunctionBody) :=
  match p.kind with
  | .item | .list | .accUniqueList => p.fields
  | .dict => p.functions.filter (·.1 == Hook.value.name)
  | .flatList => p.functions.filter (·.1 == Hook.item.name)

/-- The step calls the function and gives what it gives; a validation gives nothing. -/
structure Invokes (call : Step) (function : String × FunctionBody) : Prop where
  operation : call.operation = .call function.1
  returns : function.1 ≠ Hook.preValidate.name → call.returns = function.2.returns

/-- The parser calls its functions one after the other, each of them under its own name. -/
structure Orderly (p : Parser) : Prop where
  distinct : (p.functions.map Prod.fst).Nodup
  names : p.calls = p.functions.map Prod.fst
  starts : ∃ calls, p.start? = some calls ∧ List.Forall₂ Invokes calls p.functions

/-- The functions that calls invoke have the names that are called. -/
theorem names_of_forall₂ {calls : List Step} {functions : List (String × FunctionBody)}
    (h : List.Forall₂ Invokes calls functions) :
    (calls.filterMap fun step => match step.operation with
      | .call function => some function
      | _ => none) = functions.map Prod.fst := by
  induction h with
  | nil => rfl
  | cons hcall _ ih => simp [hcall.operation, ih]

end Parser

/-- The field stands for what the function gives. -/
structure FieldType.Describes (field : FieldType) (function : String × FunctionBody) : Prop where
  name : field.name = function.1
  returns : field.returns = function.2.returns
  nullable : field.nullable = function.2.nullable

/-! ## functions and calls -/

/-- A kind allows the hooks that it requires and the one that validates. -/
theorem Hook.filter_allowsHook (kind : SchemaKind) :
    Hook.all.filter kind.allowsHook = .preValidate :: kind.requiredHooks := by
  cases kind <;> decide

/-- The functions of some hooks. -/
def hookFunctions (resolved : Resolved) (hooks : List Hook) : List (String × FunctionBody) :=
  hooks.filterMap fun hook => (resolved.hook? hook).map fun chain =>
    (hook.name, lowerChain chain (hook ≠ .preValidate))

/-- The functions of the named fields, if the kind has any. -/
def namedFunctions (kind : SchemaKind) (resolved : Resolved) : List (String × FunctionBody) :=
  if kind.hasNamedFields then resolved.named.map fun entry => (entry.1, lowerChain entry.2 true)
  else []

section Lowering

variable {name : String} {kind : SchemaKind} {resolved : Resolved}

/-- The functions of a schema are those of its hooks and of its named fields. -/
theorem lowerSchema_functions : (lowerSchema name kind resolved).functions =
    hookFunctions resolved (.preValidate :: kind.requiredHooks) ++
      namedFunctions kind resolved := by
  have hhooks : (hookMembers kind resolved).filterMap ParserMember.function? =
      hookFunctions resolved (.preValidate :: kind.requiredHooks) := by
    rw [hookMembers, Hook.filter_allowsHook, List.filterMap_filterMap, hookFunctions]
    congr 1
    funext hook
    cases resolved.hook? hook <;> rfl
  have hnamed : (namedMembers kind resolved).filterMap ParserMember.function? =
      namedFunctions kind resolved := by
    rw [namedMembers, namedFunctions]
    split
    · rw [List.filterMap_map, ← List.filterMap_eq_map]
      rfl
    · rfl
  rw [Parser.functions, lowerSchema, List.filterMap_append, List.filterMap_append,
    List.filterMap_append, hhooks, hnamed]
  exact List.append_nil _

/-- A parser starts with the calls of its schema. -/
theorem lowerSchema_start? :
    (lowerSchema name kind resolved).start? = some (startCalls kind resolved) := by
  have hhooks : (hookMembers kind resolved).findSome? ParserMember.start? = none := by
    rw [hookMembers, List.findSome?_eq_none_iff]
    intro member hmember
    obtain ⟨hook, -, hchain⟩ := List.mem_filterMap.mp hmember
    obtain ⟨chain, -, rfl⟩ := Option.map_eq_some_iff.mp hchain
    rfl
  have hnamed : (namedMembers kind resolved).findSome? ParserMember.start? = none := by
    rw [namedMembers]
    split
    · rw [List.findSome?_map, List.findSome?_eq_none_iff]
      exact fun _ _ => rfl
    · rfl
  have hstart : (lowerSchema name kind resolved).start? =
      (lowerSchema name kind resolved).members.findSome? ParserMember.start? := rfl
  rw [hstart, lowerSchema, List.findSome?_append, List.findSome?_append, List.findSome?_append,
    hhooks, hnamed]
  rfl

/-- The call of a hook that a kind needs. What splits the document gives elements. -/
def requiredCall (resolved : Resolved) (hook : Hook) : Step :=
  if hook = .splitDoc then callStep hook.name .listDocument else hookCall resolved hook

/-- The calls are made in the order of the hooks, and those of the fields behind them. -/
theorem startCalls_eq : startCalls kind resolved =
    (if (resolved.hook? .preValidate).isSome then [callStep Hook.preValidate.name .null] else [])
      ++ kind.requiredHooks.map (requiredCall resolved)
      ++ (if kind.hasNamedFields then
        resolved.named.map fun entry => callStep entry.1 (Chain.cursor entry.2) else []) := by
  cases kind <;>
    simp [startCalls, SchemaKind.requiredHooks, SchemaKind.hasNamedFields, requiredCall]

/-- A parser is made of a schema by calls of all its functions. -/
theorem forall₂_startCalls
    (h : ∀ hook ∈ kind.requiredHooks, ∃ chain, resolved.hook? hook = some chain ∧
      (hook = .splitDoc → Chain.cursor chain = .listDocument)) :
    List.Forall₂ Parser.Invokes (startCalls kind resolved)
      (lowerSchema name kind resolved).functions := by
  have hrequired : ∀ hooks : List Hook, (∀ hook ∈ hooks, ∃ chain,
      resolved.hook? hook = some chain ∧
        (hook = .splitDoc → Chain.cursor chain = .listDocument)) →
      List.Forall₂ Parser.Invokes (hooks.map (requiredCall resolved))
        (hookFunctions resolved hooks) := by
    intro hooks hhooks
    induction hooks with
    | nil => exact .nil
    | cons hook hooks ih =>
        obtain ⟨⟨chain, hchain, hsplit⟩, hrest⟩ := List.forall_mem_cons.mp hhooks
        rw [hookFunctions, List.filterMap_cons, hchain]
        refine .cons ?_ (ih hrest)
        by_cases hhook : hook = .splitDoc
        · rw [requiredCall, if_pos hhook]
          exact ⟨rfl, fun _ => (hsplit hhook).symm⟩
        · rw [requiredCall, if_neg hhook, hookCall, hchain]
          exact ⟨rfl, fun _ => rfl⟩
  have hnamed : List.Forall₂ Parser.Invokes (if kind.hasNamedFields then
      resolved.named.map fun entry => callStep entry.1 (Chain.cursor entry.2) else [])
        (namedFunctions kind resolved) := by
    rw [namedFunctions]
    split
    · rw [List.forall₂_map_left_iff, List.forall₂_map_right_iff, List.forall₂_same]
      exact fun entry _ => ⟨rfl, fun _ => rfl⟩
    · exact .nil
  have hvalidation : List.Forall₂ Parser.Invokes
      (if (resolved.hook? .preValidate).isSome then [callStep Hook.preValidate.name .null] else [])
      (hookFunctions resolved [.preValidate]) := by
    cases hhook : resolved.hook? .preValidate with
    | none => simp [hookFunctions, hhook]
    | some chain =>
        simp only [hookFunctions, List.filterMap_cons, hhook, List.filterMap_nil]
        exact .cons ⟨rfl, fun hne => absurd rfl hne⟩ .nil
  have hsplit : hookFunctions resolved (.preValidate :: kind.requiredHooks) =
      hookFunctions resolved [.preValidate] ++ hookFunctions resolved kind.requiredHooks :=
    List.filterMap_append (l := [Hook.preValidate])
  rw [lowerSchema_functions, startCalls_eq, hsplit]
  exact List.rel_append (List.rel_append hvalidation (hrequired _ h)) hnamed

theorem Hook.name_injective : Function.Injective Hook.name := by
  intro a b h
  have hsame := congrArg Hook.ofName? h
  rw [Hook.ofName?_name, Hook.ofName?_name] at hsame
  exact Option.some.inj hsame

theorem hookFunctions_sublist (hooks : List Hook) :
    ((hookFunctions resolved hooks).map Prod.fst).Sublist (hooks.map Hook.name) := by
  induction hooks with
  | nil => exact List.Sublist.slnil
  | cons hook hooks ih =>
      rw [hookFunctions, List.filterMap_cons, List.map_cons]
      cases resolved.hook? hook with
      | none => exact ih.cons _
      | some chain => exact ih.cons_cons _

/-- The functions of a schema whose fields have distinct names have distinct names. -/
theorem nodup_functions (h : (resolved.fields.map Prod.fst).Nodup) :
    ((lowerSchema name kind resolved).functions.map Prod.fst).Nodup := by
  have hhooks : (Hook.preValidate :: kind.requiredHooks).Nodup := by
    rw [← Hook.filter_allowsHook]
    exact (by decide : Hook.all.Nodup).filter _
  have hnamed : (namedFunctions kind resolved).map Prod.fst = [] ∨
      (namedFunctions kind resolved).map Prod.fst = resolved.named.map Prod.fst := by
    rw [namedFunctions]
    split
    · right
      rw [List.map_map]
      rfl
    · exact .inl rfl
  have hnodup : (resolved.named.map Prod.fst).Nodup :=
    h.sublist (List.filter_sublist.map Prod.fst)
  have hhookNames : ((hookFunctions resolved (.preValidate :: kind.requiredHooks)).map
      Prod.fst).Nodup :=
    (hhooks.map Hook.name_injective).sublist (hookFunctions_sublist _)
  rw [lowerSchema_functions, List.map_append, List.nodup_append]
  refine ⟨hhookNames, ?_, ?_⟩
  · rcases hnamed with hnone | hsome
    · simp [hnone]
    · rw [hsome]
      exact hnodup
  · rintro a ha b hb rfl
    obtain ⟨hook, -, rfl⟩ := List.mem_map.mp ((hookFunctions_sublist _).subset ha)
    rcases hnamed with hnone | hsome
    · simp [hnone] at hb
    · rw [hsome] at hb
      obtain ⟨entry, hentry, hname⟩ := List.mem_map.mp hb
      have hnone : (Hook.ofName? entry.1).isNone = true := (List.mem_filter.mp hentry).2
      rw [hname, Hook.ofName?_name] at hnone
      contradiction

end Lowering

/-! ## fields of result types -/

section Types

variable {r : Registry} {shapes : Shapes} {kind : SchemaKind} {resolved : Resolved}

/-- The type of a field describes what its function returns. -/
theorem describes_fieldType (name : String) (chain : Chain) (returns : Bool) :
    (r.fieldType shapes name chain).Describes (name, lowerChain chain returns) :=
  ⟨rfl, rfl, rfl⟩

/-- The fields of a result are described by the functions that give them. -/
theorem forall₂_resultShape {name : String}
    (h : ∀ hook ∈ kind.requiredHooks, ∃ chain, resolved.hook? hook = some chain) :
    List.Forall₂ FieldType.Describes (r.resultShape shapes kind resolved).fields
      (lowerSchema name kind resolved).results := by
  have hfields : kind.hasNamedFields = true →
      List.Forall₂ FieldType.Describes
        (resolved.named.map fun entry => r.fieldType shapes entry.1 entry.2)
        (lowerSchema name kind resolved).fields := by
    intro hkind
    rw [lowerSchema_fields hkind, List.forall₂_map_left_iff, List.forall₂_map_right_iff,
      List.forall₂_same]
    exact fun entry _ => describes_fieldType entry.1 entry.2 true
  cases kind with
  | item => exact hfields rfl
  | list => exact hfields rfl
  | accUniqueList => exact hfields rfl
  | dict =>
      obtain ⟨split, hsplit⟩ := h .splitDoc (by decide)
      obtain ⟨key, hkey⟩ := h .key (by decide)
      obtain ⟨value, hvalue⟩ := h .value (by decide)
      have hresults : (lowerSchema name .dict resolved).results =
          [(Hook.value.name, lowerChain value true)] := by
        change (lowerSchema name .dict resolved).functions.filter _ = _
        rw [lowerSchema_functions]
        cases hpre : resolved.hook? .preValidate <;>
          simp [hookFunctions, SchemaKind.requiredHooks, hpre, hsplit, hkey, hvalue,
            namedFunctions, SchemaKind.hasNamedFields, Hook.name]
      rw [hresults]
      simp only [Registry.resultShape, ResultShape.fields, Registry.hookType, hvalue]
      exact .cons (describes_fieldType _ _ _) .nil
  | flatList =>
      obtain ⟨split, hsplit⟩ := h .splitDoc (by decide)
      obtain ⟨item, hitem⟩ := h .item (by decide)
      have hresults : (lowerSchema name .flatList resolved).results =
          [(Hook.item.name, lowerChain item true)] := by
        change (lowerSchema name .flatList resolved).functions.filter _ = _
        rw [lowerSchema_functions]
        cases hpre : resolved.hook? .preValidate <;>
          simp [hookFunctions, SchemaKind.requiredHooks, hpre, hsplit, hitem,
            namedFunctions, SchemaKind.hasNamedFields, Hook.name]
      rw [hresults]
      simp only [Registry.resultShape, ResultShape.fields, Registry.hookType, hitem]
      exact .cons (describes_fieldType _ _ _) .nil

end Types

/-! ## linking -/

namespace Module

variable {m : Module} {o : Options} {program : Program} {order shapeOrder : List String}
  {p parser : Parser} {name : String} {kind : SchemaKind} {resolved : Resolved}

/-- A function with its body linked. -/
def linkFunction (m : Module) (order : List String) (function : String × FunctionBody) :
    String × FunctionBody :=
  (function.1, m.linkBody order function.2)

section Members

variable (hmembers : parser.members = p.members.map (m.linkMember order))

include hmembers

/-- Linking changes neither the names nor the order of functions, fields and results. -/
theorem functions_link : parser.functions = p.functions.map (m.linkFunction order) := by
  have hlink : ParserMember.function? ∘ m.linkMember order =
      fun member => member.function?.map (m.linkFunction order) :=
    funext fun member => by cases member <;> rfl
  rw [Parser.functions, hmembers, List.filterMap_map, hlink, Parser.functions, List.map_filterMap]

theorem fields_link : parser.fields = p.fields.map (m.linkFunction order) := by
  have hfields : ∀ p : Parser, p.fields = p.members.filterMap ParserMember.field? := fun _ => rfl
  have hlink : ParserMember.field? ∘ m.linkMember order =
      fun member => member.field?.map (m.linkFunction order) :=
    funext linkMember_field?
  rw [hfields, hfields, hmembers, List.filterMap_map, hlink, List.map_filterMap]

theorem results_link (hkind : parser.kind = p.kind) :
    parser.results = p.results.map (m.linkFunction order) := by
  have hfilter : ∀ name : String, parser.functions.filter (·.1 == name) =
      (p.functions.filter (·.1 == name)).map (m.linkFunction order) := by
    intro name
    rw [functions_link hmembers, List.filter_map]
    rfl
  rw [Parser.results, Parser.results, hkind]
  cases p.kind with
  | item | list | accUniqueList => exact fields_link hmembers
  | dict => exact hfilter _
  | flatList => exact hfilter _

theorem start?_link : parser.start? = p.start? := by
  rw [Parser.start?, Parser.start?, hmembers, List.findSome?_map]
  congr 1
  funext member
  cases member <;> rfl

end Members

/-- The calls of a parser are of its functions, also when these are linked. -/
theorem orderly_link
    (hmembers : parser.members = (lowerSchema name kind resolved).members.map (m.linkMember order))
    (hnodup : (resolved.fields.map Prod.fst).Nodup)
    (h : ∀ hook ∈ kind.requiredHooks, ∃ chain, resolved.hook? hook = some chain ∧
      (hook = .splitDoc → Chain.cursor chain = .listDocument)) :
    parser.Orderly := by
  have hfunctions := functions_link hmembers
  have hstart : parser.start? = some (startCalls kind resolved) := by
    rw [start?_link hmembers, lowerSchema_start?]
  have hinvokes : List.Forall₂ Parser.Invokes (startCalls kind resolved) parser.functions := by
    rw [hfunctions, List.forall₂_map_right_iff]
    exact (forall₂_startCalls h).imp fun _ _ hcall => ⟨hcall.operation, hcall.returns⟩
  have hnames : parser.functions.map Prod.fst =
      (lowerSchema name kind resolved).functions.map Prod.fst := by
    rw [hfunctions, List.map_map]
    rfl
  refine ⟨?_, ?_, _, hstart, hinvokes⟩
  · rw [hnames]
    exact nodup_functions hnodup
  · rw [Parser.calls, hstart]
    exact Parser.names_of_forall₂ hinvokes

/-- Inherited fields have distinct names. -/
theorem nodup_fields_linearise {f : Step → Step}
    (h : m.registry.linearise name = .ok resolved) :
    ((resolved.mapSteps f).fields.map Prod.fst).Nodup := by
  rw [Registry.linearise, bind_eq_ok] at h
  obtain ⟨lineage, -, h⟩ := h
  obtain rfl := pure_eq_ok.mp h
  rw [← Resolved.ofLineage_mapSteps]
  exact (Keyed.nodup_firsts _).sublist (Resolved.fields_sublist _)

/-- A schema that passed the check has the hooks of its kind, and splits documents into lists. -/
theorem Stages.required_hooks [Libraries] (h : Stages m o program order shapeOrder)
    {schema : Schema} (hschema : m.registry.get? name = some schema)
    (hresolved : m.registry.linearise name = .ok resolved) :
    ∀ hook ∈ schema.kind.requiredHooks, ∃ chain,
      (resolved.mapSteps o.rewrite).hook? hook = some chain ∧
        (hook = .splitDoc → Chain.cursor chain = .listDocument) := by
  obtain ⟨report, hcheck, hok⟩ := h.checked
  obtain ⟨s, other, hs, hother, hchecked⟩ :=
    Registry.checked_of_check hcheck hok (Registry.mem_names_of_get? hschema)
  obtain rfl : schema = s := Option.some.inj (hschema.symm.trans hs)
  obtain rfl : resolved = other := Except.ok.inj (hresolved.symm.trans hother)
  intro hook hhook
  obtain ⟨chain, hchain⟩ := Option.isSome_iff_exists.mp (hchecked.required hook hhook)
  refine ⟨chain.map o.rewrite, ?_, ?_⟩
  · rw [Resolved.hook?_mapSteps, hchain]
    rfl
  · intro hsplit
    have hallows : schema.kind.allowsHook hook = true :=
      (List.mem_filter.mp (Hook.filter_allowsHook schema.kind ▸ List.mem_cons_of_mem _ hhook)).2
    rw [Chain.cursor_map o.rewrites]
    exact (hchecked.hook hook chain hallows hchain).2.splitDoc hsplit

/-- **The views of a schema agree.** Of every schema of a module that assembles, the parser calls
its functions in their order, each for what it gives, and the fields of the result are those of the
functions that make it up: the named ones of a record, the value of a map, the item of a list. -/
theorem assemble_views [Libraries] (m : Module) (o : Options) (a : Assembled)
    (h : m.assemble o = .ok a) (schema : Schema)
    (hschema : m.registry.get? schema.name = some schema) :
    ∃ parser type, a.program.parser? schema.name = some parser ∧
      a.program.resultType? schema.name = some type ∧ parser.kind = schema.kind ∧
      parser.Orderly ∧ List.Forall₂ FieldType.Describes type.shape.fields parser.results := by
  obtain ⟨order, shapeOrder, hstages⟩ := assemble_stages h
  obtain ⟨parser, hparser, hlinked⟩ := hstages.parser?_eq_some hschema
  obtain ⟨plain, htype, hplain⟩ := hstages.resultType?_eq_some hschema
  obtain ⟨s, resolved, hs, hresolved, -, hkind, hmembers⟩ := linkedParser_eq_ok hlinked
  obtain rfl : schema = s := Option.some.inj (hschema.symm.trans hs)
  obtain ⟨t, other, ht, hother, rfl⟩ := resultType_eq_ok hplain
  obtain rfl : schema = t := Option.some.inj (hschema.symm.trans ht)
  obtain rfl : resolved = other := Except.ok.inj (hresolved.symm.trans hother)
  have hrequired := hstages.required_hooks hschema hresolved
  have hnodup := nodup_fields_linearise (f := o.rewrite) hresolved
  refine ⟨parser, _, hparser, htype, hkind, orderly_link hmembers hnodup hrequired, ?_⟩
  rw [linkType, ResultShape.fields_mapFields, results_link hmembers hkind,
    List.forall₂_map_left_iff, List.forall₂_map_right_iff]
  have hdescribes : List.Forall₂ FieldType.Describes
      ((m.registry.mapSteps o.rewrite).resultShape m.shapes schema.kind
        (resolved.mapSteps o.rewrite)).fields
      (lowerSchema schema.name schema.kind (resolved.mapSteps o.rewrite)).results :=
    forall₂_resultShape fun hook hhook => (hrequired hook hhook).imp fun _ => And.left
  exact hdescribes.imp fun _ _ hfield => ⟨hfield.name, hfield.returns, hfield.nullable⟩

/-- The calls and the fields of a schema that inherits some of its hooks. -/
theorem assemble_views_wholePrices :
    ∃ a parser type, prices.assemble { cssToXPath := true } = .ok a ∧
      a.program.parser? "WholePrices" = some parser ∧
      a.program.resultType? "WholePrices" = some type ∧ parser.kind = .dict ∧
      parser.calls = ["__SPLIT_DOC__", "__KEY__", "__VALUE__"] ∧ parser.Orderly ∧
      List.Forall₂ FieldType.Describes type.shape.fields parser.results := by
  have hcalls : ((prices.assemble { cssToXPath := true }).map fun a =>
      (a.program.parser? "WholePrices").map Parser.calls).toOption =
        some (some ["__SPLIT_DOC__", "__KEY__", "__VALUE__"]) := by decide +kernel
  cases h : prices.assemble { cssToXPath := true } with
  | error e =>
      rw [h] at hcalls
      contradiction
  | ok a =>
      obtain ⟨parser, type, hparser, htype, hkind, horderly, hfields⟩ :=
        assemble_views prices _ a h (prices.registry.schemas.getLast (by decide)) (by rfl)
      have hparser' : a.program.parser? "WholePrices" = some parser := hparser
      simp only [h, Except.map, Except.toOption, hparser', Option.map_some,
        Option.some.injEq] at hcalls
      exact ⟨a, parser, type, rfl, hparser, htype, hkind, hcalls, horderly, hfields⟩

end Module

end Extractor
