import Extractor.Libraries.Standard
import Extractor.Proofs.Assembly
import Extractor.Proofs.Declaration
import Extractor.Proofs.Dependencies

/-!
# Extractor.Proofs.Linking

References of an assembled program. Three stages deal with them: they are
resolved and collected from the fields that schemas inherit, put into an order,
and linked in the lowered functions and types. A declared chain refers to one
thing at most (`Chain.Sound.eq_of_isReference`), so that all three mean the
same reference, and what a program refers to stands in it, further in front
(`Module.parse_linked`).
-/

namespace Extractor

open Outcome

/-! ## places -/

/-- Where all have a value, the values are in the order of those that have them. -/
theorem forall₂_filterMap {α β : Type} {g : α → Option β} {l : List α}
    (h : ∀ x ∈ l, (g x).isSome = true) :
    List.Forall₂ (fun x y => g x = some y) l (l.filterMap g) := by
  induction l with
  | nil => exact .nil
  | cons x l ih =>
      obtain ⟨hx, hl⟩ := List.forall_mem_cons.mp h
      obtain ⟨y, hy⟩ := Option.isSome_iff_exists.mp hx
      rw [List.filterMap_cons_some hy]
      exact .cons hy (ih hl)

/-- Looking a name up finds the value of the first entry of that name. -/
theorem lookup_map_find? {α β : Type} {key : α → String} {value : α → β} {l : List α}
    {name : String} :
    (l.map fun x => (key x, value x)).lookup name = (l.find? (key · == name)).map value := by
  induction l with
  | nil => rfl
  | cons x l ih =>
      rw [List.map_cons, List.lookup_cons, List.find?_cons, ih, BEq.comm]
      split <;> rfl

/-- Where names are in order, what the name at a place needs is found at an earlier place. -/
theorem Dependencies.Ordered.exists_earlier {edges : Edges} {order : List String} {i : Nat}
    {name other : String} (h : Ordered edges order) (hplace : order[i]? = some name)
    (hneeds : Needs edges name other) :
    ∃ j < i, order.idxOf? other = some j ∧ order[j]? = some other := by
  obtain ⟨hi, hget⟩ := List.getElem?_eq_some_iff.mp hplace
  have hidx : order.idxOf name = i := by
    rw [← hget]
    exact h.nodup.idxOf_getElem i hi
  obtain ⟨hmem, hlt⟩ := h.earlier name (List.mem_of_getElem? hplace) other hneeds
  rw [hidx] at hlt
  refine ⟨order.idxOf other, hlt, ?_, ?_⟩
  · obtain ⟨j, hj⟩ := Option.isSome_iff_exists.mp (List.isSome_idxOf?.mpr hmem)
    rw [List.idxOf_eq_getD_idxOf?, hj]
    rfl
  · have hbound := List.idxOf_lt_length_of_mem hmem
    rw [List.getElem?_eq_getElem hbound, List.getElem_idxOf hbound]

/-! ## references of chains -/

namespace Chain

variable [Libraries]

variable {chain steps : Chain} {a b step : Step} {type : ValueType}

/-- Of a chain in flow no two steps refer to something, since the type behind a reference is
closed. -/
theorem Flow.eq_of_isReference (h : Flow type steps) (ha : a ∈ steps) (hb : b ∈ steps)
    (hra : a.operation.isReference = true) (hrb : b.operation.isReference = true) : a = b := by
  have hlast : ∀ step ∈ steps, step.operation.isReference = true →
      steps.getLast? = some step := by
    intro step hstep hreference
    obtain ⟨i, hi⟩ := List.mem_iff_getElem?.mp hstep
    have hclosed := (h.sound_of_mem hstep).reference_closes hreference
    rw [List.getLast?_eq_getElem?, h.length_of_closed hi hclosed]
    exact hi
  exact Option.some.inj ((hlast a ha hra).symm.trans (hlast b hb hrb))

/-- A sound chain refers to one thing at most. -/
theorem Sound.eq_of_isReference (h : Sound chain) (ha : a ∈ chain) (hb : b ∈ chain)
    (hra : a.operation.isReference = true) (hrb : b.operation.isReference = true) : a = b := by
  rcases h with h | ⟨value, steps, rfl, h⟩
  · exact h.eq_of_isReference ha hb hra hrb
  · have hsteps : ∀ step ∈ Step.plain (.default value) .any .any :: steps,
        step.operation.isReference = true → step ∈ steps := by
      intro step hstep hreference
      rcases List.mem_cons.mp hstep with rfl | hstep
      · contradiction
      · exact hstep
    exact h.eq_of_isReference (hsteps a ha hra) (hsteps b hb hrb) hra hrb

/-- What references alone are asked for is the same for the chain and for any reference in it. -/
theorem Sound.findSome?_eq {g : Operation → Option String} {name : String} (h : Sound chain)
    (hg : ∀ operation name, g operation = some name → operation.isReference = true)
    (hmem : step ∈ chain) (hstep : g step.operation = some name) :
    chain.findSome? (g ·.operation) = some name := by
  have hsome : (chain.findSome? (g ·.operation)).isSome = true :=
    List.findSome?_isSome_iff.mpr ⟨step, hmem, by rw [hstep]; rfl⟩
  obtain ⟨found, hfound⟩ := Option.isSome_iff_exists.mp hsome
  obtain ⟨other, hother, hname⟩ := List.exists_of_findSome?_eq_some hfound
  obtain rfl := h.eq_of_isReference hmem hother (hg _ _ hstep) (hg _ _ hname)
  rw [hfound, ← hname, hstep]

/-- The nested schema of a chain is that of the step which refers to it. -/
theorem Sound.nestedSchema?_eq {schema : String} {target : Option Nat} (h : Sound chain)
    (hmem : step ∈ chain) (hstep : step.operation = .nested schema target) :
    nestedSchema? chain = some schema := by
  refine h.findSome?_eq (g := Operation.schema?) (fun operation _ hoperation => ?_) hmem
    (by rw [hstep]; rfl)
  cases operation <;> first | rfl | contradiction

theorem Sound.shape?_eq {shape start : String} {isArray : Bool} (h : Sound chain)
    (hmem : step ∈ chain) (hstep : step.operation = .jsonify shape start isArray) :
    shape? chain = some shape := by
  refine h.findSome?_eq (g := Operation.shape?) (fun operation _ hoperation => ?_) hmem
    (by rw [hstep]; rfl)
  cases operation <;> first | rfl | contradiction

end Chain

/-! ## references of functions -/

namespace Module

variable {m : Module} {o : Options} {order : List String} {chain : Chain} {returns : Bool}
  {step : Step} {schema shape start : String} {target : Option Nat} {isArray : Bool}

/-- How an operation is linked does not depend on the step around it. -/
theorem linkStep_operation_congr {a b : Step} (h : a.operation = b.operation) :
    (m.linkStep order a).operation = (m.linkStep order b).operation := by
  obtain ⟨operation, accepts, gives, slot⟩ := a
  subst h
  obtain ⟨operation, accepts, gives, slot⟩ := b
  cases operation <;> rfl

/-- Linking makes no references and takes none away. -/
theorem linkStep_isReference (step : Step) :
    (m.linkStep order step).operation.isReference = step.operation.isReference := by
  obtain ⟨operation, accepts, gives, slot⟩ := step
  cases operation <;> rfl

/-- Conversion does not touch references. -/
theorem rewrite_operation [Libraries] (h : (o.rewrite step).operation.isReference = true) :
    (o.rewrite step).operation = step.operation := by
  rcases o.rewrites.similar step with hsame | ⟨-, hsearch⟩
  · exact hsame.symm
  · cases hoperation : (o.rewrite step).operation <;> rw [hoperation] at h hsearch <;>
      contradiction

/-- A reference in a lowered and linked chain is one of the chain itself, linked. -/
theorem exists_of_mem_linkBody [Libraries]
    (hmem : step ∈ (m.linkBody order (lowerChain (chain.map o.rewrite) returns)).steps)
    (hreference : step.operation.isReference = true) :
    ∃ origin ∈ chain, (m.linkStep order origin).operation = step.operation := by
  obtain ⟨lowered, hlowered, rfl⟩ := List.mem_map.mp hmem
  rw [linkStep_isReference] at hreference
  rcases List.mem_append.mp hlowered with hnumbered | hending
  · obtain ⟨⟨node, number⟩, hpair, rfl⟩ := List.mem_map.mp hnumbered
    have hnode := List.mem_of_mem_filter (List.fst_mem_of_mem_zipIdx hpair)
    obtain ⟨origin, horigin, rfl⟩ := List.mem_map.mp hnode
    exact ⟨origin, horigin, linkStep_operation_congr (rewrite_operation hreference).symm⟩
  · rw [List.mem_singleton.mp hending] at hreference
    cases returns <;> contradiction

/-- A nested step of a linked body was one before, and now has the place of its schema. -/
theorem linkStep_nested (h : (m.linkStep order step).operation = .nested schema target) :
    (∃ unlinked, step.operation = .nested schema unlinked) ∧ target = order.idxOf? schema := by
  obtain ⟨operation, accepts, gives, slot⟩ := step
  cases operation
  case nested other unlinked =>
    cases h
    exact ⟨⟨unlinked, rfl⟩, rfl⟩
  all_goals simp [linkStep] at h

/-- A step for a shape was one before, and now says whether the shape is an array. -/
theorem linkStep_jsonify (h : (m.linkStep order step).operation = .jsonify shape start isArray) :
    (∃ unlinked, step.operation = .jsonify shape start unlinked) ∧
      isArray = m.shapes.isArray shape := by
  obtain ⟨operation, accepts, gives, slot⟩ := step
  cases operation
  case jsonify other from' unlinked =>
    cases h
    exact ⟨⟨unlinked, rfl⟩, rfl⟩
  all_goals simp [linkStep] at h

end Module

/-! ## references of schemas -/

/-- The first entries of a list are entries of it. -/
theorem Keyed.mem_of_mem_firsts {α : Type} {l : List (String × α)} {p : String × α}
    (h : p ∈ firsts l) : p ∈ l := by
  induction l with
  | nil => exact h
  | cons first rest ih =>
      rw [firsts] at h
      rcases List.mem_cons.mp h with h | h
      · exact List.mem_cons.mpr (.inl h)
      · exact List.mem_cons_of_mem first (ih (List.mem_of_mem_filter h))

/-- A field comes from a member of the lineage. -/
theorem Resolved.exists_member {lineage : List Schema} {field : String} {chain : Chain}
    (h : (field, chain) ∈ (ofLineage lineage).fields) :
    ∃ schema ∈ lineage, (field, some chain) ∈ schema.members := by
  obtain ⟨⟨name, chain?⟩, hfirst, hsome⟩ := List.mem_filterMap.mp h
  obtain ⟨other, rfl, heq⟩ := Option.map_eq_some_iff.mp hsome
  cases heq
  exact List.mem_flatMap.mp (List.mem_of_mem_filter (Keyed.mem_of_mem_firsts hfirst))

namespace Registry

variable {r : Registry} {name field : String} {kind : SchemaKind} {chain : Chain}
  {resolved : Resolved}

theorem mem_schemas_of_resolve {referrer : String} {schema : Schema}
    (h : r.resolve name referrer = .ok schema) : schema ∈ r.schemas :=
  List.mem_of_find?_eq_some (resolve_eq_ok.mp h)

/-- Only schemas of the registry are met among ancestors. -/
theorem visit_subset {fuel : Nat} {done result : List Schema} {schema : Schema}
    (hdone : ∀ s ∈ done, s ∈ r.schemas) (hschema : schema ∈ r.schemas)
    (h : r.visit kind fuel done schema = .ok result) : ∀ s ∈ result, s ∈ r.schemas := by
  induction fuel generalizing done result schema with
  | zero =>
      cases h
      exact hdone
  | succ fuel ih =>
      rw [visit] at h
      split at h
      · cases h
        exact hdone
      · refine foldlM_preserves (P := fun l => ∀ s ∈ l, s ∈ r.schemas) ?_ ?_ h
        · intro parent _ before after hbefore hstep
          rw [bind_eq_ok] at hstep
          obtain ⟨s, hs, hstep⟩ := hstep
          split at hstep
          · exact ih hbefore (mem_schemas_of_resolve hs) hstep
          · exact pure_eq_ok.mp hstep ▸ hbefore
        · intro s hs
          rcases List.mem_append.mp hs with hs | hs
          · exact hdone s hs
          · exact List.mem_singleton.mp hs ▸ hschema

/-- What a schema comes to is made of members that some schema declares. -/
theorem exists_member_of_linearise (h : r.linearise name = .ok resolved)
    (hmem : (field, chain) ∈ resolved.fields) :
    ∃ schema ∈ r.schemas, (field, some chain) ∈ schema.members := by
  rw [linearise, bind_eq_ok] at h
  obtain ⟨lineage, hlineage, h⟩ := h
  rw [pure_eq_ok] at h
  subst h
  rw [Registry.lineage, bind_eq_ok] at hlineage
  obtain ⟨root, hroot, hvisit⟩ := hlineage
  have hsubset := visit_subset (by simp) (mem_schemas_of_resolve hroot) hvisit
  obtain ⟨schema, hschema, hmember⟩ := Resolved.exists_member hmem
  exact ⟨schema, hsubset schema hschema, hmember⟩

end Registry

namespace Module

variable {m : Module} {edges : Dependencies.Edges} {name field : String} {chain : Chain}
  {resolved : Resolved}

/-- The fields of declared schemas are sound chains. -/
theorem Declared.sound_of_linearise [Libraries] (h : m.Declared)
    (hresolved : m.registry.linearise name = .ok resolved)
    (hmem : (field, chain) ∈ resolved.fields) : Chain.Sound chain := by
  obtain ⟨schema, hschema, hmember⟩ := Registry.exists_member_of_linearise hresolved hmem
  exact h.sound schema hschema field chain hmember

/-- A shape that is resolved is one of the module. -/
theorem resolveShape_eq_ok {referrer : String} (h : m.resolveShape name referrer = .ok ()) :
    (m.shapes.get? name).isSome = true := by
  rw [resolveShape] at h
  split at h
  · assumption
  · contradiction

/-- What a chain that is resolved refers to is declared. -/
theorem resolveChain_eq_ok {referrer : String} (h : m.resolveChain referrer chain = .ok ()) :
    (∀ schema, chain.nestedSchema? = some schema → schema ∈ m.registry.names) ∧
      ∀ shape, chain.shape? = some shape → (m.shapes.get? shape).isSome = true := by
  unfold resolveChain at h
  dsimp only at h
  split at h
  · next schema hschema =>
      rw [bind_eq_ok] at h
      obtain ⟨_, hresolve, h⟩ := h
      obtain ⟨s, hs⟩ := discard_eq_ok.mp hresolve
      refine ⟨fun other hother => ?_, fun shape hshape => ?_⟩
      · rw [← Option.some.inj (hschema.symm.trans hother)]
        exact Registry.mem_names_of_get? (Registry.resolve_eq_ok.mp hs)
      · rw [hshape] at h
        exact resolveShape_eq_ok h
  · next hnone =>
      refine ⟨fun other hother => ?_, fun shape hshape => ?_⟩
      · rw [hnone] at hother
        contradiction
      · rw [hshape] at h
        exact resolveShape_eq_ok h

/-- References that resolve do so in every field of every schema and in every shape. -/
theorem resolveReferences_eq_ok (h : m.resolveReferences = .ok ()) :
    (∀ name ∈ m.registry.names, ∃ resolved, m.registry.linearise name = .ok resolved ∧
      ∀ field chain, (field, chain) ∈ resolved.fields → m.resolveChain name chain = .ok ()) ∧
    ∀ shape ∈ m.shapes, ∀ other ∈ shape.references, (m.shapes.get? other).isSome = true := by
  rw [resolveReferences, bind_eq_ok] at h
  obtain ⟨_, hfields, hshapes⟩ := h
  refine ⟨fun name hname => ?_, fun shape hshape other hother => ?_⟩
  · have hname := forM_eq_ok.mp hfields name hname
    rw [bind_eq_ok] at hname
    obtain ⟨resolved, hresolved, hchains⟩ := hname
    exact ⟨resolved, hresolved, fun field chain hmem =>
      forM_eq_ok.mp hchains (field, chain) hmem⟩
  · exact resolveShape_eq_ok (forM_eq_ok.mp (forM_eq_ok.mp hshapes shape hshape) other hother)

/-- The entries of the schemas list what their fields hand over to. -/
theorem schemaEdges_eq_ok (h : m.schemaEdges = .ok edges) :
    Dependencies.keys edges = m.registry.names ∧
      ∀ name ∈ m.registry.names, ∀ resolved, m.registry.linearise name = .ok resolved →
        edges.lookup name = some (resolved.fields.filterMap fun p => Chain.nestedSchema? p.2) := by
  rw [schemaEdges, mapM_eq_ok] at h
  generalize m.registry.names = names at *
  induction h with
  | nil => exact ⟨rfl, by simp⟩
  | @cons head entry names edges hentry _ ih =>
      rw [bind_eq_ok] at hentry
      obtain ⟨found, hfound, hentry⟩ := hentry
      obtain rfl := pure_eq_ok.mp hentry
      refine ⟨congrArg (head :: ·) ih.1, fun name hname resolved hresolved => ?_⟩
      by_cases hhead : name = head
      · subst hhead
        obtain rfl : found = resolved := Except.ok.inj (hfound.symm.trans hresolved)
        rw [List.lookup_cons_self]
      · rw [List.lookup_cons, beq_false_of_ne hhead]
        exact ih.2 name ((List.mem_cons.mp hname).resolve_left hhead) resolved hresolved

/-- What a field of a schema hands over to has to come before the schema. -/
theorem needs_of_nested (hreferences : m.resolveReferences = .ok ())
    (hedges : m.schemaEdges = .ok edges) (hname : name ∈ m.registry.names)
    (hresolved : m.registry.linearise name = .ok resolved) (hmem : (field, chain) ∈ resolved.fields)
    {schema : String} (hschema : chain.nestedSchema? = some schema) :
    Dependencies.Needs edges name schema := by
  obtain ⟨hkeys, hlookup⟩ := schemaEdges_eq_ok hedges
  obtain ⟨found, hfound, hchains⟩ := (resolveReferences_eq_ok hreferences).1 name hname
  obtain rfl : found = resolved := Except.ok.inj (hfound.symm.trans hresolved)
  refine ⟨⟨_, hlookup name hname found hfound, List.mem_filterMap.mpr ⟨_, hmem, hschema⟩⟩, ?_⟩
  rw [hkeys]
  exact (resolveChain_eq_ok (hchains field chain hmem)).1 schema hschema

end Module

/-! ## programs -/

/-- The name, where it refers to a schema from the given place, has its target: an earlier place at
which the parser of that schema stands. -/
def Program.Earlier (p : Program) (i : Nat) (name : String) (target : Option Nat) : Prop :=
  ∃ j < i, target = some j ∧ (p.parserAt? j).map Parser.name = some name

/-- The name is that of a declared shape, whose documents are arrays or not. -/
def Module.HasShape (m : Module) (name : String) (isArray : Bool) : Prop :=
  ∃ shape ∈ m.shapes, shape.name = name ∧ shape.isArray = isArray

/-- A program in which all references are linked and none goes backwards. -/
structure Program.Linked (m : Module) (p : Program) : Prop where
  /-- Parsers and types of results stand in the same order. -/
  aligned : p.resultTypes.map ResultType.name = p.parsers.map Parser.name
  declared : (p.parsers.map Parser.name).Perm m.registry.names
  nested_step : ∀ i parser, p.parserAt? i = some parser → ∀ steps ∈ parser.bodies, ∀ step ∈ steps,
    ∀ schema target, step.operation = .nested schema target → p.Earlier i schema target
  nested_type : ∀ i type, p.resultTypes[i]? = some type → ∀ field ∈ type.shape.fields,
    ∀ reference, field.nested = some reference → p.Earlier i reference.name reference.target
  shape_step : ∀ parser ∈ p.parsers, ∀ steps ∈ parser.bodies, ∀ step ∈ steps,
    ∀ shape start isArray, step.operation = .jsonify shape start isArray → m.HasShape shape isArray
  shape_type : ∀ type ∈ p.resultTypes, ∀ field ∈ type.shape.fields,
    ∀ reference, field.shape = some reference → m.HasShape reference.name reference.isArray
  /-- Shapes refer to shapes in front of them. -/
  shape_shape : ∀ (i : Nat) (shape : JsonShape), p.shapes[i]? = some shape →
    ∀ name ∈ shape.references, ∃ j < i, p.shapes[j]?.map JsonShape.name = some name

namespace Module

variable {m : Module} {o : Options} {p : Program} {order shapeOrder : List String} {name : String}
  {parser : Parser}

/-- A shape that there is has its own kind. -/
theorem hasShape_of_isSome (h : (m.shapes.get? name).isSome = true) :
    m.HasShape name (m.shapes.isArray name) := by
  obtain ⟨shape, hshape⟩ := Option.isSome_iff_exists.mp h
  refine ⟨shape, List.mem_of_find?_eq_some hshape, by simpa using List.find?_some hshape, ?_⟩
  rw [Shapes.isArray, hshape]
  rfl

/-- The functions of a parser are lowered fields of its schema. -/
theorem exists_of_mem_bodies [Libraries]
    (h : m.linkedParser o (m.registry.mapSteps o.rewrite) order name = .ok parser)
    {steps : List Step} (hsteps : steps ∈ parser.bodies) :
    ∃ resolved field chain returns, m.registry.linearise name = .ok resolved ∧
      (field, chain) ∈ resolved.fields ∧
      steps = (m.linkBody order (lowerChain (chain.map o.rewrite) returns)).steps := by
  obtain ⟨schema, resolved, -, hresolved, -, -, hmembers⟩ := linkedParser_eq_ok h
  obtain ⟨member, hmember, hbody⟩ := List.mem_filterMap.mp hsteps
  rw [hmembers] at hmember
  cases member with
  | init name accepts => contradiction
  | start kind calls => contradiction
  | hook hook body =>
      cases hbody
      obtain ⟨-, chain, hchain, rfl⟩ := mem_hook_iff.mp hmember
      exact ⟨resolved, hook.name, chain, _, hresolved, Resolved.mem_fields_of_hook? hchain, rfl⟩
  | field field body =>
      cases hbody
      obtain ⟨-, chain, hchain, rfl⟩ := mem_field_iff.mp hmember
      exact ⟨resolved, field, chain, _, hresolved, List.mem_of_mem_filter hchain, rfl⟩

end Module

theorem ResultShape.fields_mapFields {g : FieldType → FieldType} (shape : ResultShape) :
    (shape.mapFields g).fields = shape.fields.map g := by
  cases shape <;> rfl

section Types

variable {m : Module} {r : Registry} {f : Step → Step} {shapes : Shapes} {kind : SchemaKind}
  {resolved : Resolved} {field : FieldType} {name : String} {chain : Chain}

/-- The type of a field refers to what the chain refers to, with the kind of the shape. -/
structure FieldType.RefersAs (field : FieldType) (shapes : Shapes) (chain : Chain) : Prop where
  nested : ∀ reference, field.nested = some reference → chain.nestedSchema? = some reference.name
  shape : ∀ reference, field.shape = some reference →
    chain.shape? = some reference.name ∧ reference.isArray = shapes.isArray reference.name

/-- The type of a field refers as its chain does, whatever is rewritten in the steps. -/
theorem fieldType_refersAs (hf : Step.Rewrites f) :
    (r.fieldType shapes name (chain.map f)).RefersAs shapes chain := by
  constructor
  · intro reference hreference
    rw [Registry.fieldType, Chain.nestedSchema?_map hf] at hreference
    obtain ⟨schema, hschema, rfl⟩ := Option.map_eq_some_iff.mp hreference
    exact hschema
  · intro reference hreference
    rw [Registry.fieldType, Chain.shape?_map hf] at hreference
    obtain ⟨shape, hshape, rfl⟩ := Option.map_eq_some_iff.mp hreference
    exact ⟨hshape, rfl⟩

theorem hookType_refersAs (hf : Step.Rewrites f) {hook : Hook}
    (h : (resolved.hook? hook).isSome = true) :
    ∃ chain, (hook.name, chain) ∈ resolved.fields ∧
      (r.hookType shapes (resolved.mapSteps f) hook).RefersAs shapes chain := by
  obtain ⟨chain, hchain⟩ := Option.isSome_iff_exists.mp h
  refine ⟨chain, Resolved.mem_fields_of_hook? hchain, ?_⟩
  rw [Registry.hookType, Resolved.hook?_mapSteps, hchain]
  exact fieldType_refersAs hf

/-- The types of the fields of a result refer to what the fields of the schema refer to. -/
theorem resultShape_refersAs (hf : Step.Rewrites f)
    (hrequired : ∀ hook ∈ kind.requiredHooks, (resolved.hook? hook).isSome = true)
    (h : field ∈ (r.resultShape shapes kind (resolved.mapSteps f)).fields) :
    ∃ name chain, (name, chain) ∈ resolved.fields ∧ field.RefersAs shapes chain := by
  cases kind with
  | item | list | accUniqueList =>
      rw [Registry.resultShape, ResultShape.fields, Resolved.named_mapSteps, List.map_map] at h
      obtain ⟨⟨name, chain⟩, hmem, rfl⟩ := List.mem_map.mp h
      exact ⟨name, chain, List.mem_of_mem_filter hmem, fieldType_refersAs hf⟩
  | dict =>
      obtain ⟨chain, hmem, hrefers⟩ := hookType_refersAs hf (hrequired .value (by decide))
      exact ⟨_, chain, hmem, List.mem_singleton.mp h ▸ hrefers⟩
  | flatList =>
      obtain ⟨chain, hmem, hrefers⟩ := hookType_refersAs hf (hrequired .item (by decide))
      exact ⟨_, chain, hmem, List.mem_singleton.mp h ▸ hrefers⟩

/-- The result type of a schema is made of its resolved fields. -/
theorem resultType_eq_ok {type : ResultType}
    (h : (m.registry.mapSteps f).resultType shapes name = .ok type) :
    ∃ schema resolved, m.registry.get? name = some schema ∧
      m.registry.linearise name = .ok resolved ∧ type = ⟨name, schema.kind,
        (m.registry.mapSteps f).resultShape shapes schema.kind (resolved.mapSteps f)⟩ := by
  rw [Registry.resultType, bind_eq_ok] at h
  obtain ⟨s, hs, h⟩ := h
  rw [bind_eq_ok] at h
  obtain ⟨mapped, hmapped, h⟩ := h
  obtain ⟨schema, resolved, hschema, hresolved, rfl, rfl⟩ := Registry.exists_of_mapSteps hs hmapped
  exact ⟨schema, resolved, hschema, hresolved, (pure_eq_ok.mp h).symm⟩

end Types

namespace Module

variable {m : Module} {o : Options} {p : Program} {order shapeOrder : List String} {name : String}

/-- What the fields of a schema refer to is declared. -/
theorem hasShape_of_field (hreferences : m.resolveReferences = .ok ()) {resolved : Resolved}
    {field shape : String} {chain : Chain} (hname : name ∈ m.registry.names)
    (hresolved : m.registry.linearise name = .ok resolved) (hmem : (field, chain) ∈ resolved.fields)
    (hshape : chain.shape? = some shape) : m.HasShape shape (m.shapes.isArray shape) := by
  obtain ⟨found, hfound, hchains⟩ := (resolveReferences_eq_ok hreferences).1 name hname
  obtain rfl : found = resolved := Except.ok.inj (hfound.symm.trans hresolved)
  exact hasShape_of_isSome ((resolveChain_eq_ok (hchains field chain hmem)).2 shape hshape)

namespace Stages

variable [Libraries]

variable (h : Stages m o p order shapeOrder)

include h

/-- The parsers are in the order of the schemas, and so are the result types. -/
theorem parsers_names : p.parsers.map Parser.name = order := by
  refine map_eq_left h.parsers fun name parser hparser => ?_
  obtain ⟨_, _, _, _, hname, _⟩ := linkedParser_eq_ok hparser
  exact hname

theorem types_names : p.resultTypes.map ResultType.name = order := by
  refine map_eq_left h.types fun name type htype => ?_
  obtain ⟨plain, hplain, rfl⟩ := htype
  obtain ⟨_, _, _, _, rfl⟩ := resultType_eq_ok hplain
  rfl

/-- The order of the schemas is one of their references. -/
theorem exists_edges : ∃ edges, m.schemaEdges = .ok edges ∧ Dependencies.order edges = .ok order :=
  bind_eq_ok.mp h.ordered

/-- What a field of the schema at a place hands over to stands at an earlier place. -/
theorem earlier {i : Nat} {field schema : String} {chain : Chain} {resolved : Resolved}
    (hplace : order[i]? = some name) (hresolved : m.registry.linearise name = .ok resolved)
    (hmem : (field, chain) ∈ resolved.fields) (hschema : chain.nestedSchema? = some schema) :
    p.Earlier i schema (order.idxOf? schema) := by
  obtain ⟨edges, hedges, horder⟩ := h.exists_edges
  have hordered := (Dependencies.order_ordered horder).1
  have hname : name ∈ m.registry.names := by
    rw [← (schemaEdges_eq_ok hedges).1]
    exact hordered.mem_keys name (List.mem_of_getElem? hplace)
  have hneeds := needs_of_nested h.references hedges hname hresolved hmem hschema
  obtain ⟨j, hlt, hidx, hget⟩ := hordered.exists_earlier hplace hneeds
  refine ⟨j, hlt, hidx, ?_⟩
  rw [Program.parserAt?, ← List.getElem?_map, h.parsers_names]
  exact hget

/-- A reference in a function is that of a sound chain of the schema, linked. -/
theorem exists_origin {parser : Parser} {steps : List Step} {step : Step} (hdeclared : m.Declared)
    (hparser : parser ∈ p.parsers) (hsteps : steps ∈ parser.bodies) (hstep : step ∈ steps)
    (hreference : step.operation.isReference = true) :
    ∃ resolved field chain origin, parser.name ∈ m.registry.names ∧
      m.registry.linearise parser.name = .ok resolved ∧ (field, chain) ∈ resolved.fields ∧
      Chain.Sound chain ∧ origin ∈ chain ∧
      (m.linkStep order origin).operation = step.operation := by
  obtain ⟨name, -, hlinked⟩ := exists_left h.parsers hparser
  obtain ⟨schema, _, hschema, _, rfl, -⟩ := linkedParser_eq_ok hlinked
  obtain ⟨resolved, field, chain, returns, hresolved, hmem, rfl⟩ :=
    exists_of_mem_bodies hlinked hsteps
  obtain ⟨origin, horigin, hoperation⟩ := exists_of_mem_linkBody hstep hreference
  exact ⟨resolved, field, chain, origin, Registry.mem_names_of_get? hschema, hresolved, hmem,
    hdeclared.sound_of_linearise hresolved hmem, horigin, hoperation⟩

/-- A nested step refers to an earlier parser. -/
theorem nested_step (hdeclared : m.Declared) (i : Nat) (parser : Parser)
    (hparser : p.parserAt? i = some parser) (steps : List Step) (hsteps : steps ∈ parser.bodies)
    (step : Step) (hstep : step ∈ steps) (schema : String) (target : Option Nat)
    (hoperation : step.operation = .nested schema target) : p.Earlier i schema target := by
  obtain ⟨resolved, field, chain, origin, hname, hresolved, hmem, hsound, horigin, hlink⟩ :=
    h.exists_origin hdeclared (List.mem_of_getElem? hparser) hsteps hstep (by rw [hoperation]; rfl)
  obtain ⟨⟨unlinked, hnested⟩, rfl⟩ := linkStep_nested (hlink.trans hoperation)
  have hplace : order[i]? = some parser.name := by
    rw [← h.parsers_names, List.getElem?_map, ← Program.parserAt?, hparser]
    rfl
  exact h.earlier hplace hresolved hmem (hsound.nestedSchema?_eq horigin hnested)

/-- A step for a shape refers to a shape of the module. -/
theorem shape_step (hdeclared : m.Declared) (parser : Parser) (hparser : parser ∈ p.parsers)
    (steps : List Step) (hsteps : steps ∈ parser.bodies) (step : Step) (hstep : step ∈ steps)
    (shape start : String) (isArray : Bool)
    (hoperation : step.operation = .jsonify shape start isArray) : m.HasShape shape isArray := by
  obtain ⟨resolved, field, chain, origin, hname, hresolved, hmem, hsound, horigin, hlink⟩ :=
    h.exists_origin hdeclared hparser hsteps hstep (by rw [hoperation]; rfl)
  obtain ⟨⟨unlinked, hjsonify⟩, rfl⟩ := linkStep_jsonify (hlink.trans hoperation)
  exact hasShape_of_field h.references hname hresolved hmem (hsound.shape?_eq horigin hjsonify)

/-- The type of a field refers to what a chain of the schema refers to, linked. -/
theorem exists_field {type : ResultType} {field : FieldType} (htype : type ∈ p.resultTypes)
    (hfield : field ∈ type.shape.fields) :
    ∃ resolved name chain plain, type.name ∈ m.registry.names ∧
      m.registry.linearise type.name = .ok resolved ∧ (name, chain) ∈ resolved.fields ∧
      plain.RefersAs m.shapes chain ∧ field = linkField order plain := by
  obtain ⟨name, -, plainType, hplain, rfl⟩ := exists_left h.types htype
  obtain ⟨schema, resolved, hschema, hresolved, rfl⟩ := resultType_eq_ok hplain
  obtain ⟨report, hcheck, herrors⟩ := h.checked
  have hname := Registry.mem_names_of_get? hschema
  obtain ⟨s, r, hs, hr, hchecked⟩ := Registry.checked_of_check hcheck herrors hname
  obtain rfl : schema = s := Option.some.inj (hschema.symm.trans hs)
  obtain rfl : resolved = r := Except.ok.inj (hresolved.symm.trans hr)
  rw [linkType, ResultShape.fields_mapFields] at hfield
  obtain ⟨plain, hmem, rfl⟩ := List.mem_map.mp hfield
  obtain ⟨field, chain, hchain, hrefers⟩ :=
    resultShape_refersAs o.rewrites hchecked.required hmem
  exact ⟨resolved, field, chain, plain, hname, hresolved, hchain, hrefers, rfl⟩

/-- The type of a nested field refers to an earlier result type. -/
theorem nested_type (i : Nat) (type : ResultType) (htype : p.resultTypes[i]? = some type)
    (field : FieldType) (hfield : field ∈ type.shape.fields) (reference : TypeReference)
    (hreference : field.nested = some reference) :
    p.Earlier i reference.name reference.target := by
  obtain ⟨resolved, name, chain, plain, -, hresolved, hmem, hrefers, rfl⟩ :=
    h.exists_field (List.mem_of_getElem? htype) hfield
  obtain ⟨unlinked, hunlinked, rfl⟩ := Option.map_eq_some_iff.mp hreference
  have hplace : order[i]? = some type.name := by
    rw [← h.types_names, List.getElem?_map, htype]
    rfl
  exact h.earlier hplace hresolved hmem (hrefers.nested unlinked hunlinked)

/-- The type of a field of JSON refers to a shape of the module. -/
theorem shape_type (type : ResultType) (htype : type ∈ p.resultTypes) (field : FieldType)
    (hfield : field ∈ type.shape.fields) (reference : TypeReference)
    (hreference : field.shape = some reference) :
    m.HasShape reference.name reference.isArray := by
  obtain ⟨resolved, name, chain, plain, hname, hresolved, hmem, hrefers, rfl⟩ :=
    h.exists_field htype hfield
  obtain ⟨hshape, hisArray⟩ := hrefers.shape reference hreference
  rw [hisArray]
  exact hasShape_of_field h.references hname hresolved hmem hshape

/-- The shapes of the program are those of the names in order. -/
theorem shapes_forall₂ :
    List.Forall₂ (fun name shape => m.shapes.get? name = some shape) shapeOrder p.shapes := by
  have hordered := (Dependencies.order_ordered h.shapesOrdered).1
  rw [h.shapes]
  refine forall₂_filterMap fun name hname => ?_
  have hkey := hordered.mem_keys name hname
  rw [Dependencies.keys, List.map_map] at hkey
  exact isSome_find?_iff.mpr hkey

theorem shapes_names : p.shapes.map JsonShape.name = shapeOrder :=
  map_eq_left h.shapes_forall₂ fun _ _ hshape => by simpa using List.find?_some hshape

/-- A shape refers to earlier shapes. -/
theorem shape_shape (i : Nat) (shape : JsonShape) (hshape : p.shapes[i]? = some shape)
    (other : String) (hother : other ∈ shape.references) :
    ∃ j < i, p.shapes[j]?.map JsonShape.name = some other := by
  have hplace : shapeOrder[i]? = some shape.name := by
    rw [← h.shapes_names, List.getElem?_map, hshape]
    rfl
  obtain ⟨name, -, hget⟩ := exists_left h.shapes_forall₂ (List.mem_of_getElem? hshape)
  have hname : shape.name = name := by simpa using List.find?_some hget
  have hmem := List.mem_of_find?_eq_some hget
  have hresolved := (resolveReferences_eq_ok h.references).2 shape hmem other hother
  have hneeds : Dependencies.Needs (m.shapes.map fun shape => (shape.name, shape.references))
      shape.name other := by
    refine ⟨⟨shape.references, ?_, hother⟩, ?_⟩
    · rw [lookup_map_find?, hname]
      exact congrArg (Option.map JsonShape.references) hget
    · rw [Dependencies.keys, List.map_map]
      exact isSome_find?_iff.mp hresolved
  obtain ⟨j, hlt, -, hget⟩ :=
    (Dependencies.order_ordered h.shapesOrdered).1.exists_earlier hplace hneeds
  refine ⟨j, hlt, ?_⟩
  rw [← List.getElem?_map, h.shapes_names]
  exact hget

end Stages

/-- **A program made from declarations is linked, without references backwards.** -/
theorem parse_linked [Libraries] (source : String) (m : Module) (o : Options) (a : Assembled)
    (hparse : Module.parse source = .ok m) (hassemble : m.assemble o = .ok a) :
    a.program.Linked m := by
  have hdeclared := parse_declared hparse
  obtain ⟨order, shapeOrder, h⟩ := assemble_stages hassemble
  obtain ⟨edges, hedges, horder⟩ := h.exists_edges
  have hkeys := (schemaEdges_eq_ok hedges).1
  have hperm := Dependencies.order_perm (hkeys ▸ hdeclared.schemas_nodup) horder
  exact {
    aligned := h.types_names.trans h.parsers_names.symm
    declared := by rwa [h.parsers_names, ← hkeys]
    nested_step := h.nested_step hdeclared
    nested_type := h.nested_type
    shape_step := h.shape_step hdeclared
    shape_type := h.shape_type
    shape_shape := h.shape_shape }

/-- Declarations that refer to what is declared further down. -/
def shelf : String :=
  "json Meta array \x7b tag: Tag, tags: list[Tag] \x7d json Tag \x7b label: str \x7d " ++
  "schema Shelf : list \x7b __SPLIT_DOC__ = D().css_all(\"li\") " ++
  "book = N().css(\"b\").sub_parser(Book) \x7d " ++
  "schema Book : item \x7b title = D().css(\"h2::text\") " ++
  "meta = D().css(\"script::text\").jsonify(Meta) \x7d"

theorem parse_linked_shelf :
    ∃ m a, Module.parse shelf = .ok m ∧ m.assemble {} = .ok a ∧
      m.registry.names = ["Shelf", "Book"] ∧
      a.program.parsers.map Parser.name = ["Book", "Shelf"] ∧
      a.program.shapes.map JsonShape.name = ["Tag", "Meta"] ∧ a.program.Linked m := by
  have hnames : (match Module.parse shelf with
      | .ok m =>
          match m.assemble {} with
          | .ok a => some (m.registry.names, a.program.parsers.map Parser.name,
              a.program.shapes.map JsonShape.name)
          | .error _ => none
      | .error _ => none) = some (["Shelf", "Book"], ["Book", "Shelf"], ["Tag", "Meta"]) := by
    decide +kernel
  cases hparse : Module.parse shelf with
  | error e => simp [hparse] at hnames
  | ok m =>
      cases hassemble : m.assemble {} with
      | error e => simp [hparse, hassemble] at hnames
      | ok a =>
          simp only [hparse, hassemble, Option.some.injEq, Prod.mk.injEq] at hnames
          exact ⟨m, a, rfl, hassemble, hnames.1, hnames.2.1, hnames.2.2,
            parse_linked shelf m {} a hparse hassemble⟩

end Module

end Extractor
