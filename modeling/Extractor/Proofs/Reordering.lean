import Extractor.Libraries.Standard
import Extractor.Proofs.Fields
import Mathlib.Data.List.Perm.Basic

/-!
# Extractor.Proofs.Reordering

The order of declarations does not matter. All that is asked of schemas and
shapes is asked by name (`Registry.Same`, `Shapes.Same`), so each schema is
resolved, checked, sketched and lowered in the same way wherever it is declared,
and only the places of parsers differ (`Module.assemble_reordered`).
-/

namespace Extractor

open Outcome

/-! ## lists in another order -/

namespace Reordering

variable {ε α β : Type} {key : α → String} {l l' : List α} {name : String}

/-- Where names are distinct, what is found under a name is what has it. -/
theorem find?_eq_some_iff {x : α} (h : (l.map key).Nodup) :
    l.find? (key · == name) = some x ↔ x ∈ l ∧ key x = name := by
  constructor
  · intro hfind
    exact ⟨List.mem_of_find?_eq_some hfind, by simpa using List.find?_some hfind⟩
  · rintro ⟨hmem, rfl⟩
    obtain ⟨y, hy⟩ := Option.isSome_iff_exists.mp
      (isSome_find?_iff.mpr (List.mem_map.mpr ⟨x, hmem, rfl⟩))
    have hkey : key y = key x := by simpa using List.find?_some hy
    rw [hy, List.inj_on_of_nodup_map h (List.mem_of_find?_eq_some hy) hmem hkey]

/-- Among distinct keys the order does not matter for what is found. -/
theorem find?_eq_of_perm (h : (l.map key).Nodup) (hperm : l'.Perm l) :
    l'.find? (key · == name) = l.find? (key · == name) := by
  have h' : (l'.map key).Nodup := (hperm.map key).nodup_iff.mpr h
  ext x
  rw [find?_eq_some_iff h, find?_eq_some_iff h', hperm.mem_iff]

/-- What is found under a name is changed as all is, wherever it stands. -/
theorem find?_eq_of_perm_map {g : α → α} (h : (l.map key).Nodup) (hperm : l'.Perm (l.map g))
    (hkey : ∀ x, key (g x) = key x) :
    l'.find? (key · == name) = (l.find? (key · == name)).map g := by
  have hnodup : ((l.map g).map key).Nodup := by
    rw [List.map_map]
    exact (List.map_congr_left fun x _ => hkey x) ▸ h
  have hcomp : (key · == name) ∘ g = (key · == name) := funext fun x => by simp [hkey]
  rw [find?_eq_of_perm hnodup hperm, List.find?_map, hcomp]

/-- A loop that collects gives the same results in another order. -/
theorem mapM_perm {f : α → Except ε β} {r : List β} (hperm : l'.Perm l) (h : l.mapM f = .ok r) :
    ∃ r', l'.mapM f = .ok r' ∧ r'.Perm r := by
  obtain ⟨r', hr', hperm'⟩ := List.perm_comp_forall₂ hperm (mapM_eq_ok.mp h)
  exact ⟨r', mapM_eq_ok.mpr hr', hperm'⟩

/-- A loop that collects what another one does, changed, gives its results changed. -/
theorem mapM_perm_map {γ : Type} {f : α → Except ε β} {f' : α → Except ε γ} {g : β → γ}
    {r : List β} (hperm : l'.Perm l) (hf : ∀ x, f' x = (f x).map g) (h : l.mapM f = .ok r) :
    ∃ r', l'.mapM f' = .ok r' ∧ r'.Perm (r.map g) := by
  obtain ⟨r', hr', hperm'⟩ := mapM_perm hperm h
  refine ⟨r'.map g, mapM_eq_ok.mpr ?_, hperm'.map g⟩
  rw [List.forall₂_map_right_iff]
  refine (mapM_eq_ok.mp hr').imp fun x y hxy => ?_
  rw [hf, hxy]
  rfl

theorem forM_perm {f : α → Except ε Unit} (hperm : l'.Perm l) (h : l.forM f = .ok ()) :
    l'.forM f = .ok () :=
  forM_eq_ok.mpr fun x hx => forM_eq_ok.mp h x (hperm.mem_iff.mp hx)

end Reordering

namespace Dependencies

open Reordering

variable {edges edges' : Edges} {result : List String}

/-- Among distinct names the order does not matter for what is looked up. -/
theorem lookup_eq_of_perm (hnodup : (keys edges).Nodup) (hperm : edges'.Perm edges)
    (name : String) : edges'.lookup name = edges.lookup name := by
  have hfind : ∀ l : Edges, l.lookup name = (l.find? (Prod.fst · == name)).map Prod.snd :=
    fun l => by rw [← lookup_map_find?, List.map_id']
  rw [hfind, hfind, find?_eq_of_perm hnodup hperm]

/-- Entries in another order can be put in order as well, and with the same names. -/
theorem exists_order_perm (hnodup : (keys edges).Nodup) (hperm : edges'.Perm edges)
    (h : order edges = .ok result) :
    ∃ result', order edges' = .ok result' ∧ result'.Perm result := by
  have hkeys : (keys edges').Perm (keys edges) := hperm.map Prod.fst
  have hneeds : Needs edges' = Needs edges := by
    funext a b
    simp only [Needs, Lists, lookup_eq_of_perm hnodup hperm, hkeys.mem_iff]
  have hacyclic : Acyclic edges' := by
    rw [Acyclic, hneeds]
    exact exists_order_iff.mp ⟨result, h⟩
  obtain ⟨result', h'⟩ := exists_order_iff.mpr hacyclic
  exact ⟨result', h', (order_perm (hkeys.nodup_iff.mpr hnodup) h').trans
    (hkeys.trans (order_perm hnodup h).symm)⟩

end Dependencies

/-! ## the same names -/

/-- Shapes that are the same under each name. -/
structure Shapes.Same (shapes shapes' : Shapes) : Prop where
  get? : ∀ name, shapes'.get? name = shapes.get? name
  length : List.length shapes' = List.length shapes

/-- Schemas that are the same under each name. -/
structure Registry.Same (r r' : Registry) : Prop where
  get? : ∀ name, r'.get? name = r.get? name
  length : r'.schemas.length = r.schemas.length

section Same

variable {r r' : Registry} {shapes shapes' : Shapes} {name : String}

namespace Shapes.Same

variable (h : Same shapes shapes')

include h

/-- Shapes with the same names are the same in everything that asks for them by name. -/
theorem isArray : shapes'.isArray = shapes.isArray := by
  funext name
  rw [Shapes.isArray, Shapes.isArray, h.get?]

theorem object (fuel : Nat) (path : List String) (name : String) :
    Shapes.object shapes' fuel path name = Shapes.object shapes fuel path name := by
  induction fuel generalizing path name with
  | zero => rfl
  | succ fuel ih => simp only [Shapes.object, h.get?, ih]

theorem signature : shapes'.signature = shapes.signature := by
  funext name
  simp only [Shapes.signature, h.length, h.object, h.isArray]

end Shapes.Same

namespace Registry.Same

/-- A change of steps leaves two registries the same. -/
theorem mapSteps (h : Same r r') (f : Step → Step) : Same (r.mapSteps f) (r'.mapSteps f) where
  get? name := by rw [get?_mapSteps, get?_mapSteps, h.get?]
  length := by simp [Registry.mapSteps, h.length]

variable (h : Same r r')

include h

/-- What the registry finds by name does not depend on the order, one lemma for each function. -/
theorem resolve : r'.resolve = r.resolve := by
  funext name referrer
  rw [Registry.resolve, Registry.resolve, h.get?]

theorem visit (kind : SchemaKind) (fuel : Nat) (done : List Schema) (schema : Schema) :
    r'.visit kind fuel done schema = r.visit kind fuel done schema := by
  induction fuel generalizing done schema with
  | zero => rfl
  | succ fuel ih => simp only [Registry.visit, h.resolve, ih]

theorem linearise : r'.linearise = r.linearise := by
  funext name
  simp only [Registry.linearise, Registry.lineage, h.resolve, h.visit, h.length]

/-- A sketch goes down by names only. -/
theorem sketch (hshapes : Shapes.Same shapes shapes') (fuel : Nat) (path : List String)
    (name : String) : r'.sketch shapes' fuel path name = r.sketch shapes fuel path name := by
  induction fuel generalizing path name with
  | zero => rfl
  | succ fuel ih =>
      have hchain : chainSketch shapes' = chainSketch shapes := by
        funext nested chain
        simp only [chainSketch, hshapes.signature]
      have hkind : kindSketch shapes' = kindSketch shapes := by
        funext nested resolved kind
        cases kind <;> simp only [kindSketch, recordSketch, hookSketch, hchain]
      have hih : r'.sketch shapes' fuel (name :: path) = r.sketch shapes fuel (name :: path) :=
        funext fun other => ih _ other
      simp only [Registry.sketch, h.resolve, h.linearise, hkind, hih]

theorem docstring (hshapes : Shapes.Same shapes shapes') :
    r'.docstring shapes' = r.docstring shapes := by
  funext name text
  simp only [Registry.docstring, Registry.signature, h.sketch hshapes, h.length]

theorem resultType (hshapes : Shapes.Same shapes shapes') :
    r'.resultType shapes' = r.resultType shapes := by
  have hfield : r'.fieldType shapes' = r.fieldType shapes := by
    funext name chain
    simp only [fieldType, h.get?, hshapes.isArray]
  have hshape : r'.resultShape shapes' = r.resultShape shapes := by
    funext kind resolved
    cases kind <;> simp only [resultShape, hookType, hfield]
  funext name
  simp only [Registry.resultType, h.resolve, h.linearise, hshape]

theorem parser : r'.parser = r.parser := by
  funext name
  simp only [Registry.parser, h.resolve, h.linearise]

theorem checkSchema [Libraries] : r'.checkSchema = r.checkSchema := by
  have hchain : r'.chainWarnings = r.chainWarnings := by
    funext schema field chain
    simp only [chainWarnings, unreachable?, h.linearise]
  have hmember : r'.memberReport = r.memberReport := by
    funext schema field chain causes
    simp only [memberReport, hchain]
  have hreport : r'.report = r.report := by
    funext schema kind resolved
    simp only [report, hookReport, fieldReport, hmember]
  funext name
  simp only [Registry.checkSchema, h.resolve, h.linearise, hreport]

end Registry.Same

end Same

/-! ## moved places -/

/-- The operation with the place that it hands over to moved. -/
def Operation.retarget (place : Nat → Nat) : Operation → Operation
  | nested schema target => nested schema (target.map place)
  | operation => operation

/-- The step with the place that it hands over to moved. -/
def Step.retarget (place : Nat → Nat) (step : Step) : Step :=
  { step with operation := step.operation.retarget place }

/-- The function with the places that it hands over to moved. -/
def FunctionBody.retarget (place : Nat → Nat) (body : FunctionBody) : FunctionBody :=
  { body with steps := body.steps.map (Step.retarget place) }

/-- The member with the places that it hands over to moved. -/
def ParserMember.retarget (place : Nat → Nat) : ParserMember → ParserMember
  | hook h body => hook h (body.retarget place)
  | field name body => field name (body.retarget place)
  | other => other

/-- The parser with the places that it hands over to moved. -/
def Parser.retarget (place : Nat → Nat) (parser : Parser) : Parser :=
  { parser with members := parser.members.map (ParserMember.retarget place) }

/-- The field with the place that it refers to moved. -/
def FieldType.retarget (place : Nat → Nat) (field : FieldType) : FieldType :=
  { field with nested := field.nested.map fun r => { r with target := r.target.map place } }

/-- The type of a result with the places that it refers to moved. -/
def ResultType.retarget (place : Nat → Nat) (type : ResultType) : ResultType :=
  { type with shape := type.shape.mapFields (FieldType.retarget place) }

/-- The shape of a name. -/
def Program.shape? (p : Program) (name : String) : Option JsonShape :=
  p.shapes.find? (·.name == name)

/-- The second program is the first one with its parts in another order: what stands at a place is
moved to another place, and all that refers to it goes there. -/
structure Program.Moved (place : Nat → Nat) (p q : Program) : Prop where
  docstring : q.docstring? = p.docstring?
  imports : q.imports? = p.imports?
  /-- The places lead to parsers of the same name. -/
  places : ∀ i, (q.parserAt? (place i)).map Parser.name = (p.parserAt? i).map Parser.name
  shapes : q.shapes.Perm p.shapes
  resultTypes : q.resultTypes.Perm (p.resultTypes.map (ResultType.retarget place))
  parsers : q.parsers.Perm (p.parsers.map (Parser.retarget place))
  shape?_eq : ∀ name, q.shape? name = p.shape? name
  resultType?_eq : ∀ name, q.resultType? name = (p.resultType? name).map (ResultType.retarget place)
  parser?_eq : ∀ name, q.parser? name = (p.parser? name).map (Parser.retarget place)

section Places

variable {order order' : List String} {m m' : Module}

/-- Where the name at a place stands in another order. -/
def placeIn (order order' : List String) (i : Nat) : Nat :=
  match order[i]? with
  | some name => order'.idxOf name
  | none => i

/-- The place of a schema in the other order holds the same schema. -/
theorem getElem?_placeIn (hperm : order'.Perm order) (i : Nat) :
    order'[placeIn order order' i]? = order[i]? := by
  unfold placeIn
  split
  · next name hname =>
      have hmem : name ∈ order' := hperm.mem_iff.mpr (List.mem_of_getElem? hname)
      have hlt := List.idxOf_lt_length_of_mem hmem
      rw [hname, List.getElem?_eq_getElem hlt, List.getElem_idxOf hlt]
  · next hnone =>
      rw [hnone]
      exact List.getElem?_eq_none (hperm.length_eq ▸ List.getElem?_eq_none_iff.mp hnone)

/-- A name is found in the other order at its moved place. -/
theorem idxOf?_placeIn (hperm : order'.Perm order) (name : String) :
    order'.idxOf? name = (order.idxOf? name).map (placeIn order order') := by
  have hidx : ∀ {l : List String}, name ∈ l → l.idxOf? name = some (l.idxOf name) := by
    intro l hmem
    obtain ⟨j, hj⟩ := Option.isSome_iff_exists.mp (List.isSome_idxOf?.mpr hmem)
    rw [List.idxOf_eq_getD_idxOf?, hj]
    rfl
  by_cases hmem : name ∈ order
  · have hlt := List.idxOf_lt_length_of_mem hmem
    have hget : order[order.idxOf name]? = some name := by
      rw [List.getElem?_eq_getElem hlt, List.getElem_idxOf hlt]
    rw [hidx hmem, hidx (hperm.mem_iff.mpr hmem), Option.map_some, placeIn, hget]
  · rw [List.idxOf?_eq_none_iff.mpr hmem, List.idxOf?_eq_none_iff.mpr (mt hperm.mem_iff.mp hmem)]
    rfl

variable (hperm : order'.Perm order)

include hperm

/-- What is linked in another order goes to the places moved. -/
theorem linkType_placeIn (type : ResultType) :
    Module.linkType order' type =
      (Module.linkType order type).retarget (placeIn order order') := by
  have hfield : Module.linkField order' =
      FieldType.retarget (placeIn order order') ∘ Module.linkField order := by
    funext field
    simp only [Module.linkField, FieldType.retarget, Function.comp_apply, Option.map_map,
      idxOf?_placeIn hperm]
    rfl
  rw [Module.linkType, Module.linkType, ResultType.retarget, hfield]
  cases type.shape <;> simp [ResultShape.mapFields]

/-- A member that is linked in the other order has its places moved. -/
theorem linkMember_placeIn (hshapes : Shapes.Same m.shapes m'.shapes) (member : ParserMember) :
    m'.linkMember order' member =
      (m.linkMember order member).retarget (placeIn order order') := by
  have hstep : m'.linkStep order' = Step.retarget (placeIn order order') ∘ m.linkStep order := by
    funext step
    obtain ⟨operation, accepts, returns, slot⟩ := step
    cases operation
    case nested schema target =>
      simp [Module.linkStep, Step.retarget, Operation.retarget, idxOf?_placeIn hperm]
    case jsonify shape start isArray =>
      simp [Module.linkStep, Step.retarget, Operation.retarget, hshapes.isArray]
    all_goals rfl
  have hbody : ∀ body, m'.linkBody order' body =
      (m.linkBody order body).retarget (placeIn order order') := by
    intro body
    rw [Module.linkBody, Module.linkBody, FunctionBody.retarget, hstep, List.map_map]
  cases member with
  | init | start => rfl
  | hook h body => exact congrArg (ParserMember.hook h) (hbody body)
  | field name body => exact congrArg (ParserMember.field name) (hbody body)

end Places

/-! ## assembling in another order -/

namespace Module

variable {m m' : Module} {o : Options} {a : Assembled}

section Parts

variable (shapes : List JsonShape) (types : List ResultType) (parsers : List Parser)

/-- The docstring of a program is that of its module. -/
theorem docstring?_programOf :
    (m.programOf o shapes types parsers).docstring? = Program.docstring? ⟨m.docstringNodes o⟩ := by
  have hnone : ∀ {α : Type} (node : α → ProgramNode) (l : List α),
      (∀ x, Program.docstring? ⟨[node x]⟩ = none) → Program.docstring? ⟨l.map node⟩ = none := by
    intro α node l hnode
    refine List.findSome?_eq_none_iff.mpr fun other hother => ?_
    obtain ⟨x, -, rfl⟩ := List.mem_map.mp hother
    simpa [Program.docstring?] using hnode x
  have hshapes := hnone .shape shapes fun _ => rfl
  have htypes := hnone .resultType types fun _ => rfl
  have hparsers := hnone .parser parsers fun _ => rfl
  simp only [Program.docstring?] at hshapes htypes hparsers ⊢
  simp [programOf, List.findSome?_append, hshapes, htypes, hparsers]

/-- The imports of a program are what its parsers and shapes need. -/
theorem imports?_programOf :
    (m.programOf o shapes types parsers).imports? =
      some (requirements parsers (!shapes.isEmpty)) := by
  have hnone : Program.imports? ⟨m.docstringNodes o⟩ = none := by
    refine List.findSome?_eq_none_iff.mpr fun node hnode => ?_
    obtain ⟨text, rfl⟩ := mem_docstringNodes hnode
    rfl
  rw [Program.imports?] at hnone
  simp [Program.imports?, programOf, List.findSome?_append, hnone]

end Parts

/-- What parsers need around them depends neither on their order nor on the places they go to. -/
theorem requirements_eq_of_perm {place : Nat → Nat} {parsers parsers' : List Parser}
    (hperm : parsers'.Perm (parsers.map (Parser.retarget place))) (hasShapes : Bool) :
    requirements parsers' hasShapes = requirements parsers hasShapes := by
  have hbodies : ∀ parser : Parser, (parser.retarget place).bodies.flatten =
      parser.bodies.flatten.map (Step.retarget place) := by
    intro parser
    rw [List.map_flatten, Parser.bodies, Parser.bodies, Parser.retarget, List.filterMap_map,
      List.map_filterMap]
    refine congrArg List.flatten (List.filterMap_congr fun member _ => ?_)
    cases member <;> rfl
  have hsteps : (parsers'.flatMap fun p => p.bodies.flatten).Perm
      ((parsers.flatMap fun p => p.bodies.flatten).map (Step.retarget place)) := by
    have hflat := hperm.flatMap_right fun p => p.bodies.flatten
    simp only [List.flatMap_map, hbodies] at hflat
    rw [List.map_flatMap]
    exact hflat
  have hpatterns : ∀ step : Step, (step.retarget place).operation.patterns =
      step.operation.patterns := by
    rintro ⟨operation, _, _, _⟩
    cases operation <;> rfl
  have hreads : ∀ step : Step, readsJson (step.retarget place) = readsJson step := by
    rintro ⟨operation, _, _, _⟩
    cases operation <;> rfl
  have hempty : parsers'.isEmpty = parsers.isEmpty := by rw [hperm.isEmpty_eq, List.isEmpty_map]
  simp only [requirements, hsteps.any_eq, List.any_map, Function.comp_def, hpatterns, hreads,
    hempty]

/-- A program with moved places and the same parts in another order is moved. -/
theorem moved_programOf {place : Nat → Nat} {shapes shapes' : List JsonShape}
    {types types' : List ResultType} {parsers parsers' : List Parser}
    (hdocstring : m'.docstring = m.docstring)
    (hplaces : ∀ i, parsers'[place i]?.map Parser.name = parsers[i]?.map Parser.name)
    (hshapes : shapes'.Perm shapes) (hshapes_nodup : (shapes.map JsonShape.name).Nodup)
    (htypes : types'.Perm (types.map (ResultType.retarget place)))
    (htypes_nodup : (types.map ResultType.name).Nodup)
    (hparsers : parsers'.Perm (parsers.map (Parser.retarget place)))
    (hparsers_nodup : (parsers.map Parser.name).Nodup) :
    (m.programOf o shapes types parsers).Moved place (m'.programOf o shapes' types' parsers') := by
  refine ⟨?_, ?_, fun i => ?_, ?_, ?_, ?_, fun name => ?_, fun name => ?_, fun name => ?_⟩
  · rw [docstring?_programOf, docstring?_programOf, docstringNodes, docstringNodes, hdocstring]
  · rw [imports?_programOf, imports?_programOf, requirements_eq_of_perm hparsers,
      hshapes.isEmpty_eq]
  · rw [Program.parserAt?, Program.parserAt?, parsers_programOf, parsers_programOf, hplaces]
  · rwa [shapes_programOf, shapes_programOf]
  · rwa [resultTypes_programOf, resultTypes_programOf]
  · rwa [parsers_programOf, parsers_programOf]
  · rw [Program.shape?, Program.shape?, shapes_programOf, shapes_programOf,
      Reordering.find?_eq_of_perm hshapes_nodup hshapes]
  · rw [Program.resultType?, Program.resultType?, resultTypes_programOf, resultTypes_programOf,
      Reordering.find?_eq_of_perm_map htypes_nodup htypes fun _ => rfl]
  · rw [Program.parser?, Program.parser?, parsers_programOf, parsers_programOf,
      Reordering.find?_eq_of_perm_map hparsers_nodup hparsers fun _ => rfl]

/-- The second module has the declarations of the first one in another order. Their names are
distinct, as a declaration is only added under a new name. -/
structure Reordered (m m' : Module) : Prop where
  docstring : m'.docstring = m.docstring
  schemas : m'.registry.schemas.Perm m.registry.schemas
  shapes : m'.shapes.Perm m.shapes
  schemas_nodup : m.registry.names.Nodup
  shapes_nodup : (m.shapes.map JsonShape.name).Nodup

namespace Reordered

open Reordering

variable (h : Reordered m m')

include h

theorem names : m'.registry.names.Perm m.registry.names := h.schemas.map Schema.name

/-- A conversion that does not overflow in one order does not in another. -/
theorem lowered [Libraries] {registry : Registry} (hlowered : m.lowered o = .ok registry) :
    m'.lowered o = .ok (m'.registry.mapSteps o.rewrite) := by
  have hany : ∀ c : Conversion,
      m'.registry.schemas.any c.overflowsIn = m.registry.schemas.any c.overflowsIn :=
    fun c => h.schemas.any_eq
  obtain ⟨registry', hlowered'⟩ : ∃ registry', m'.lowered o = .ok registry' := by
    rw [Module.lowered] at hlowered ⊢
    split
    · next c hc =>
        rw [hc, map_eq_ok] at hlowered
        obtain ⟨converted, hconverted, -⟩ := hlowered
        rw [Registry.runConversion] at hconverted ⊢
        rw [hany]
        split at hconverted
        · contradiction
        · next hclear =>
            rw [if_neg hclear]
            exact ⟨_, rfl⟩
    · exact ⟨_, rfl⟩
  exact lowered_eq_ok hlowered' ▸ hlowered'

/-- Modules in another order have the same registry, name by name. -/
theorem same_registry : Registry.Same m.registry m'.registry where
  get? _ := find?_eq_of_perm h.schemas_nodup h.schemas
  length := h.schemas.length_eq

theorem same_shapes : Shapes.Same m.shapes m'.shapes where
  get? _ := find?_eq_of_perm h.shapes_nodup h.shapes
  length := h.shapes.length_eq

/-- References that resolve do so in the other order. -/
theorem resolveReferences (hok : m.resolveReferences = .ok ()) : m'.resolveReferences = .ok () := by
  have hshape : m'.resolveShape = m.resolveShape := by
    funext name referrer
    rw [resolveShape, resolveShape, h.same_shapes.get?]
  have hchain : m'.resolveChain = m.resolveChain := by
    funext referrer chain
    simp only [resolveChain, h.same_registry.resolve, hshape]
  rw [Module.resolveReferences, bind_eq_ok] at hok ⊢
  obtain ⟨⟨⟩, hschemas, hshapes⟩ := hok
  rw [h.same_registry.linearise, hchain, hshape]
  exact ⟨(), forM_perm h.names hschemas, forM_perm h.shapes hshapes⟩

/-- The schemas have an order there as well, and it is made of the same names. -/
theorem schemaOrder {order : List String} (hok : m.schemaOrder = .ok order) :
    ∃ order', m'.schemaOrder = .ok order' ∧ order'.Perm order := by
  rw [Module.schemaOrder, bind_eq_ok] at hok
  obtain ⟨edges, hedges, horder⟩ := hok
  obtain ⟨edges', hedges', hperm⟩ := mapM_perm h.names hedges
  have hnodup : (Dependencies.keys edges).Nodup := by
    rw [(schemaEdges_eq_ok hedges).1]
    exact h.schemas_nodup
  obtain ⟨order', horder', hperm'⟩ := Dependencies.exists_order_perm hnodup hperm horder
  refine ⟨order', ?_, hperm'⟩
  rw [Module.schemaOrder, schemaEdges, h.same_registry.linearise]
  exact bind_eq_ok.mpr ⟨edges', hedges', horder'⟩

theorem shapeOrder {order : List String} (hok : m.shapeOrder = .ok order) :
    ∃ order', m'.shapeOrder = .ok order' ∧ order'.Perm order := by
  refine Dependencies.exists_order_perm ?_ (h.shapes.map _) hok
  rw [Dependencies.keys, List.map_map]
  exact h.shapes_nodup

/-- The check finds the same in the other order. -/
theorem check [Libraries] {report : Report} (hok : m.registry.check = .ok report) :
    ∃ report', m'.registry.check = .ok report' ∧ report'.errors.Perm report.errors ∧
      report'.warnings.Perm report.warnings := by
  rw [Registry.check, bind_eq_ok] at hok
  obtain ⟨reports, hreports, hok⟩ := hok
  obtain rfl := pure_eq_ok.mp hok
  obtain ⟨reports', hreports', hperm⟩ := mapM_perm h.names hreports
  refine ⟨.concat reports', ?_, ?_, ?_⟩
  · rw [Registry.check, h.same_registry.checkSchema]
    exact bind_eq_ok.mpr ⟨reports', hreports', rfl⟩
  · rw [Report.errors_concat, Report.errors_concat]
    exact hperm.flatMap_right _
  · rw [Report.warnings_concat, Report.warnings_concat]
    exact hperm.flatMap_right _

variable {order order' : List String} (hperm : order'.Perm order)

include hperm

/-- The result types are the same but for their order and their places. -/
theorem resultTypes [Libraries] {types : List ResultType}
    (hok : order.mapM (fun name => do
      let type ← (m.registry.mapSteps o.rewrite).resultType m.shapes name
      return linkType order type) = .ok types) :
    ∃ types', order'.mapM (fun name => do
      let type ← (m'.registry.mapSteps o.rewrite).resultType m'.shapes name
      return linkType order' type) = .ok types' ∧
        types'.Perm (types.map (ResultType.retarget (placeIn order order'))) := by
  refine mapM_perm_map hperm (fun name => ?_) hok
  rw [(h.same_registry.mapSteps o.rewrite).resultType h.same_shapes, bind_map]
  exact congrArg _ (funext fun type => congrArg Except.ok (linkType_placeIn hperm type))

/-- The parsers are the same but for their order and their places. -/
theorem linkedParsers [Libraries] {parsers : List Parser}
    (hok : order.mapM (m.linkedParser o (m.registry.mapSteps o.rewrite) order) = .ok parsers) :
    ∃ parsers', order'.mapM (m'.linkedParser o (m'.registry.mapSteps o.rewrite) order') =
      .ok parsers' ∧ parsers'.Perm (parsers.map (Parser.retarget (placeIn order order'))) := by
  refine mapM_perm_map hperm (fun name => ?_) hok
  have hregistry := h.same_registry.mapSteps o.rewrite
  rw [linkedParser, linkedParser, hregistry.parser, hregistry.docstring h.same_shapes, bind_map]
  refine congrArg _ (funext fun parser => ?_)
  have hmembers : parser.members.map (m'.linkMember order') =
      (parser.members.map (m.linkMember order)).map
        (ParserMember.retarget (placeIn order order')) := by
    rw [List.map_map]
    exact List.map_congr_left fun member _ => linkMember_placeIn hperm h.same_shapes member
  dsimp only
  rw [hmembers]
  split
  · rw [bind_map]
    rfl
  · rw [bind_map]
    rfl

end Reordered

/-- The names of the parts of a program, which are distinct. -/
theorem names_of_stages [Libraries] {p : Program} {order shapeOrder : List String}
    (h : Stages m o p order shapeOrder) :
    p.parsers.map Parser.name = order ∧ p.resultTypes.map ResultType.name = order ∧
      order.Nodup ∧ (p.shapes.map JsonShape.name).Nodup := by
  obtain ⟨edges, -, horder⟩ := h.exists_edges
  refine ⟨h.parsers_names, h.types_names, (Dependencies.order_ordered horder).1.nodup, ?_⟩
  rw [h.shapes_names]
  exact (Dependencies.order_ordered h.shapesOrdered).1.nodup

/-- **Programs from the same declarations in another order are the same but for the places.** -/
theorem assemble_reordered [Libraries] (m m' : Module) (o : Options) (a : Assembled)
    (h : Reordered m m') (hassemble : m.assemble o = .ok a) :
    ∃ a' place, m'.assemble o = .ok a' ∧ a'.warnings.Perm a.warnings ∧
      a.program.Moved place a'.program := by
  obtain ⟨order, shapeOrder, report, types, parsers, hoptions, hreferences, horder, hshapeOrder,
    hcheck, herrors, hlowered, htypes, hparsers, rfl⟩ := assemble_eq_ok.mp hassemble
  obtain ⟨order', horder', hperm⟩ := h.schemaOrder horder
  obtain ⟨shapeOrder', hshapeOrder', hshapes⟩ := h.shapeOrder hshapeOrder
  obtain ⟨report', hcheck', herrors', hwarnings⟩ := h.check hcheck
  obtain ⟨types', htypes', htypesPerm⟩ := h.resultTypes hperm htypes
  obtain ⟨parsers', hparsers', hparsersPerm⟩ := h.linkedParsers hperm hparsers
  have hassemble' := assemble_eq_ok.mpr ⟨order', shapeOrder', report', types', parsers', hoptions,
    h.resolveReferences hreferences, horder', hshapeOrder', hcheck',
    List.perm_nil.mp (herrors ▸ herrors'), h.lowered hlowered, htypes', hparsers', rfl⟩
  obtain ⟨_, _, hstages⟩ := assemble_stages hassemble
  obtain ⟨_, _, hstages'⟩ := assemble_stages hassemble'
  obtain ⟨hnames, htypeNames, hnodup, hshapes_nodup⟩ := names_of_stages hstages
  have hnames' := (names_of_stages hstages').1
  obtain rfl := Except.ok.inj (horder.symm.trans hstages.ordered)
  obtain rfl := Except.ok.inj (horder'.symm.trans hstages'.ordered)
  rw [parsers_programOf] at hnames hnames'
  rw [resultTypes_programOf] at htypeNames
  rw [shapes_programOf] at hshapes_nodup
  have hget : m'.shapes.get? = m.shapes.get? := funext h.same_shapes.get?
  refine ⟨_, placeIn order order', hassemble', hwarnings, ?_⟩
  refine moved_programOf h.docstring (fun i => ?_) (hget ▸ hshapes.filterMap _) hshapes_nodup
    htypesPerm (htypeNames ▸ hnodup) hparsersPerm (hnames ▸ hnodup)
  rw [← List.getElem?_map, ← List.getElem?_map, hnames, hnames', getElem?_placeIn hperm]

/-- Shelves of books, with authors and labels that come at the end. -/
def library : Module where
  docstring := some "A library."
  registry := ⟨[
    { Schema.ofKind "Shelf" .list with
      members := [("__SPLIT_DOC__", some [.plain (.selectAll .css "li") .document .listDocument]),
        ("book", some [.plain (.nested "Book" none) .document .nested])] },
    { Schema.ofKind "Book" .item with
      members := [("title", some (textOf "h2")), ("label", some (textOf "script" ++
        [.plain (.jsonify "Label" "" false) .string .json]))] },
    { Schema.ofKind "Author" .item with members := [("name", some (textOf "h1"))] }]⟩
  shapes := [⟨"Label", true, [("tag", .object "Tag")]⟩, ⟨"Tag", false, [("text", .scalar .string)]⟩]

/-- The same declarations from the last to the first. -/
def libraryReversed : Module where
  docstring := library.docstring
  registry := ⟨library.registry.schemas.reverse⟩
  shapes := library.shapes.reverse

/-- A library of three schemas, and its declarations in reverse. -/
theorem assemble_reordered_library :
    ∃ a a' place, library.assemble {} = .ok a ∧ libraryReversed.assemble {} = .ok a' ∧
      a.program.parsers.map Parser.name = ["Book", "Shelf", "Author"] ∧
      a'.program.parsers.map Parser.name = ["Author", "Book", "Shelf"] ∧
      a.program.Moved place a'.program := by
  have hreordered : Reordered library libraryReversed :=
    ⟨rfl, List.reverse_perm _, List.reverse_perm _, by decide, by decide⟩
  have hnames : ((library.assemble {}).toOption.map fun a => a.program.parsers.map Parser.name) =
        some ["Book", "Shelf", "Author"] ∧
      ((libraryReversed.assemble {}).toOption.map fun a => a.program.parsers.map Parser.name) =
        some ["Author", "Book", "Shelf"] := by decide +kernel
  cases h : library.assemble {} with
  | error e =>
      rw [h] at hnames
      exact absurd hnames.1 nofun
  | ok a =>
      obtain ⟨a', place, h', -, hmoved⟩ := assemble_reordered library libraryReversed {} a
        hreordered h
      rw [h, h'] at hnames
      exact ⟨a, a', place, rfl, h', Option.some.inj hnames.1, Option.some.inj hnames.2, hmoved⟩

end Module

end Extractor
