import Extractor.Libraries.Standard
import Extractor.Proofs.Linking
import Mathlib.Data.List.Perm.Subperm

/-!
# Extractor.Proofs.Expansion

Signatures in full. The plain way to sketch a schema expands what it refers to
wherever it is referred to, with no thought of where it came from; such an expansion
need not end. `Registry.expand` and `Shapes.expand` are this way: they go down to a
depth, and have no value where something is left to expand there. The library carries
along the path on which it is and cuts off at a name that stands on it. In a module that
assembles, references lead to the front of an order (`Dependencies.Clear`), so that a path
is never met again and both ways agree (`Module.signature_expands`).
-/

namespace Extractor

open Outcome

/-! ## computations that may not end -/

/-- If every item comes to something, so does the list. -/
theorem mapM_eq_some {α β : Type} {f : α → Option β} {g : α → β} {l : List α}
    (h : ∀ a ∈ l, f a = some (g a)) : l.mapM f = some (l.map g) := by
  induction l with
  | nil => rfl
  | cons a l ih =>
      obtain ⟨ha, hl⟩ := List.forall_mem_cons.mp h
      rw [List.mapM_cons, ha, ih hl]
      rfl

/-- The computation ends, with the outcome. -/
def Ends {α : Type} (x : ExceptT AssembleError Option α) (outcome : Except AssembleError α) :
    Prop :=
  x.run = some outcome

namespace Ends

variable {α β : Type}

/-- What is pure ends at once, and a computation that ends may be followed by another one. -/
theorem pure (a : α) : Ends (Pure.pure a) (.ok a) := rfl

theorem lift (x : Except AssembleError α) : Ends (liftM x) x := rfl

theorem bind {x : ExceptT AssembleError Option α} {outcome : Except AssembleError α}
    {f : α → ExceptT AssembleError Option β} {g : α → Except AssembleError β} (hx : Ends x outcome)
    (hf : ∀ a, outcome = .ok a → Ends (f a) (g a)) : Ends (x >>= f) (outcome >>= g) := by
  unfold Ends at *
  rw [ExceptT.run_bind, hx]
  cases outcome with
  | error e => rfl
  | ok a => exact hf a rfl

theorem map {x : ExceptT AssembleError Option α} {outcome : Except AssembleError α} (f : α → β)
    (hx : Ends x outcome) : Ends (x >>= fun a => Pure.pure (f a)) (f <$> outcome) := by
  unfold Ends at *
  rw [ExceptT.run_bind, hx]
  cases outcome <;> rfl

/-- A loop ends if each of its rounds does. -/
theorem mapM {f : α → ExceptT AssembleError Option β} {g : α → Except AssembleError β}
    {l : List α} (h : ∀ a ∈ l, Ends (f a) (g a)) : Ends (l.mapM f) (l.mapM g) := by
  induction l with
  | nil => exact pure []
  | cons a l ih =>
      obtain ⟨ha, hl⟩ := List.forall_mem_cons.mp h
      rw [List.mapM_cons, List.mapM_cons]
      exact ha.bind fun b _ => (ih hl).bind fun bs _ => pure (b :: bs)

end Ends

/-! ## expansions -/

namespace Shapes

/-- The sketch of a field of a shape, where `object` expands others. -/
def expandField (object : String → Option Json) : JsonFieldType → Option Json
  | .scalar item => some (.str item.signatureName)
  | .null => some (.str "null")
  | .optional item => some (.str (item.signatureName ++ " | null"))
  | .list item => some (.str ("Array<" ++ item.signatureName ++ ">"))
  | .objects other => do
      let value ← object other
      return .arr [value, .str "..."]
  | .object other => object other

/-- The sketch of an object of a shape, with every shape that it refers to expanded. The first
argument bounds the depth: there is no sketch if it does not suffice. -/
def expand (shapes : Shapes) : Nat → String → Option Json
  | 0, _ => none
  | depth + 1, name =>
      match shapes.get? name with
      | none => some (.str name)
      | some shape => do
          let members ← shape.fields.mapM fun (key, type) => do
            let value ← expandField (shapes.expand depth) type
            return (key, value)
          return .obj members

end Shapes

namespace Registry

/-- The sketch of what a chain extracts: another schema, which `nested` expands, JSON, which
`object` expands, or a value of its type, which may be missing where the default is null. -/
def expandChain (shapes : Shapes) (object : String → Option Json)
    (nested : String → ExceptT AssembleError Option Json) (chain : Chain) :
    ExceptT AssembleError Option Json :=
  match Chain.nestedSchema? chain with
  | some schema => nested schema
  | none =>
      match Chain.shape? chain with
      | some shape => do
          let value ← object shape
          return if shapes.isArray shape then .arr [value, .str "..."] else value
      | none =>
          let type := (Chain.cursor chain).signatureName
          return .str
            (if (Chain.default? chain).any Literal.isNull then type ++ " | null" else type)

/-- The sketch of what a hook extracts, where `field` expands a chain. -/
def expandHook (field : Chain → ExceptT AssembleError Option Json) (resolved : Resolved)
    (hook : Hook) : ExceptT AssembleError Option Json :=
  match resolved.hook? hook with
  | some chain => field chain
  | none => return .str "Any"

/-- The sketch of the named fields that are not excluded, where `field` expands a chain. -/
def expandRecord (field : Chain → ExceptT AssembleError Option Json) (resolved : Resolved) :
    ExceptT AssembleError Option Json := do
  let shown := resolved.named.filter fun (name, _) => !(resolved.excluded.getD []).contains name
  let members ← shown.mapM fun (name, chain) => do
    let value ← field chain
    return (name, value)
  return .obj members

/-- The sketch of the result of a schema, with everything that it refers to expanded. The first
argument bounds the depth: there is no sketch if it does not suffice. -/
def expand (r : Registry) (shapes : Shapes) : Nat → String → ExceptT AssembleError Option Json
  | 0, _ => ExceptT.mk none
  | depth + 1, name => do
      let schema ← r.resolve name name
      let resolved ← r.linearise name
      let field := expandChain shapes (shapes.expand depth) (r.expand shapes depth)
      match resolved.signature with
      | some literal => return literal.toJson
      | none =>
          match schema.kind with
          | .item => expandRecord field resolved
          | .list => do
              let record ← expandRecord field resolved
              return .arr [record, .str "..."]
          | .dict => do
              let value ← expandHook field resolved .value
              return .obj [("<K>", value), ("<KN>", .str "...")]
          | .flatList => do
              let item ← expandHook field resolved .item
              return .arr [item, .str "..."]
          | .accUniqueList => return .arr [.str "String", .str "..."]

end Registry

/-! ## ways through an order -/

namespace Dependencies

variable {edges : Edges} {order path : List String} {fuel : Nat} {name other : String}

/-- In the order, the name comes before all names of the path, and at a place below the bound. A
name without an entry leads nowhere. -/
def Clear (edges : Edges) (order : List String) (fuel : Nat) (path : List String)
    (name : String) : Prop :=
  name ∈ keys edges → order.idxOf name < fuel ∧ ∀ above ∈ path, order.idxOf name < order.idxOf above

/-- A clear name is not on the path. -/
theorem Clear.not_mem_path (h : Clear edges order fuel path name) (hkey : name ∈ keys edges) :
    name ∉ path :=
  fun hmem => Nat.lt_irrefl _ ((h hkey).2 name hmem)

/-- Going on to what a name needs, the way stays clear. -/
theorem Clear.next (h : Clear edges order (fuel + 1) path name) (hordered : Ordered edges order)
    (hmem : name ∈ order) (hlists : Lists edges name other) :
    Clear edges order fuel (name :: path) other := by
  intro hkey
  obtain ⟨hbound, hpath⟩ := h (hordered.mem_keys name hmem)
  have hlt := (hordered.earlier name hmem other ⟨hlists, hkey⟩).2
  refine ⟨by omega, fun above habove => ?_⟩
  rcases List.mem_cons.mp habove with rfl | habove
  · exact hlt
  · exact Nat.lt_trans hlt (hpath above habove)

/-- At the start any bound does that is greater than the number of entries. -/
theorem Clear.start (hordered : Ordered edges order) (hall : ∀ name ∈ keys edges, name ∈ order)
    (hfuel : edges.length < fuel) : Clear edges order fuel [] name := by
  intro hkey
  have hlength : order.length ≤ (keys edges).length :=
    (List.subperm_of_subset hordered.nodup hordered.mem_keys).length_le
  rw [keys, List.length_map] at hlength
  have hlt := List.idxOf_lt_length_of_mem (hall name hkey)
  exact ⟨by omega, by simp⟩

end Dependencies

open Dependencies

/-! ## shapes -/

namespace Shapes

variable {shapes : Shapes} {order path : List String} {fuel depth : Nat} {name : String}

/-- The shapes with those that they refer to. -/
def edges (shapes : Shapes) : Edges := shapes.map fun shape => (shape.name, shape.references)

/-- A shape leads to those that it refers to. -/
theorem lists_of_reference {shape : JsonShape} {other : String}
    (hget : shapes.get? name = some shape)
    (hother : other ∈ shape.references) : Lists shapes.edges name other := by
  refine ⟨shape.references, ?_, hother⟩
  rw [edges, lookup_map_find?]
  exact congrArg (Option.map JsonShape.references) hget

theorem get?_of_key (h : name ∉ keys shapes.edges) : shapes.get? name = none := by
  rw [keys, edges, List.map_map] at h
  exact Option.not_isSome_iff_eq_none.mp fun hsome => h (isSome_find?_iff.mp hsome)

theorem mem_keys_of_get? {shape : JsonShape} (h : shapes.get? name = some shape) :
    name ∈ keys shapes.edges := by
  by_contra hkey
  rw [get?_of_key hkey] at h
  contradiction

/-- A shape that is not declared is its own sketch. -/
theorem object_of_get? (h : shapes.get? name = none) :
    shapes.object fuel path name = .str name := by
  cases fuel with
  | zero => rfl
  | succ fuel => rw [object, h]

/-- The sketch of a field of a shape, where `object` sketches others. -/
def fieldSketch (object : String → Json) : JsonFieldType → Json
  | .scalar item => .str item.signatureName
  | .null => .str "null"
  | .optional item => .str (item.signatureName ++ " | null")
  | .list item => .str ("Array<" ++ item.signatureName ++ ">")
  | .objects other => sequenceSketch (object other)
  | .object other => object other

/-- Off the path the sketch of a shape is made of the sketches of its fields. -/
theorem object_of_not_mem {shape : JsonShape} (hget : shapes.get? name = some shape)
    (hpath : name ∉ path) : shapes.object (fuel + 1) path name =
      .obj (shape.fields.map fun entry =>
        (entry.1, fieldSketch (shapes.object fuel (name :: path)) entry.2)) := by
  simp only [object, hget]
  rw [if_neg (by simpa using hpath)]
  rfl

/-- A field is expanded to its sketch if what it refers to is. -/
theorem expandField_eq {expand : String → Option Json} {object : String → Json}
    (type : JsonFieldType)
    (h : ∀ other, type.reference? = some other → expand other = some (object other)) :
    expandField expand type = some (fieldSketch object type) := by
  cases type with
  | objects other =>
      rw [expandField, h other rfl]
      rfl
  | object other => rw [expandField, h other rfl, fieldSketch]
  | _ => rw [expandField, fieldSketch]

/-- **On a clear way nothing is cut off.** -/
theorem expand_eq_object (hordered : Ordered shapes.edges order)
    (hall : ∀ name ∈ keys shapes.edges, name ∈ order)
    (h : Clear shapes.edges order fuel path name) (hdepth : fuel < depth) :
    shapes.expand depth name = some (shapes.object fuel path name) := by
  induction fuel generalizing depth path name with
  | zero =>
      obtain ⟨depth, rfl⟩ := Nat.exists_eq_add_one_of_ne_zero (Nat.ne_zero_of_lt hdepth)
      have hkey : name ∉ keys shapes.edges := fun hkey => absurd (h hkey).1 (Nat.not_lt_zero _)
      rw [expand, get?_of_key hkey]
      rfl
  | succ fuel ih =>
      obtain ⟨depth, rfl⟩ := Nat.exists_eq_add_one_of_ne_zero (Nat.ne_zero_of_lt hdepth)
      rw [expand]
      cases hget : shapes.get? name with
      | none => rw [object_of_get? hget]
      | some shape =>
          have hkey := mem_keys_of_get? hget
          have hmembers : shape.fields.mapM (fun (key, type) => do
              let value ← expandField (shapes.expand depth) type
              return (key, value)) = some (shape.fields.map fun entry =>
                (entry.1, fieldSketch (shapes.object fuel (name :: path)) entry.2)) := by
            refine mapM_eq_some ?_
            rintro ⟨key, type⟩ hentry
            have hfield := expandField_eq type fun other hother =>
              ih (h.next hordered (hall name hkey)
                (lists_of_reference hget (List.mem_filterMap.mpr ⟨_, hentry, hother⟩)))
                (Nat.lt_of_succ_lt_succ hdepth)
            dsimp only
            rw [hfield]
            rfl
          rw [object_of_not_mem hget (h.not_mem_path hkey)]
          dsimp only
          rw [hmembers]
          rfl

/-- Where the shapes can be put in order, the sketch of a shape is its expansion. -/
theorem expand_eq (hordered : Ordered shapes.edges order)
    (hall : ∀ name ∈ keys shapes.edges, name ∈ order) (hdepth : shapes.length + 1 < depth)
    (name : String) : shapes.expand depth name = some (shapes.object (shapes.length + 1) [] name) :=
  expand_eq_object hordered hall (.start hordered hall (by simp [edges])) hdepth

end Shapes

/-! ## schemas -/

namespace Registry

variable {r : Registry} {shapes : Shapes} {edges : Edges} {order path : List String}
  {fuel depth : Nat} {name : String} {resolved : Resolved}
  {nested : String → Except AssembleError Json}

/-- The entries are those of the schemas, each of which comes to something and needs the schemas
that its fields hand over to. -/
structure Graph (r : Registry) (edges : Edges) : Prop where
  keys_eq : keys edges = r.names
  resolved : ∀ {name}, name ∈ r.names → ∃ resolved, r.linearise name = .ok resolved
  needs : ∀ {name resolved field chain schema}, name ∈ r.names → r.linearise name = .ok resolved →
    (field, chain) ∈ resolved.fields → Chain.nestedSchema? chain = some schema →
    Needs edges name schema

theorem names_mapSteps {f : Step → Step} : (r.mapSteps f).names = r.names := by
  rw [names, names, Registry.mapSteps, List.map_map]
  rfl

/-- Replacing steps changes no reference. -/
theorem Graph.mapSteps (h : Graph r edges) {f : Step → Step} (hf : Step.Rewrites f) :
    Graph (r.mapSteps f) edges where
  keys_eq := by rw [h.keys_eq, names_mapSteps]
  resolved := by
    intro name hname
    rw [names_mapSteps] at hname
    obtain ⟨plain, hplain⟩ := h.resolved hname
    exact ⟨_, by rw [linearise_mapSteps, hplain]; rfl⟩
  needs := by
    intro name resolved field chain schema hname hresolved hmem hschema
    rw [linearise_mapSteps, map_eq_ok] at hresolved
    obtain ⟨plain, hplain, rfl⟩ := hresolved
    obtain ⟨⟨field', chain'⟩, hmem', hentry⟩ := List.mem_map.mp hmem
    obtain ⟨rfl, rfl⟩ := Prod.mk.injEq .. ▸ hentry
    rw [Chain.nestedSchema?_map hf] at hschema
    rw [names_mapSteps] at hname
    exact h.needs hname hplain hmem' hschema

/-- The shapes are expanded at each depth that is greater than their number. -/
def ShapesExpand (shapes : Shapes) : Prop :=
  ∀ depth, shapes.length + 1 < depth → ∀ shape,
    shapes.expand depth shape = some (shapes.object (shapes.length + 1) [] shape)

/-- What the expansion of the fields needs: the others that they refer to are expanded. -/
structure Expanded (shapes : Shapes) (object : String → Option Json)
    (expand : String → ExceptT AssembleError Option Json)
    (nested : String → Except AssembleError Json) (resolved : Resolved) : Prop where
  schema : ∀ {field chain schema}, (field, chain) ∈ resolved.fields →
    Chain.nestedSchema? chain = some schema → Ends (expand schema) (nested schema)
  shape : ∀ shape, object shape = some (shapes.object (shapes.length + 1) [] shape)

namespace Expanded

variable {object : String → Option Json} {expand : String → ExceptT AssembleError Option Json}
  (h : Expanded shapes object expand nested resolved)

include h

/-- A chain, a hook and a record are expanded to their sketches. -/
theorem chain {field : String} {chain : Chain} (hmem : (field, chain) ∈ resolved.fields) :
    Ends (expandChain shapes object expand chain) (chainSketch shapes nested chain) := by
  rw [expandChain, chainSketch]
  cases hschema : Chain.nestedSchema? chain with
  | some schema => exact h.schema hmem hschema
  | none =>
      cases Chain.shape? chain with
      | none => exact .pure _
      | some shape =>
          simp only [h.shape shape, Shapes.signature]
          exact .pure _

theorem hook (hook : Hook) : Ends (expandHook (expandChain shapes object expand) resolved hook)
    (hookSketch shapes nested resolved hook) := by
  rw [expandHook, hookSketch]
  cases hchain : resolved.hook? hook with
  | none => exact .pure _
  | some chain => exact h.chain (Resolved.mem_fields_of_hook? hchain)

theorem record : Ends (expandRecord (expandChain shapes object expand) resolved)
    (recordSketch shapes nested resolved) := by
  rw [expandRecord, recordSketch]
  refine Ends.bind (Ends.mapM ?_) fun members _ => .pure _
  rintro ⟨field, chain⟩ hentry
  have hmem : (field, chain) ∈ resolved.fields :=
    List.mem_of_mem_filter (List.mem_of_mem_filter hentry)
  exact (h.chain hmem).bind fun value _ => .pure _

end Expanded

/-- **On a clear way nothing is cut off.** -/
theorem expand_ends_sketch (hgraph : Graph r edges) (hordered : Ordered edges order)
    (hall : ∀ name ∈ keys edges, name ∈ order) (hshapes : ShapesExpand shapes)
    (hname : name ∈ r.names) (h : Clear edges order fuel path name)
    (hdepth : fuel + shapes.length + 1 < depth) :
    Ends (r.expand shapes depth name) (r.sketch shapes fuel path name) := by
  induction fuel generalizing depth path name with
  | zero => exact absurd (h (hgraph.keys_eq ▸ hname)).1 (Nat.not_lt_zero _)
  | succ fuel ih =>
      have hkey : name ∈ keys edges := hgraph.keys_eq ▸ hname
      obtain ⟨depth, rfl⟩ := Nat.exists_eq_add_one_of_ne_zero (Nat.ne_zero_of_lt hdepth)
      rw [expand, sketch, if_neg (by simpa using h.not_mem_path hkey)]
      refine (Ends.lift _).bind fun schema _ => (Ends.lift _).bind fun resolved hresolved => ?_
      have hexpanded : Expanded shapes (shapes.expand depth) (r.expand shapes depth)
          (r.sketch shapes fuel (name :: path)) resolved := by
        refine ⟨fun hmem hschema => ?_, hshapes depth (by omega)⟩
        obtain ⟨hlists, hother⟩ := hgraph.needs hname hresolved hmem hschema
        exact ih (hgraph.keys_eq ▸ hother) (h.next hordered (hall name hkey) hlists) (by omega)
      cases resolved.signature with
      | some literal => exact .pure _
      | none =>
          cases schema.kind with
          | item => exact hexpanded.record
          | list => exact hexpanded.record.map sequenceSketch
          | dict => exact (hexpanded.hook .value).bind fun value _ => .pure _
          | flatList => exact (hexpanded.hook .item).map sequenceSketch
          | accUniqueList => exact .pure _

/-- The signature of a name is its expansion, also where the name is not declared. -/
theorem expand_ends_signature (hgraph : Graph r edges) (hordered : Ordered edges order)
    (hall : ∀ name ∈ keys edges, name ∈ order) (hshapes : ShapesExpand shapes)
    (hdepth : r.schemas.length + shapes.length + 3 < depth) (name : String) :
    Ends (r.expand shapes depth name) (r.signature shapes name) := by
  by_cases hname : name ∈ r.names
  · have hlength : edges.length = r.schemas.length := by
      simpa [keys, names] using congrArg List.length hgraph.keys_eq
    exact expand_ends_sketch hgraph hordered hall hshapes hname
      (.start hordered hall (by omega)) (by omega)
  · have hget : r.get? name = none :=
      Option.not_isSome_iff_eq_none.mp fun hsome => hname (isSome_find?_iff.mp hsome)
    have hresolve : r.resolve name name = .error (.unknownSchema name name) := by
      rw [resolve, hget]
    obtain ⟨depth, rfl⟩ := Nat.exists_eq_add_one_of_ne_zero (Nat.ne_zero_of_lt hdepth)
    rw [expand, signature, sketch, if_neg (by simp), hresolve]
    rfl

/-! ## that there is a signature -/

/-- There is a sketch if there is one of each schema that is referred to. -/
theorem exists_chainSketch {chain : Chain}
    (h : ∀ schema, Chain.nestedSchema? chain = some schema → ∃ j, nested schema = .ok j) :
    ∃ j, chainSketch shapes nested chain = .ok j := by
  rw [chainSketch]
  split
  · next schema hschema => exact h schema hschema
  · exact ⟨_, rfl⟩
  · exact ⟨_, rfl⟩

theorem exists_kindSketch {kind : SchemaKind}
    (h : ∀ field chain schema, (field, chain) ∈ resolved.fields →
      Chain.nestedSchema? chain = some schema → ∃ j, nested schema = .ok j) :
    ∃ j, kindSketch shapes nested resolved kind = .ok j := by
  have hhook : ∀ hook, ∃ j, hookSketch shapes nested resolved hook = .ok j := by
    intro hook
    rw [hookSketch]
    split
    · next chain hchain =>
        exact exists_chainSketch (h _ chain · (Resolved.mem_fields_of_hook? hchain))
    · exact ⟨_, rfl⟩
  have hrecord : ∃ j, recordSketch shapes nested resolved = .ok j := by
    have hmember : ∀ entry ∈ resolved.named.filter
        (fun entry => !(resolved.excluded.getD []).contains entry.1), ∃ member,
          (do return (entry.1, ← chainSketch shapes nested entry.2)) = .ok member ∧ True := by
      intro entry hentry
      have hmem : entry ∈ resolved.fields := List.mem_of_mem_filter (List.mem_of_mem_filter hentry)
      obtain ⟨value, hvalue⟩ := exists_chainSketch (h entry.1 entry.2 · hmem)
      exact ⟨(entry.1, value), bind_eq_ok.mpr ⟨value, hvalue, rfl⟩, trivial⟩
    obtain ⟨members, hmembers, -⟩ := exists_mapM hmember
    exact ⟨.obj members, bind_eq_ok.mpr ⟨members, hmembers, rfl⟩⟩
  cases kind with
  | item => exact hrecord
  | list =>
      obtain ⟨j, hj⟩ := hrecord
      exact ⟨sequenceSketch j, by rw [kindSketch, hj]; rfl⟩
  | dict =>
      obtain ⟨j, hj⟩ := hhook .value
      exact ⟨_, by rw [kindSketch, hj]; rfl⟩
  | flatList =>
      obtain ⟨j, hj⟩ := hhook .item
      exact ⟨sequenceSketch j, by rw [kindSketch, hj]; rfl⟩
  | accUniqueList => exact ⟨_, rfl⟩

/-- Every schema of the graph has a sketch, at whatever depth. -/
theorem exists_sketch (hgraph : Graph r edges) (hname : name ∈ r.names) :
    ∃ j, r.sketch shapes fuel path name = .ok j := by
  induction fuel generalizing path name with
  | zero => exact ⟨_, rfl⟩
  | succ fuel ih =>
      obtain ⟨resolved, hresolved⟩ := hgraph.resolved hname
      obtain ⟨schema, hschema⟩ := Option.isSome_iff_exists.mp (isSome_find?_iff.mpr hname)
      have hresolve : r.resolve name name = .ok schema := resolve_eq_ok.mpr hschema
      rw [sketch, hresolve, hresolved]
      split
      · exact ⟨_, rfl⟩
      · simp only [ok_bind]
        split
        · exact ⟨_, rfl⟩
        · refine exists_kindSketch fun field chain other hmem hother => ih ?_
          exact hgraph.keys_eq ▸ (hgraph.needs hname hresolved hmem hother).2

end Registry

/-! ## modules -/

namespace Module

variable {m : Module} {o : Options} {p : Program} {order shapeOrder : List String}

/-- A module that gets through the stages has a graph, and its order is one of it. -/
theorem Stages.exists_graph [Libraries] (h : Stages m o p order shapeOrder) :
    ∃ edges, m.registry.Graph edges ∧ Dependencies.order edges = .ok order := by
  obtain ⟨edges, hedges, horder⟩ := h.exists_edges
  refine ⟨edges, ⟨(schemaEdges_eq_ok hedges).1, fun hname => ?_, fun hname hresolved hmem hschema =>
    needs_of_nested h.references hedges hname hresolved hmem hschema⟩, horder⟩
  obtain ⟨resolved, hresolved, -⟩ := (resolveReferences_eq_ok h.references).1 _ hname
  exact ⟨resolved, hresolved⟩

/-- **Signatures are expanded in full.** In a module that assembles, the expansion without a path
ends, at a depth that the declarations bound, with the signature of the name, before and behind a
conversion of the queries; and every declared schema has one. -/
theorem signature_expands [Libraries] (m : Module) (o : Options) (a : Assembled)
    (h : m.assemble o = .ok a) (r : Registry)
    (hr : r = m.registry ∨ ∃ c, r = (m.registry.convert c).1) (name : String) :
    (∀ depth, r.schemas.length + m.shapes.length + 3 < depth →
      (r.expand m.shapes depth name).run = some (r.signature m.shapes name)) ∧
    (name ∈ m.registry.names → ∃ j, r.signature m.shapes name = .ok j) := by
  obtain ⟨order, shapeOrder, hstages⟩ := assemble_stages h
  obtain ⟨edges, hgraph, horder⟩ := hstages.exists_graph
  obtain ⟨hordered, hall⟩ := order_ordered horder
  obtain ⟨hshapesOrdered, hshapesAll⟩ := order_ordered hstages.shapesOrdered
  have hnames : r.Graph edges ∧ r.names = m.registry.names := by
    rcases hr with rfl | ⟨c, rfl⟩
    · exact ⟨hgraph, rfl⟩
    · exact ⟨hgraph.mapSteps (Conversion.rewrites_tryStep c), Registry.names_mapSteps⟩
  refine ⟨fun depth hdepth => Registry.expand_ends_signature hnames.1 hordered hall
    (fun _ => Shapes.expand_eq hshapesOrdered hshapesAll) hdepth name, fun hname => ?_⟩
  exact Registry.exists_sketch hnames.1 (hnames.2 ▸ hname)

/-- The chain that hands the document over to a schema. -/
def handOver (schema : String) : Chain := [.plain (.nested schema none) .document .nested]

/-- Stalls that refer to prices twice, on a market that refers to them as well. A price has a shape,
which refers to another one twice. -/
def market : Module where
  docstring := none
  registry := ⟨[
    { Schema.ofKind "Market" .item with
      members := [("stall", some (handOver "Stall")), ("top", some (handOver "Price"))] },
    { Schema.ofKind "Stall" .item with
      members := [("best", some (handOver "Price")), ("last", some (handOver "Price"))] },
    { Schema.ofKind "Price" .item with
      members := [("amount", some [.plain (.default .null) .any .any,
          .plain .text .document .string]),
        ("notes", some [.plain .text .document .string,
          .plain (.jsonify "Meta" "" false) .string .json])] }]⟩
  shapes := [⟨"Meta", true, [("main", .object "Tag"), ("more", .objects "Tag")]⟩,
    ⟨"Tag", false, [("label", .scalar .string)]⟩]

/-- The sketch of a price. -/
def priceSketch : Json :=
  let tag : Json := .obj [("label", .str "String")]
  .obj [("amount", .str "String | null"),
    ("notes", sequenceSketch (.obj [("main", tag), ("more", sequenceSketch tag)]))]

/-- The market is expanded to its signature. -/
theorem signature_expands_market :
    ∃ a, market.assemble {} = .ok a ∧
      (market.registry.expand market.shapes 9 "Market").run =
        some (market.registry.signature market.shapes "Market") ∧
      market.registry.signature market.shapes "Market" =
        .ok (.obj [("stall", .obj [("best", priceSketch), ("last", priceSketch)]),
          ("top", priceSketch)]) := by
  have hok : (market.assemble {}).toBool = true := by decide +kernel
  cases h : market.assemble {} with
  | error e =>
      rw [h] at hok
      contradiction
  | ok a =>
      have hmarket := signature_expands market {} a h market.registry (.inl rfl) "Market"
      exact ⟨a, rfl, hmarket.1 9 (by decide), rfl⟩

end Module

end Extractor
