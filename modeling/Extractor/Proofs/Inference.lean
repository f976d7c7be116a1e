import Extractor.JsonShape.Infer
import Extractor.Libraries.Standard
import Extractor.Proofs.Dependencies
import Extractor.Proofs.ShapeText
import Mathlib.Data.List.Nodup
import Mathlib.Data.List.Infix

/-!
# Extractor.Proofs.Inference

Inferred shapes stand in the order of their dependencies: a shape comes behind
all shapes that its fields refer to, and the entry shape comes last. Their names
are distinct only under a condition, for a name is compared with those of the
shapes that are finished, not with those of the objects that are still open
around it, and the parent's name in front does not make every name a new one.
`FieldsFresh` is that condition.
-/

namespace Extractor

/-- Inserting and collecting add no entries of their own. -/
theorem Keyed.insert_subset {α : Type} (key : String) (value : α) (pairs : List (String × α)) :
    insert key value pairs ⊆ (key, value) :: pairs := by
  induction pairs with
  | nil => exact List.Subset.refl _
  | cons pair rest ih =>
      rw [insert]
      split
      · exact List.cons_subset_cons _ (List.subset_cons_self _ _)
      · intro other hother
        obtain rfl | hother := List.mem_cons.mp hother
        · simp
        · have hrest := ih hother
          grind

theorem Keyed.collect_subset {α : Type} (pairs : List (String × α)) : collect pairs ⊆ pairs := by
  have hfold : ∀ acc : List (String × α),
      pairs.foldl (fun acc pair => insert pair.1 pair.2 acc) acc ⊆ acc ++ pairs := by
    induction pairs with
    | nil => simp
    | cons pair rest ih =>
        intro acc other hother
        have hrest := ih _ hother
        have hinsert := insert_subset pair.1 pair.2 acc
        grind
  exact hfold []

namespace JsonShape

/-! ## names in the sample -/

/-- The name that the object under a key would have on its own. -/
def ownName (key : String) : String :=
  upperCamelCase (String.ofList (key.toList.map fun c => if Text.isAlphanumeric c then c else '_'))

mutual

/-- The own names of the objects in a field that are described. -/
def fieldNames (key : String) : Json → List String
  | .obj members => ownName key :: memberNames members
  | .arr items => itemNames key items
  | _ => []

/-- The own names of the objects in an array that are described: only its first item counts. -/
def itemNames (key : String) : List Json → List String
  | .obj members :: _ => ownName key :: memberNames members
  | _ => []

/-- The own names of the objects in the members of an object. -/
def memberNames : List (String × Json) → List String
  | [] => []
  | (key, value) :: rest => fieldNames key value ++ memberNames rest

end

mutual

/-- No object in the field is named like one around it or like one that is finished. -/
def FieldFresh (opened : List String) (parent key : String) : Json → List JsonShape → Prop
  | .obj members, done => ∀ name, subShapeName done parent key = .ok name →
      name ∉ opened ++ done.map JsonShape.name ∧ FieldsFresh (name :: opened) name members done
  | .arr items, done => ItemsFresh opened parent key items done
  | _, _ => True

/-- No object in the array is named like one around it or like one that is finished. -/
def ItemsFresh (opened : List String) (parent key : String) : List Json → List JsonShape → Prop
  | .obj members :: _, done => ∀ name, subShapeName done parent key = .ok name →
      name ∉ opened ++ done.map JsonShape.name ∧ FieldsFresh (name :: opened) name members done
  | _, _ => True

/-- No object in the members is named like one around it or like one that is finished by then. -/
def FieldsFresh (opened : List String) (parent : String) :
    List (String × Json) → List JsonShape → Prop
  | [], _ => True
  | (key, value) :: rest, done => FieldFresh opened parent key value done ∧
      ∀ type done', inferField parent key value done = .ok (type, done') →
        FieldsFresh opened parent rest done'

end

/-! ## order -/

/-- Every shape stands behind those that it refers to. -/
def InOrder (shapes : List JsonShape) : Prop :=
  ∀ before s after, shapes = before ++ s :: after →
    ∀ name ∈ s.references, name ∈ before.map JsonShape.name

/-- Shapes stay in order if one is put behind all that it refers to. -/
theorem inOrder_nil : InOrder [] := by
  intro before s after h
  simp at h

theorem InOrder.concat {shapes : List JsonShape} {s : JsonShape} (h : InOrder shapes)
    (hs : ∀ name ∈ s.references, name ∈ shapes.map JsonShape.name) : InOrder (shapes ++ [s]) := by
  intro before t after heq
  cases after using List.reverseRecOn with
  | nil =>
      obtain ⟨rfl, rfl⟩ := List.append_singleton_inj.mp heq
      exact hs
  | append_singleton after last =>
      rw [← List.cons_append, ← List.append_assoc] at heq
      exact h before t after (List.append_singleton_inj.mp heq).1

/-! ## assembling -/

/-- What shapes in order refer to is there. -/
theorem InOrder.resolveReferences {shapes : List JsonShape} (h : InOrder shapes) :
    (⟨none, .empty, shapes⟩ : Module).resolveReferences = .ok () := by
  refine Outcome.forM_eq_ok.mpr fun s hs => Outcome.forM_eq_ok.mpr fun name hname => ?_
  obtain ⟨before, after, rfl⟩ := List.append_of_mem hs
  obtain ⟨r, hr, hfound⟩ := List.mem_map.mp (h before s after rfl name hname)
  have hsome : (Shapes.get? (before ++ s :: after) name).isSome := by
    rw [Shapes.get?, List.find?_isSome]
    exact ⟨r, List.mem_append_left _ hr, beq_iff_eq.mpr hfound⟩
  exact if_pos hsome

theorem InOrder.shapeOrder {shapes : List JsonShape} (h : InOrder shapes)
    (hnodup : (shapes.map JsonShape.name).Nodup) :
    (⟨none, .empty, shapes⟩ : Module).shapeOrder = .ok (shapes.map JsonShape.name) := by
  have hkeys : Dependencies.keys (shapes.map fun s => (s.name, s.references)) =
      shapes.map JsonShape.name := List.map_map
  rw [Module.shapeOrder, Dependencies.order_of_inOrder (hkeys ▸ hnodup) ?_, hkeys]
  intro before name after hsplit b hb
  obtain ⟨⟨needed, hlookup, hmem⟩, -⟩ := hb
  rw [hkeys] at hsplit
  obtain ⟨front, rest, rfl, rfl, hrest⟩ := List.map_eq_append_iff.mp hsplit
  obtain ⟨s, back, rfl, rfl, -⟩ := List.map_eq_cons_iff.mp hrest
  obtain ⟨others, more, hentry, -⟩ := List.lookup_eq_some_iff.mp hlookup
  obtain ⟨t, ht, htentry⟩ : ∃ t ∈ front ++ s :: back, (t.name, t.references) = (s.name, needed) :=
    List.mem_map.mp (hentry ▸ List.mem_append_right others List.mem_cons_self)
  obtain ⟨hname, rfl⟩ := Prod.mk.inj htentry
  -- distinct names leave one shape that the entry can be of
  obtain rfl : t = s := List.inj_on_of_nodup_map hnodup ht (by simp) hname
  exact h front t back rfl b hmem

/-- A module of such shapes can be assembled. -/
theorem InOrder.assemble [Libraries] {shapes : List JsonShape} (h : InOrder shapes)
    (hnodup : (shapes.map JsonShape.name).Nodup) :
    ∃ a, (⟨none, .empty, shapes⟩ : Module).assemble {} = .ok a := by
  unfold Module.assemble
  rw [h.resolveReferences, h.shapeOrder hnodup]
  exact ⟨_, rfl⟩

/-! ## one step -/

/-- What inference does to the shapes that are done, among objects that are open: it adds shapes in
order, finishes the ones referred to and keeps names apart exactly if they are fresh, which they are
if all the own names are distinct. -/
structure Inferred (opened : List String) (done done' : List JsonShape)
    (references names : List String) (fresh : Prop) : Prop where
  grows : done <+: done'
  inOrder : InOrder done → InOrder done'
  resolved : ∀ name ∈ references, name ∈ done'.map JsonShape.name
  nodup_iff : (opened ++ done.map JsonShape.name).Nodup →
    ((opened ++ done'.map JsonShape.name).Nodup ↔ fresh)
  perm : (opened ++ (done.map JsonShape.name ++ names)).Nodup →
    (done'.map JsonShape.name).Perm (done.map JsonShape.name ++ names)

namespace Inferred

variable {opened references references' names names' : List String}
  {done done' done'' : List JsonShape} {fresh fresh' : Prop}

/-- Nothing is inferred at the start, and what is inferred one after the other is inferred
together. -/
theorem refl : Inferred opened done done [] [] True where
  grows := List.prefix_refl done
  inOrder := id
  resolved := nofun
  nodup_iff h := iff_of_true h trivial
  perm _ := by rw [List.append_nil]

theorem trans (h : Inferred opened done done' references names fresh)
    (h' : Inferred opened done' done'' references' names' fresh') :
    Inferred opened done done'' (references ++ references') (names ++ names')
      (fresh ∧ fresh') where
  grows := h.grows.trans h'.grows
  inOrder horder := h'.inOrder (h.inOrder horder)
  resolved name hname := by
    obtain hname | hname := List.mem_append.mp hname
    · exact (h'.grows.map _).subset (h.resolved name hname)
    · exact h'.resolved name hname
  nodup_iff hdone := by
    rw [← h.nodup_iff hdone]
    refine ⟨fun hdone'' => ?_, fun ⟨hdone', hfresh'⟩ => (h'.nodup_iff hdone').mpr hfresh'⟩
    -- what is done in between is a part of what is done in the end
    have hdone' : (opened ++ done'.map JsonShape.name).Nodup :=
      hdone''.sublist ((h'.grows.map _).sublist.append_left opened)
    exact ⟨hdone', (h'.nodup_iff hdone').mp hdone''⟩
  perm hnodup := by
    rw [← List.append_assoc (done.map JsonShape.name)] at hnodup ⊢
    have hdone' : (done'.map JsonShape.name).Perm _ :=
      h.perm (hnodup.sublist ((List.sublist_append_left _ names').append_left opened))
    have hdone'' : (done''.map JsonShape.name).Perm _ :=
      h'.perm (((hdone'.append_right names').append_left opened).nodup_iff.mpr hnodup)
    exact hdone''.trans (hdone'.append_right names')

theorem congr (h : Inferred opened done done' references names fresh) (hiff : fresh ↔ fresh') :
    Inferred opened done done' references names fresh' :=
  propext hiff ▸ h

/-- An object takes a name, and its shape is done when those of its fields are. -/
theorem object {s : JsonShape} {own : String}
    (h : Inferred (s.name :: opened) done done' references names fresh)
    (hreferences : ∀ name ∈ s.references, name ∈ references)
    (hown : own ∉ done.map JsonShape.name → s.name = own) :
    Inferred opened done (done' ++ [s]) [s.name] (own :: names)
      (s.name ∉ opened ++ done.map JsonShape.name ∧ fresh) where
  grows := h.grows.trans (List.prefix_append done' [s])
  inOrder horder := (h.inOrder horder).concat fun name hname =>
    h.resolved name (hreferences name hname)
  resolved name hname := by simp_all
  nodup_iff hdone := by
    have hopened : (opened ++ (done' ++ [s]).map JsonShape.name).Nodup ↔
        (s.name :: opened ++ done'.map JsonShape.name).Nodup := by
      rw [List.map_append, ← List.append_assoc]
      exact (List.perm_append_singleton _ _).nodup_iff
    rw [hopened]
    refine ⟨fun hdone' => ?_, fun ⟨hname, hfresh⟩ => (h.nodup_iff (hdone.cons hname)).mpr hfresh⟩
    have hopen : (s.name :: opened ++ done.map JsonShape.name).Nodup :=
      hdone'.sublist ((h.grows.map _).sublist.append_left _)
    exact ⟨(List.nodup_cons.mp hopen).1, (h.nodup_iff hopen).mp hdone'⟩
  perm hnodup := by
    have hmiddle : (opened ++ (done.map JsonShape.name ++ own :: names)).Perm
        (own :: opened ++ (done.map JsonShape.name ++ names)) := by
      rw [← List.append_assoc, ← List.append_assoc]
      exact List.perm_middle
    rw [hmiddle.nodup_iff] at hnodup
    have hname : s.name = own := hown fun hmem =>
      (List.nodup_cons.mp hnodup).1 (by simp [hmem])
    rw [← hname] at hnodup ⊢
    rw [List.map_append]
    refine ((h.perm hnodup).append_right [s.name]).trans ?_
    rw [List.append_assoc]
    exact (List.perm_append_singleton s.name names).append_left _

end Inferred

/-! ## a whole run -/

variable {opened : List String} {parent key name : String} {done done' : List JsonShape}
  {type : JsonFieldType} {fields : List (String × JsonFieldType)}

/-- The name of a new shape is its own one, or that of its parent and its own one if that is
taken. -/
theorem subShapeName_eq : subShapeName done parent key =
    if startsBadly (ownName key) then .error (.badName key)
    else if done.any (·.name == ownName key) then .ok (parent ++ ownName key)
    else .ok (ownName key) := rfl

/-- The name is the own one unless that is taken. -/
theorem subShapeName_eq_ownName (h : subShapeName done parent key = .ok name)
    (hown : ownName key ∉ done.map JsonShape.name) : name = ownName key := by
  have htaken : ¬ done.any (·.name == ownName key) = true := by
    rw [List.any_eq_true]
    rintro ⟨s, hs, heq⟩
    exact hown (List.mem_map.mpr ⟨s, hs, beq_iff_eq.mp heq⟩)
  rw [subShapeName_eq, if_neg htaken] at h
  split at h
  · cases h
  · exact (Except.ok.inj h).symm

/-- What the fields refer to is resolved with them. -/
theorem references_collect {isArray : Bool} :
    ∀ r ∈ references ⟨name, isArray, Keyed.collect fields⟩,
      r ∈ fields.filterMap fun (_, type) => type.reference? := by
  intro r hr
  obtain ⟨pair, hpair, hreference⟩ := List.mem_filterMap.mp hr
  exact List.mem_filterMap.mpr ⟨pair, Keyed.collect_subset fields hpair, hreference⟩

/-- The fields of these members are inferred one step after the other. -/
def MembersInferred (members : List (String × Json)) : Prop :=
  ∀ ⦃opened parent done fields done'⦄, inferFields parent members done = .ok (fields, done') →
    Inferred opened done done' (fields.filterMap fun (_, type) => type.reference?)
      (memberNames members) (FieldsFresh opened parent members done)

/-- An object is inferred through its members and is then finished itself. -/
theorem inferred_object {members : List (String × Json)} {make : String → JsonFieldType}
    (hmake : ∀ name, (make name).reference? = some name) (hmembers : MembersInferred members)
    (h : (do
      let name ← subShapeName done parent key
      let (fields, done) ← inferFields name members done
      return (make name, done ++ [JsonShape.mk name false (Keyed.collect fields)])) =
        .ok (type, done')) :
    Inferred opened done done' type.reference?.toList (ownName key :: memberNames members)
      (∀ name, subShapeName done parent key = .ok name →
        name ∉ opened ++ done.map JsonShape.name ∧
          FieldsFresh (name :: opened) name members done) := by
  obtain ⟨name, hname, h⟩ := Outcome.bind_eq_ok.mp h
  obtain ⟨⟨fields, inner⟩, hfields, h⟩ := Outcome.bind_eq_ok.mp h
  obtain ⟨rfl, rfl⟩ := Prod.mk.inj (Except.ok.inj h)
  rw [hmake]
  refine (Inferred.object (hmembers hfields) references_collect
    (subShapeName_eq_ownName hname)).congr ?_
  simp [hname]

/-- An array that does not start with an object needs no shape. -/
theorem inferItems_of_not_object {items : List Json}
    (hitems : ∀ members others, items ≠ .obj members :: others)
    (h : inferItems parent key items done = .ok (type, done')) :
    type.reference? = none ∧ done' = done := by
  cases items with
  | nil =>
      rw [inferItems] at h
      cases h
      exact ⟨rfl, rfl⟩
  | cons first others =>
      cases first with
      | obj members => exact absurd rfl (hitems members others)
      | arr inner =>
          rw [inferItems] at h
          split at h <;> cases h
      | _ =>
          simp only [inferItems] at h
          split at h
          · cases h
          · cases h
            exact ⟨rfl, rfl⟩

mutual

/-- **Every value is inferred**, by recursion over its tree. -/
theorem inferred_field : ∀ (value : Json) {opened parent key done type done'},
    inferField parent key value done = .ok (type, done') →
      Inferred opened done done' type.reference?.toList (fieldNames key value)
        (FieldFresh opened parent key value done)
  | .null | .bool _ | .float _ | .int _ | .str _ => by
      intro h
      rw [inferField] at h
      obtain ⟨rfl, rfl⟩ := Prod.mk.inj (Except.ok.inj h)
      rw [fieldNames, FieldFresh]
      · exact .refl
      all_goals nofun
  | .obj members => by
      intro h
      rw [inferField] at h
      rw [fieldNames, FieldFresh]
      exact inferred_object (fun _ => rfl) (inferred_fields members) h
  | .arr items => by
      intro h
      rw [inferField] at h
      rw [fieldNames, FieldFresh]
      exact inferred_items items h

theorem inferred_items : ∀ (items : List Json) {opened parent key done type done'},
    inferItems parent key items done = .ok (type, done') →
      Inferred opened done done' type.reference?.toList (itemNames key items)
        (ItemsFresh opened parent key items done)
  | .obj members :: others => by
      intro h
      rw [inferItems] at h
      split at h
      · cases h
      · rw [itemNames, ItemsFresh]
        exact inferred_object (fun _ => rfl) (inferred_fields members) h
  | [] | .arr _ :: _ | .null :: _ | .bool _ :: _ | .float _ :: _ | .int _ :: _ | .str _ :: _ => by
      intro h
      obtain ⟨hreference, rfl⟩ := inferItems_of_not_object (by simp) h
      rw [hreference, itemNames, ItemsFresh]
      · exact .refl
      all_goals nofun

/-- Members are inferred one after the other. -/
theorem inferred_fields : ∀ (members : List (String × Json)), MembersInferred members
  | [] => by
      intro opened parent done fields done' h
      rw [inferFields] at h
      obtain ⟨rfl, rfl⟩ := Prod.mk.inj (Except.ok.inj h)
      rw [memberNames, FieldsFresh]
      exact .refl
  | (key, value) :: rest => by
      intro opened parent done fields done' h
      rw [inferFields] at h
      obtain ⟨⟨type, between⟩, hfield, h⟩ := Outcome.bind_eq_ok.mp h
      obtain ⟨⟨types, last⟩, hrest, h⟩ := Outcome.bind_eq_ok.mp h
      obtain ⟨rfl, rfl⟩ := Prod.mk.inj (Except.ok.inj h)
      have hreferences : ((key, type) :: types).filterMap (fun (_, type) => type.reference?) =
          type.reference?.toList ++ types.filterMap fun (_, type) => type.reference? := by
        cases hreference : type.reference? <;> simp [hreference]
      rw [memberNames, FieldsFresh, hreferences]
      refine ((inferred_field value hfield).trans (inferred_fields rest hrest)).congr ?_
      simp [hfield]

end

/-! ## samples -/

/-- The members of the object that a sample is described by, and whether it is the first item of an
array. -/
def sampled [Libraries] (sample path : String) : Except InferError (List (String × Json) × Bool) :=
  match Libraries.readJson? sample with
  | none => .error .malformed
  | some document =>
      walk path ((Text.splitOn '.' path.toList).filter (!·.isEmpty)) document >>= entryObject

/-- Shapes that are inferred come of the members of the sample. -/
theorem eq_of_infer [Libraries] {sample entry path : String} {shapes : List JsonShape}
    (h : infer sample entry path = .ok shapes) :
    ∃ members isArray fields done, sampled sample path = .ok (members, isArray) ∧
      inferFields (upperCamelCase entry) members [] = .ok (fields, done) ∧
      shapes = done ++ [⟨upperCamelCase entry, isArray, Keyed.collect fields⟩] := by
  rw [infer] at h
  split at h
  · cases h
  · unfold sampled
    cases hdocument : Libraries.readJson? sample with
    | none =>
        rw [hdocument] at h
        cases h
    | some document =>
        rw [hdocument] at h
        obtain ⟨value, hvalue, h⟩ := Outcome.bind_eq_ok.mp h
        obtain ⟨⟨members, isArray⟩, hentry, h⟩ := Outcome.bind_eq_ok.mp h
        obtain ⟨⟨fields, done⟩, hfields, h⟩ := Outcome.bind_eq_ok.mp h
        exact ⟨members, isArray, fields, done, Outcome.bind_eq_ok.mpr ⟨value, hvalue, hentry⟩,
          hfields, (Except.ok.inj h).symm⟩

/-- **Inferred shapes are in the order of their dependencies**, and the entry shape is the last one.
Their names are distinct exactly if each was fresh when it was taken, and surely if the own names of
all objects are distinct; then the declarations of the shapes can be parsed and assembled again. -/
theorem infer_inOrder [Libraries] {sample entry path : String} {shapes : List JsonShape}
    (h : infer sample entry path = .ok shapes) :
    ∃ members isArray, sampled sample path = .ok (members, isArray) ∧
      (∃ inner fields, shapes = inner ++ [⟨upperCamelCase entry, isArray, fields⟩]) ∧
      InOrder shapes ∧
      ((shapes.map JsonShape.name).Nodup ↔
        FieldsFresh [upperCamelCase entry] (upperCamelCase entry) members []) ∧
      ((upperCamelCase entry :: memberNames members).Nodup →
        (shapes.map JsonShape.name).Nodup) ∧
      ((shapes.map JsonShape.name).Nodup → (∀ s ∈ shapes, s.Declarable) →
        ∃ m a, Module.parse (declarations shapes) = .ok m ∧ m.shapes = shapes ∧
          m.assemble {} = .ok a) := by
  obtain ⟨members, isArray, fields, done, hsampled, hfields, rfl⟩ := eq_of_infer h
  have hrun : Inferred [] [] (done ++ [⟨upperCamelCase entry, isArray, Keyed.collect fields⟩]) _
      (upperCamelCase entry :: memberNames members) _ :=
    .object (inferred_fields members hfields) references_collect fun _ => rfl
  have horder := hrun.inOrder inOrder_nil
  have hnodup := hrun.nodup_iff List.nodup_nil
  refine ⟨members, isArray, hsampled, ⟨done, Keyed.collect fields, rfl⟩, horder,
    by simpa using hnodup, fun hnames => (hrun.perm hnames).nodup_iff.mpr hnames, ?_⟩
  intro hnames hshapes
  obtain ⟨a, ha⟩ := horder.assemble hnames
  have hparse := Module.parse_of_scans (scans_declarations hshapes) fun _ hfuel =>
    takes_readModule hshapes hnames hfuel
  exact ⟨_, a, hparse, rfl, ha⟩

/-- A sample in which a key holds objects in two places; the second one is named after its parent as
well. -/
def orders : String :=
  "\x7b\"item\": \x7b\"tag\": \x7b\x7d\x7d, " ++
    "\"past_orders\": [\x7b\"item\": \x7b\"id\": 1\x7d\x7d]\x7d"

/-- The shapes of the sample, with the names that they get. -/
theorem infer_inOrder_orders : ∃ shapes, infer orders "main" "" = .ok shapes ∧
    shapes.map JsonShape.name = ["Tag", "Item", "PastOrdersItem", "PastOrders", "Main"] ∧
    InOrder shapes := by
  have hinfer : infer orders "main" "" = .ok
      [⟨"Tag", false, []⟩, ⟨"Item", false, [("tag", .object "Tag")]⟩,
        ⟨"PastOrdersItem", false, [("id", .scalar .integer)]⟩,
        ⟨"PastOrders", false, [("item", .object "PastOrdersItem")]⟩,
        ⟨"Main", false, [("item", .object "Item"), ("past_orders", .objects "PastOrders")]⟩] := by
    decide +kernel
  obtain ⟨_, _, _, _, horder, _⟩ := infer_inOrder hinfer
  exact ⟨_, hinfer, rfl, horder⟩

/-- An object under a key that spells the name of the entry is named like the entry, and the
declarations cannot be read again. -/
theorem infer_repeats_name : ∃ shapes, infer "\x7b\"main\": \x7b\x7d\x7d" "Main" "" = .ok shapes ∧
    ¬ (shapes.map JsonShape.name).Nodup ∧ (Module.parse (declarations shapes)).isOk = false :=
  ⟨[⟨"Main", false, []⟩, ⟨"Main", false, [("main", .object "Main")]⟩], by decide +kernel⟩

end JsonShape

end Extractor
