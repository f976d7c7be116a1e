import Extractor.Libraries.Standard
import Extractor.Proofs.Linking

/-!
# Extractor.Proofs.Fields

The way of a declared member into the program. A member passes through
inheritance, where only names of fields are let through and the nearest
declaration counts (`Resolved.lookup_fields`), and then becomes a function of the
parser and a field of the result type. So a field that a schema declares itself
is never replaced or lost (`Module.assemble_keeps_fields`), unless its name
starts with an underscore: such a member goes nowhere, and nothing is said about
it (`Module.assemble_drops_note`).
-/

namespace Extractor

open Outcome

/-! ## named things -/

namespace Keyed

variable {α β : Type} {key : String}

/-- Looking up commutes with dropping names and with changing what is named. -/
theorem lookup_filter {p : String → Bool} (l : List (String × α)) :
    (l.filter fun entry => p entry.1).lookup key = if p key then l.lookup key else none := by
  induction l with
  | nil => simp
  | cons entry l ih =>
      by_cases hkey : key = entry.1
      · subst hkey
        cases hp : p entry.1 <;> grind
      · cases hp : p entry.1 <;> grind

theorem lookup_map {g : α → β} (l : List (String × α)) :
    (l.map fun entry => (entry.1, g entry.2)).lookup key = (l.lookup key).map g := by
  induction l with
  | nil => rfl
  | cons entry l ih =>
      rw [List.map_cons, List.lookup_cons, List.lookup_cons, ih]
      split <;> rfl

/-- Things that carry their names are found by them. -/
theorem find?_map {g : String → α → β} {name : β → String} (hname : ∀ k v, name (g k v) = k)
    (l : List (String × α)) :
    (l.map fun entry => g entry.1 entry.2).find? (name · == key) = (l.lookup key).map (g key) := by
  induction l with
  | nil => rfl
  | cons entry l ih =>
      rw [List.map_cons, List.find?_cons, List.lookup_cons, hname, ih, BEq.comm]
      split
      · next heq => rw [eq_of_beq heq]; rfl
      · rfl

/-- Leaving out what comes later under a name does not change what is found. -/
theorem lookup_firsts (l : List (String × α)) : (firsts l).lookup key = l.lookup key := by
  induction l with
  | nil => rfl
  | cons entry l ih =>
      obtain ⟨k, v⟩ := entry
      rw [firsts, List.lookup_cons, List.lookup_cons, lookup_filter (p := (decide <| · ≠ k)), ih]
      by_cases hkey : key = k <;> simp [hkey]

/-- The first entries have distinct names. -/
theorem nodup_firsts (l : List (String × α)) : ((firsts l).map Prod.fst).Nodup := by
  induction l with
  | nil => exact List.nodup_nil
  | cons entry l ih =>
      rw [firsts, List.map_cons, List.nodup_cons]
      exact ⟨by simp, ih.sublist (List.filter_sublist.map _)⟩

/-- Where a name comes once, what it has is found when the names that have nothing are left out. -/
theorem lookup_filterMap {l : List (String × Option α)} (h : (l.map Prod.fst).Nodup) :
    (l.filterMap fun entry => entry.2.map (entry.1, ·)).lookup key = (l.lookup key).join := by
  induction l with
  | nil => rfl
  | cons entry l ih =>
      obtain ⟨k, v⟩ := entry
      rw [List.map_cons, List.nodup_cons] at h
      rw [List.filterMap_cons, List.lookup_cons]
      cases v with
      | some v =>
          rw [Option.map_some, List.lookup_cons, ih h.2]
          cases key == k <;> rfl
      | none =>
          rw [Option.map_none, ih h.2]
          split
          · next heq =>
              have hnone : l.lookup key = none := by
                rw [List.lookup_eq_none_iff]
                intro entry hentry
                have hne : key ≠ entry.1 := by
                  rw [eq_of_beq heq]
                  exact fun he => h.1 (List.mem_map.mpr ⟨entry, hentry, he.symm⟩)
                simpa using hne
              rw [hnone]
              rfl
          · rfl

end Keyed

/-! ## inheritance -/

/-- Whether a name starts with two underscores, as those of hooks do. -/
def Schema.IsDunder (name : String) : Prop := ['_', '_'] <+: name.toList

instance (name : String) : Decidable (Schema.IsDunder name) :=
  inferInstanceAs (Decidable (['_', '_'] <+: name.toList))

/-- The names of hooks start with two underscores. -/
theorem Hook.isDunder_of_ofName? {name : String} {hook : Hook} (h : Hook.ofName? name = some hook) :
    Schema.IsDunder name := by
  have hname : hook.name = name := by simpa using List.find?_some h
  rw [← hname, Schema.IsDunder]
  cases hook <;> decide

theorem Hook.ofName?_of_not_isDunder {name : String} (h : ¬Schema.IsDunder name) :
    Hook.ofName? name = none := by
  by_contra hsome
  obtain ⟨hook, hhook⟩ := Option.ne_none_iff_exists'.mp hsome
  exact h (isDunder_of_ofName? hhook)

/-- Of names without two underscores in front, those without any are fields. -/
theorem Schema.isFieldName_eq {name : String} (h : ¬IsDunder name) :
    isFieldName name = decide (name.toList.head? ≠ some '_') := by
  rw [isFieldName, Hook.ofName?_of_not_isDunder h]
  rfl

namespace Resolved

/-- What a lineage has under the name of a field is what its nearest schema with such a member
declares. -/
theorem lookup_fields (lineage : List Schema) (name : String) :
    (ofLineage lineage).fields.lookup name =
      if Schema.isFieldName name then ((lineage.flatMap Schema.members).lookup name).join
      else none := by
  simp only [ofLineage]
  rw [Keyed.lookup_filterMap (Keyed.nodup_firsts _), Keyed.lookup_firsts, Keyed.lookup_filter]
  split <;> rfl

theorem lookup_named (resolved : Resolved) (name : String) :
    resolved.named.lookup name =
      if (Hook.ofName? name).isNone then resolved.fields.lookup name else none :=
  Keyed.lookup_filter (p := fun name => (Hook.ofName? name).isNone) resolved.fields

end Resolved

namespace Registry

variable {r : Registry} {name : String} {kind : SchemaKind} {schema : Schema}

/-- Following parents keeps the schemas that are done, if visiting one does. -/
theorem foldlM_grows {fuel : Nat} {start result : List Schema} {parents : List String}
    (hvisit : ∀ {done result schema}, r.visit kind fuel done schema = .ok result → done <+: result)
    (h : parents.foldlM (fun done parent => do
      let parent ← r.resolve parent name
      if parent.kind = kind then r.visit kind fuel done parent else return done) start =
        .ok result) : start <+: result := by
  refine foldlM_preserves (P := fun l => start <+: l) ?_ (List.prefix_refl start) h
  intro parent _ before after hbefore hstep
  rw [bind_eq_ok] at hstep
  obtain ⟨s, -, hstep⟩ := hstep
  split at hstep
  · exact hbefore.trans (hvisit hstep)
  · exact pure_eq_ok.mp hstep ▸ hbefore

/-- Ancestors are added behind those that are there. -/
theorem visit_grows {fuel : Nat} {done result : List Schema}
    (h : r.visit kind fuel done schema = .ok result) : done <+: result := by
  induction fuel generalizing done result schema with
  | zero =>
      cases h
      exact List.prefix_refl done
  | succ fuel ih =>
      rw [visit] at h
      split at h
      · cases h
        exact List.prefix_refl done
      · exact (List.prefix_append done [schema]).trans (foldlM_grows ih h)

/-- A lineage starts with the schema itself. -/
theorem lineage_eq_cons {lineage : List Schema} (hget : r.get? name = some schema)
    (h : r.lineage name = .ok lineage) : ∃ ancestors, lineage = schema :: ancestors := by
  rw [Registry.lineage, bind_eq_ok] at h
  obtain ⟨root, hroot, h⟩ := h
  obtain rfl : schema = root := Option.some.inj (hget.symm.trans (resolve_eq_ok.mp hroot))
  rw [visit, if_neg (by simp)] at h
  obtain ⟨ancestors, rfl⟩ := foldlM_grows visit_grows h
  exact ⟨ancestors, rfl⟩

/-- What a schema declares itself under the name of a field is what it comes to. -/
theorem lookup_linearise {resolved : Resolved} {field : String} {chain? : Option Chain}
    (hget : r.get? name = some schema) (h : r.linearise name = .ok resolved)
    (hmember : schema.members.lookup field = some chain?) :
    resolved.fields.lookup field = if Schema.isFieldName field then chain? else none := by
  rw [linearise, bind_eq_ok] at h
  obtain ⟨lineage, hlineage, h⟩ := h
  obtain rfl := pure_eq_ok.mp h
  obtain ⟨ancestors, rfl⟩ := lineage_eq_cons hget hlineage
  rw [Resolved.lookup_fields, List.flatMap_cons, List.lookup_append, hmember]
  rfl

end Registry

/-! ## fields of programs -/

/-- The name and the function of a field. -/
def ParserMember.field? : ParserMember → Option (String × FunctionBody)
  | .field name body => some (name, body)
  | _ => none

/-- Hooks are no named fields. -/
theorem hookMembers_field? {kind : SchemaKind} {resolved : Resolved} :
    (hookMembers kind resolved).filterMap ParserMember.field? = [] := by
  rw [hookMembers, List.filterMap_filterMap, List.filterMap_eq_nil_iff]
  intro hook _
  cases resolved.hook? hook <;> rfl

/-- The fields of a lowered schema are its named fields, if the kind has any. -/
theorem lowerSchema_fields {name : String} {kind : SchemaKind} {resolved : Resolved}
    (hkind : kind.hasNamedFields = true) :
    (lowerSchema name kind resolved).fields =
      resolved.named.map fun entry => (entry.1, lowerChain entry.2 true) := by
  have hnamed : (namedMembers kind resolved).filterMap ParserMember.field? =
      resolved.named.map fun entry => (entry.1, lowerChain entry.2 true) := by
    rw [namedMembers, if_pos hkind, List.filterMap_map, ← List.filterMap_eq_map]
    rfl
  have hfields : (lowerSchema name kind resolved).fields =
      (lowerSchema name kind resolved).members.filterMap ParserMember.field? := rfl
  rw [hfields, lowerSchema, List.filterMap_append, List.filterMap_append, List.filterMap_append,
    hnamed, hookMembers_field?]
  exact List.append_nil _

namespace Module

variable {m : Module} {o : Options} {p : Program} {a : Assembled} {order shapeOrder : List String}
  {name field : String} {parser : Parser} {kind : SchemaKind} {resolved : Resolved}

theorem linkMember_field? (member : ParserMember) :
    (m.linkMember order member).field? =
      member.field?.map fun entry => (entry.1, m.linkBody order entry.2) := by
  cases member <;> rfl

/-- A field of a parser is that of its schema, converted, lowered and linked. -/
theorem field?_eq [Libraries] (hkind : kind.hasNamedFields = true)
    (hmembers : parser.members = (lowerSchema name kind (resolved.mapSteps o.rewrite)).members.map
      (m.linkMember order)) :
    parser.field? field = (resolved.named.lookup field).map fun chain =>
      m.linkBody order (lowerChain (chain.map o.rewrite) true) := by
  have hfields : parser.fields = (lowerSchema name kind (resolved.mapSteps o.rewrite)).fields.map
      fun entry => (entry.1, m.linkBody order entry.2) := by
    have hlink : ParserMember.field? ∘ m.linkMember order =
        fun member => member.field?.map fun entry => (entry.1, m.linkBody order entry.2) :=
      funext linkMember_field?
    have hparser : parser.fields = parser.members.filterMap ParserMember.field? := rfl
    rw [hparser, hmembers, List.filterMap_map, hlink, ← List.map_filterMap]
    rfl
  rw [Parser.field?, hfields, lowerSchema_fields hkind, Resolved.named_mapSteps, Keyed.lookup_map,
    Keyed.lookup_map (g := (lowerChain · true)), Keyed.lookup_map (g := List.map o.rewrite),
    Option.map_map, Option.map_map]
  rfl

/-- A field of a record is that of the schema, converted and linked. -/
theorem resultType_field?_eq [Libraries] {r : Registry} {shapes : Shapes}
    (hkind : kind.hasNamedFields = true) :
    (linkType order ⟨name, kind,
        r.resultShape shapes kind (resolved.mapSteps o.rewrite)⟩).field? field =
      (resolved.named.lookup field).map fun chain =>
        linkField order (r.fieldType shapes field (chain.map o.rewrite)) := by
  have hfields : (linkType order ⟨name, kind,
      r.resultShape shapes kind (resolved.mapSteps o.rewrite)⟩).shape.fields =
        resolved.named.map fun entry =>
          linkField order (r.fieldType shapes entry.1 (entry.2.map o.rewrite)) := by
    rw [linkType, ResultShape.fields_mapFields]
    cases kind with
    | item | list | accUniqueList =>
        rw [Registry.resultShape, ResultShape.fields, Resolved.named_mapSteps, List.map_map,
          List.map_map]
        rfl
    | dict | flatList => contradiction
  rw [ResultType.field?, hfields]
  exact Keyed.find?_map (g := fun field (chain : Chain) =>
    linkField order (r.fieldType shapes field (chain.map o.rewrite))) (fun _ _ => rfl) _

namespace Stages

variable [Libraries]

variable (h : Stages m o p order shapeOrder)

include h

/-- Every schema of the module is in its order. -/
theorem mem_order {schema : Schema} (hget : m.registry.get? name = some schema) : name ∈ order := by
  obtain ⟨edges, hedges, horder⟩ := h.exists_edges
  refine (Dependencies.order_ordered horder).2 name ?_
  rw [(schemaEdges_eq_ok hedges).1]
  exact Registry.mem_names_of_get? hget

/-- Every schema has its parser. -/
theorem parser?_eq_some {schema : Schema} (hget : m.registry.get? name = some schema) :
    ∃ parser, p.parser? name = some parser ∧
      m.linkedParser o (m.registry.mapSteps o.rewrite) order name = .ok parser := by
  have hsome : (p.parser? name).isSome = true := by
    rw [Program.parser?, isSome_find?_iff, h.parsers_names]
    exact h.mem_order hget
  obtain ⟨parser, hparser⟩ := Option.isSome_iff_exists.mp hsome
  obtain ⟨other, -, hlinked⟩ := exists_left h.parsers (List.mem_of_find?_eq_some hparser)
  obtain ⟨_, _, _, _, hname, _⟩ := linkedParser_eq_ok hlinked
  obtain rfl : other = name := hname.symm.trans (by simpa using List.find?_some hparser)
  exact ⟨parser, hparser, hlinked⟩

/-- Every schema has the type of its result. -/
theorem resultType?_eq_some {schema : Schema} (hget : m.registry.get? name = some schema) :
    ∃ plain, p.resultType? name = some (linkType order plain) ∧
      (m.registry.mapSteps o.rewrite).resultType m.shapes name = .ok plain := by
  have hsome : (p.resultType? name).isSome = true := by
    rw [Program.resultType?, isSome_find?_iff, h.types_names]
    exact h.mem_order hget
  obtain ⟨type, htype⟩ := Option.isSome_iff_exists.mp hsome
  obtain ⟨other, -, plain, hplain, rfl⟩ := exists_left h.types (List.mem_of_find?_eq_some htype)
  obtain ⟨_, _, _, _, rfl⟩ := resultType_eq_ok hplain
  have hname := List.find?_some htype
  obtain rfl : other = name := eq_of_beq hname
  exact ⟨_, htype, hplain⟩

end Stages

/-- **No declared field is lost, but for those with an underscore in front.** Of a schema with named
fields, a member that it declares as a chain under a name without two underscores in front has its
function, lowered from that chain, and its field in the result, unless the name starts with one
underscore; then it has neither. -/
theorem assemble_keeps_fields [Libraries] (m : Module) (o : Options) (a : Assembled)
    (h : m.assemble o = .ok a) (schema : Schema)
    (hschema : m.registry.get? schema.name = some schema)
    (hkind : schema.kind.hasNamedFields = true) (name : String) (hname : ¬Schema.IsDunder name)
    (chain : Chain) (hmember : schema.members.lookup name = some (some chain)) :
    ∃ parser type, a.program.parser? schema.name = some parser ∧
      a.program.resultType? schema.name = some type ∧
      if name.toList.head? = some '_' then parser.field? name = none ∧ type.field? name = none
      else
        parser.field? name = some (m.linkBody (a.program.parsers.map Parser.name)
          (lowerChain (chain.map o.rewrite) true)) ∧
        ∃ field, type.field? name = some field ∧ field.returns = chain.cursor := by
  obtain ⟨order, shapeOrder, hstages⟩ := assemble_stages h
  obtain ⟨parser, hparser, hlinked⟩ := hstages.parser?_eq_some hschema
  obtain ⟨plain, htype, hplain⟩ := hstages.resultType?_eq_some hschema
  obtain ⟨s, resolved, hs, hresolved, -, -, hmembers⟩ := linkedParser_eq_ok hlinked
  obtain rfl : schema = s := Option.some.inj (hschema.symm.trans hs)
  obtain ⟨t, other, ht, hother, rfl⟩ := resultType_eq_ok hplain
  obtain rfl : schema = t := Option.some.inj (hschema.symm.trans ht)
  obtain rfl : resolved = other := Except.ok.inj (hresolved.symm.trans hother)
  have hlookup : resolved.named.lookup name =
      if name.toList.head? = some '_' then none else some chain := by
    rw [Resolved.lookup_named, Hook.ofName?_of_not_isDunder hname,
      Registry.lookup_linearise hschema hresolved hmember, Schema.isFieldName_eq hname]
    simp
  refine ⟨parser, _, hparser, htype, ?_⟩
  rw [field?_eq hkind hmembers, resultType_field?_eq hkind, hlookup, hstages.parsers_names]
  split
  · exact ⟨rfl, rfl⟩
  · exact ⟨rfl, _, rfl, Chain.cursor_map o.rewrites⟩

/-- The text of the first element that a query finds. -/
def textOf (query : String) : Chain :=
  [.plain (.select .css query) .document .document, .plain .text .document .string]

/-- A record that inherits from another one, with a title and a note of its own. -/
def noteCard : Schema :=
  { Schema.ofKind "NoteCard" .item with
    parents := ["Card"]
    members := [("title", some (textOf "h2")), ("_note", some (textOf "p"))] }

/-- The record with the one that it inherits from. -/
def cards : Module where
  docstring := none
  registry := ⟨[{ Schema.ofKind "Card" .item with members := [("title", some (textOf "h1"))] },
    noteCard]⟩
  shapes := []

/-- A record with a title of its own, with its query converted. -/
theorem assemble_keeps_fields_title :
    ∃ a parser type, cards.assemble { cssToXPath := true } = .ok a ∧
      a.program.parser? "NoteCard" = some parser ∧ a.program.resultType? "NoteCard" = some type ∧
      parser.field? "title" = some (cards.linkBody (a.program.parsers.map Parser.name)
        (lowerChain ((textOf "h2").map (Options.rewrite { cssToXPath := true })) true)) ∧
      ∃ field, type.field? "title" = some field ∧ field.returns = .string := by
  have hok : (cards.assemble { cssToXPath := true }).toBool = true := by decide +kernel
  cases h : cards.assemble { cssToXPath := true } with
  | error e =>
      rw [h] at hok
      contradiction
  | ok a =>
      obtain ⟨parser, type, hparser, htype, hfield⟩ := assemble_keeps_fields cards _ a h
        noteCard rfl rfl "title" (by decide) (textOf "h2") rfl
      exact ⟨a, parser, type, rfl, hparser, htype, hfield⟩

/-- The note is declared as a chain, but it is neither a function of the parser nor a field of the
result, and there is no warning. -/
theorem assemble_drops_note :
    ∃ a parser type, cards.assemble {} = .ok a ∧ a.warnings = [] ∧
      cards.registry.get? "NoteCard" = some noteCard ∧ noteCard.kind = .item ∧
      ¬Schema.IsDunder "_note" ∧ noteCard.members.lookup "_note" = some (some (textOf "p")) ∧
      a.program.parser? "NoteCard" = some parser ∧ parser.field? "_note" = none ∧
      a.program.resultType? "NoteCard" = some type ∧ type.field? "_note" = none := by
  have hrun : ((cards.assemble {}).map fun a => (a.warnings,
      (a.program.parser? "NoteCard").map fun parser => (parser.field? "_note").isNone,
      (a.program.resultType? "NoteCard").map fun type => (type.field? "_note").isNone)).toOption =
        some ([], some true, some true) := by decide +kernel
  cases h : cards.assemble {} with
  | error e =>
      rw [h] at hrun
      contradiction
  | ok a =>
      rw [h] at hrun
      simp only [Except.map, Except.toOption, Option.some.injEq, Prod.mk.injEq,
        Option.map_eq_some_iff, Option.isNone_iff_eq_none] at hrun
      obtain ⟨hwarnings, ⟨parser, hparser, hfunction⟩, type, htype, hfield⟩ := hrun
      exact ⟨a, parser, type, rfl, hwarnings, rfl, rfl, by decide, rfl, hparser, hfunction, htype,
        hfield⟩

end Module

end Extractor
