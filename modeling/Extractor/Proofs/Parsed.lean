import Extractor.Libraries.Standard
import Extractor.Proofs.BareChain
import Extractor.Proofs.Linking

/-!
# Extractor.Proofs.Parsed

What parsing leaves to the check. The chains of a parsed module are sound, so the
check of the registry, which comes to an end when all parents are declared,
finds no mistake in their steps: only chains without calls, and members that do
not fit the kind of their schema (`Module.parse_leaves_bare`).
-/

namespace Extractor

open Outcome

/-! ## kinds of errors -/

/-- The kinds of errors in the steps of a chain. -/
def CheckKind.ofSteps : List CheckKind :=
  [typeMismatch, selectorSyntax, regexSyntax, formatTemplateMissingSlot, nestedNotLast]

/-- Whether errors of the kind are about how the members of a schema fit, not about steps. -/
def CheckKind.isOfMember : CheckKind → Bool
  | defaultTypeMismatch | hookMissing | hookReturnType | unexpectedField | invalidFieldType
  | jsonifyWithDefault => true
  | _ => false

/-- An error in a schema whose chains are sound. -/
inductive CheckError.Left (fields : List (String × Chain)) (e : CheckError) : Prop
  | member (h : e.cause.kind.isOfMember = true)
  | misplaced (hook : Hook) (hdefault : hook.forbidsDefault = true) (hfield : e.field = hook.name)
      (h : e.cause.kind = .defaultMisplaced)
  | empty (hfield : (e.field, []) ∈ fields) (h : e.cause.kind = .emptyChain)

section Causes

variable {schema field : String} {chain : Chain} {cause : CheckCause} {place : Option Nat}
  {hook : Hook} {kind : SchemaKind}

/-- A default that does not fit is an error of its member. -/
theorem kind_of_defaultCause? (h : (place, cause) ∈ (defaultCause? chain).toList.map (some 0, ·)) :
    cause.kind.isOfMember = true := by
  obtain ⟨other, hcause, heq⟩ := List.mem_map.mp h
  cases heq
  rw [Option.mem_toList, defaultCause?] at hcause
  split at hcause
  · contradiction
  · dsimp only at hcause
    split at hcause
    · cases hcause
      rfl
    · split at hcause
      · contradiction
      · cases hcause
        rfl

theorem kind_of_fieldCauses (h : (place, cause) ∈ fieldCauses kind chain) :
    cause.kind.isOfMember = true := by
  unfold fieldCauses at h
  dsimp only at h
  split at h
  · cases List.mem_singleton.mp h
    rfl
  · split at h
    · cases List.mem_singleton.mp h
      rfl
    · exact kind_of_defaultCause? h

theorem kind_of_hookCauses (h : (place, cause) ∈ hookCauses hook chain) :
    cause.kind.isOfMember = true ∨
      hook.forbidsDefault = true ∧ cause.kind = .defaultMisplaced := by
  rw [hookCauses, List.mem_append] at h
  rcases h with h | h
  · split at h
    · next hdefault =>
        cases List.mem_singleton.mp h
        exact .inr ⟨(Bool.and_eq_true_iff.mp hdefault).1, rfl⟩
    · contradiction
  · left
    split at h
    · contradiction
    · split at h
      · cases List.mem_singleton.mp h
        rfl
      · split at h
        · cases List.mem_singleton.mp h
          rfl
        · split at h
          · contradiction
          · exact kind_of_defaultCause? h

end Causes

namespace Resolved

variable {resolved : Resolved} {chain : Chain}

theorem mem_fields_of_mem_hooks {hook : Hook} (h : (hook, chain) ∈ resolved.hooks) :
    (hook.name, chain) ∈ resolved.fields := by
  rw [hooks, List.mem_filterMap] at h
  obtain ⟨⟨name, other⟩, hmem, hhook⟩ := h
  obtain ⟨found, hfound, heq⟩ := Option.map_eq_some_iff.mp hhook
  cases heq
  have hname : hook.name = name := by simpa using List.find?_some hfound
  exact hname ▸ hmem

end Resolved

/-! ## reports -/

namespace Registry

variable {r : Registry} {name schema field : String} {kind : SchemaKind} {resolved : Resolved}
  {chain : Chain} {causes : List (Option Nat × CheckCause)} {e : CheckError}

/-- Of a sound chain the check says nothing, unless it is empty. -/
theorem mem_memberReport_errors [Libraries] (hsound : chain.Sound)
    (h : e ∈ (r.memberReport schema field chain causes).errors) :
    e.field = field ∧
      (chain = [] ∧ e.cause.kind = .emptyChain ∨ (e.position, e.cause) ∈ causes) := by
  by_cases hempty : chain = []
  · subst hempty
    have he : e ∈ [(⟨schema, field, none, .emptyChain⟩ : CheckError)] := h
    cases List.mem_singleton.mp he
    exact ⟨rfl, .inl ⟨rfl, rfl⟩⟩
  · simp only [memberReport, checkChain_of_sound hsound hempty, List.isEmpty_nil, if_true] at h
    obtain ⟨⟨place, cause⟩, hmem, rfl⟩ := List.mem_map.mp h
    exact ⟨rfl, .inr hmem⟩

/-- **The errors of a schema whose chains are sound.** -/
theorem left_of_mem_report [Libraries] (hsound : ∀ entry ∈ resolved.fields, entry.2.Sound)
    (h : e ∈ (r.report name kind resolved).errors) : e.Left resolved.fields := by
  rw [report, Report.errors_concat, List.mem_flatMap] at h
  obtain ⟨report, hreport, he⟩ := h
  simp only [List.mem_append, List.mem_singleton, List.mem_map, or_assoc] at hreport
  rcases hreport with rfl | ⟨⟨hook, chain⟩, hmem, rfl⟩ | ⟨⟨field, chain⟩, hmem, rfl⟩ | rfl
  · obtain ⟨hook, -, rfl⟩ := List.mem_map.mp he
    exact .member rfl
  · have hfield := Resolved.mem_fields_of_mem_hooks hmem
    rw [hookReport] at he
    split at he
    · obtain ⟨hname, ⟨rfl, hkind⟩ | hcause⟩ := mem_memberReport_errors (hsound _ hfield) he
      · exact .empty (hname ▸ hfield) hkind
      · rcases kind_of_hookCauses hcause with hkind | ⟨hdefault, hkind⟩
        · exact .member hkind
        · exact .misplaced hook hdefault hname hkind
    · contradiction
  · have hfield := List.mem_of_mem_filter hmem
    rw [fieldReport] at he
    split at he
    · obtain ⟨hname, ⟨rfl, hkind⟩ | hcause⟩ := mem_memberReport_errors (hsound _ hfield) he
      · exact .empty (hname ▸ hfield) hkind
      · exact .member (kind_of_fieldCauses hcause)
    · cases List.mem_singleton.mp he
      exact .member rfl
  · contradiction

/-- All parents of schemas are declared. -/
def ParentsDeclared (r : Registry) : Prop :=
  ∀ schema ∈ r.schemas, ∀ parent ∈ schema.parents, parent ∈ r.names

instance (r : Registry) : Decidable r.ParentsDeclared :=
  inferInstanceAs (Decidable (∀ schema ∈ r.schemas, ∀ parent ∈ schema.parents, parent ∈ r.names))

theorem exists_get? (h : name ∈ r.names) : ∃ schema, r.get? name = some schema :=
  Option.isSome_iff_exists.mp (isSome_find?_iff.mpr h)

/-- A visit comes to an end with schemas if every parent is declared. -/
theorem exists_visit (h : r.ParentsDeclared) (kind : SchemaKind) (fuel : Nat) (done : List Schema)
    {schema : Schema} (hschema : schema ∈ r.schemas) :
    ∃ result, r.visit kind fuel done schema = .ok result := by
  induction fuel generalizing done schema with
  | zero => exact ⟨done, rfl⟩
  | succ fuel ih =>
      rw [visit]
      split
      · exact ⟨done, rfl⟩
      · refine exists_foldlM (fun parent hparent done => ?_) _
        obtain ⟨s, hs⟩ := exists_get? (h schema hschema parent hparent)
        have hresolve : r.resolve parent schema.name = .ok s := resolve_eq_ok.mpr hs
        by_cases hkind : s.kind = kind
        · obtain ⟨result, hresult⟩ := ih done (List.mem_of_find?_eq_some hs)
          exact ⟨result, bind_eq_ok.mpr ⟨s, hresolve, by rw [if_pos hkind, hresult]⟩⟩
        · exact ⟨done, bind_eq_ok.mpr ⟨s, hresolve, by rw [if_neg hkind]; rfl⟩⟩

theorem exists_checkSchema [Libraries] (h : r.ParentsDeclared) (hname : name ∈ r.names) :
    ∃ kind resolved, r.linearise name = .ok resolved ∧
      r.checkSchema name = .ok (r.report name kind resolved) := by
  obtain ⟨schema, hschema⟩ := exists_get? hname
  have hresolve : r.resolve name name = .ok schema := resolve_eq_ok.mpr hschema
  obtain ⟨lineage, hlineage⟩ := exists_visit h schema.kind (r.schemas.length + 1) []
    (List.mem_of_find?_eq_some hschema)
  have hlinearise : r.linearise name = .ok (.ofLineage lineage) :=
    bind_eq_ok.mpr ⟨lineage, bind_eq_ok.mpr ⟨schema, hresolve, hlineage⟩, rfl⟩
  exact ⟨schema.kind, _, hlinearise,
    bind_eq_ok.mpr ⟨schema, hresolve, bind_eq_ok.mpr ⟨_, hlinearise, rfl⟩⟩⟩

/-- Where all parents are declared there is a report, and its errors are those of the schemas. -/
theorem exists_check [Libraries] (h : r.ParentsDeclared) : ∃ report, r.check = .ok report ∧
    ∀ e ∈ report.errors, ∃ name kind resolved, r.linearise name = .ok resolved ∧
      e ∈ (r.report name kind resolved).errors := by
  obtain ⟨reports, hreports, hschemas⟩ := exists_mapM (l := r.names)
    (P := fun report => ∃ name kind resolved, r.linearise name = .ok resolved ∧
      report = r.report name kind resolved)
    fun name hname => by
      obtain ⟨kind, resolved, hresolved, hcheck⟩ := exists_checkSchema h hname
      exact ⟨_, hcheck, name, kind, resolved, hresolved, rfl⟩
  refine ⟨.concat reports, bind_eq_ok.mpr ⟨reports, hreports, rfl⟩, fun e he => ?_⟩
  rw [Report.errors_concat, List.mem_flatMap] at he
  obtain ⟨report, hreport, he⟩ := he
  obtain ⟨name, kind, resolved, hresolved, rfl⟩ := hschemas report hreport
  exact ⟨name, kind, resolved, hresolved, he⟩

end Registry

namespace Module

/-- The tokens of a source. -/
def tokensOf [Libraries] (source : String) : List Token :=
  (Lexed.ofString source).lexemes.map Lexeme.token

/-- **Of the mistakes in chains, parsing leaves none to the check but chains without calls.** -/
theorem parse_leaves_bare [Libraries] (source : String) (m : Module)
    (h : Module.parse source = .ok m) (hparents : m.registry.ParentsDeclared) :
    (∀ schema ∈ m.registry.schemas, ∀ name chain, (name, some chain) ∈ schema.members →
      (∀ owner field, checkChain owner field chain = []) ∨
        chain = [] ∧ Declaration.DeclaresBare (tokensOf source) name) ∧
    ∃ report, m.registry.check = .ok report ∧ ∀ e ∈ report.errors,
      e.cause.kind ∉ CheckKind.ofSteps ∧
      (e.cause.kind = .defaultMisplaced →
        e.field = Hook.preValidate.name ∨ e.field = Hook.splitDoc.name) ∧
      (e.cause.kind = .emptyChain → Declaration.DeclaresBare (tokensOf source) e.field) := by
  have hdeclared := parse_declared h
  have hempty := parse_emptyDeclared h
  obtain ⟨report, hcheck, herrors⟩ := Registry.exists_check hparents
  refine ⟨fun schema hschema name chain hmem => ?_, report, hcheck, fun e he => ?_⟩
  · by_cases hchain : chain = []
    · subst hchain
      exact .inr ⟨rfl, hempty schema hschema name hmem⟩
    · have hsound := hdeclared.sound schema hschema name chain hmem
      exact .inl fun owner field => checkChain_of_sound hsound hchain
  · obtain ⟨name, kind, resolved, hresolved, he⟩ := herrors e he
    have hleft := Registry.left_of_mem_report
      (fun entry hentry => hdeclared.sound_of_linearise hresolved hentry) he
    cases hleft with
    | member hkind =>
        revert hkind
        generalize e.cause.kind = kind
        cases kind <;> simp [CheckKind.isOfMember, CheckKind.ofSteps]
    | misplaced hook hdefault hfield hkind =>
        rw [hkind, hfield]
        refine ⟨by decide, fun _ => ?_, nofun⟩
        cases hook <;> first | contradiction | simp
    | empty hfield hkind =>
        obtain ⟨schema, hschema, hmem⟩ := Registry.exists_member_of_linearise hresolved hfield
        rw [hkind]
        exact ⟨by decide, nofun, fun _ => hempty schema hschema e.field hmem⟩

/-- Declarations with a bare document, a default in front of a split, and a field that gives
elements. -/
def drafts : String :=
  "schema Base : list \x7b __SPLIT_DOC__ = D().default(null).css_all(\"li\") \x7d " ++
  "schema Rows : list extends Base \x7b title = D() link = D().css(\"a\") \x7d"

/-- The errors that are left in these drafts when they have been parsed. -/
theorem parse_leaves_bare_drafts :
    ∃ m report, Module.parse drafts = .ok m ∧ m.registry.ParentsDeclared ∧
      m.registry.check = .ok report ∧
      report.errors.map (fun e => (e.schema, e.field, e.cause.kind)) =
        [("Base", "__SPLIT_DOC__", .defaultMisplaced), ("Rows", "__SPLIT_DOC__", .defaultMisplaced),
          ("Rows", "title", .emptyChain), ("Rows", "link", .invalidFieldType)] ∧
      (∀ e ∈ report.errors, e.cause.kind ∉ CheckKind.ofSteps) ∧
      Declaration.DeclaresBare (tokensOf drafts) "title" := by
  have hrun : (match Module.parse drafts with
      | .ok m =>
          match m.registry.check with
          | .ok report => some (decide m.registry.ParentsDeclared,
              report.errors.map fun e => (e.schema, e.field, e.cause.kind))
          | .error _ => none
      | .error _ => none) = some (true,
        [("Base", "__SPLIT_DOC__", .defaultMisplaced), ("Rows", "__SPLIT_DOC__", .defaultMisplaced),
          ("Rows", "title", .emptyChain), ("Rows", "link", .invalidFieldType)]) := by
    decide +kernel
  cases hparse : Module.parse drafts with
  | error e => simp [hparse] at hrun
  | ok m =>
      cases hcheck : m.registry.check with
      | error e => simp [hparse, hcheck] at hrun
      | ok report =>
          simp only [hparse, hcheck, Option.some.injEq, Prod.mk.injEq, decide_eq_true_eq] at hrun
          obtain ⟨hparents, herrors⟩ := hrun
          obtain ⟨-, other, hother, hleft⟩ := parse_leaves_bare drafts m hparse hparents
          obtain rfl : other = report := Except.ok.inj (hother.symm.trans hcheck)
          have htitle : ("Rows", "title", CheckKind.emptyChain) ∈
              other.errors.map fun e => (e.schema, e.field, e.cause.kind) := by simp [herrors]
          obtain ⟨e, he, heq⟩ := List.mem_map.mp htitle
          simp only [Prod.mk.injEq] at heq
          exact ⟨m, other, rfl, hparents, hcheck, herrors, fun e he => (hleft e he).1,
            heq.2.1 ▸ (hleft e he).2.2 heq.2.2⟩

end Module

end Extractor
