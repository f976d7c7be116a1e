import Extractor.Proofs.Fields
import Mathlib.Data.List.Perm.Subperm
import Mathlib.Logic.Relation

/-!
# Extractor.Proofs.Inheritance

What a schema inherits, said without the walk that finds it. A schema inherits
from the schemas that are reached through parents of its own kind (`Ancestor`),
whether the ways to them meet again or go round in circles. The walk over
parents is told by `Walk`, where nothing bounds its depth; the bounded walk
never meets its bound (`walk_follow`). So a lineage is what is reached, each
schema once, unless a parent is not declared on the way, and the fields come
from the first schema of the lineage that declares them
(`Registry.linearise_inherits`).
-/

namespace Extractor

open Outcome

namespace Registry

/-! ## ancestors -/

/-- A schema lists another one of the kind among its parents. -/
def Inherits (r : Registry) (kind : SchemaKind) (s t : Schema) : Prop :=
  ∃ parent ∈ s.parents, r.get? parent = some t ∧ t.kind = kind

/-- A schema is reached from another one through parents of the kind. -/
def Ancestor (r : Registry) (kind : SchemaKind) : Schema → Schema → Prop :=
  Relation.ReflTransGen (r.Inherits kind)

/-- Some schema that is reached lists a parent that is not declared. -/
def Broken (r : Registry) (root : Schema) : Prop :=
  ∃ s, r.Ancestor root.kind root s ∧ ∃ parent ∈ s.parents, r.get? parent = none

/-! ## the walk -/

/-- A schema is of the kind and was not met before. -/
def Enters (kind : SchemaKind) (done : List Schema) (s : Schema) : Prop :=
  s.kind = kind ∧ s.name ∉ done.map Schema.name

/-- The walk over the parents of a schema and what they lead to, to whatever depth. It starts with
the schemas that are done and ends with more of them, or at a parent that is not declared. -/
inductive Walk (r : Registry) (kind : SchemaKind) :
    List Schema → String → List String → Except AssembleError (List Schema) → Prop
  | finished {done referrer} : Walk r kind done referrer [] (.ok done)
  | unknown {done referrer parent parents} (hparent : r.get? parent = none) :
      Walk r kind done referrer (parent :: parents) (.error (.unknownSchema parent referrer))
  | passed {done referrer parent parents s outcome} (hparent : r.get? parent = some s)
      (hpassed : ¬Enters kind done s) (hrest : Walk r kind done referrer parents outcome) :
      Walk r kind done referrer (parent :: parents) outcome
  | failed {done referrer parent parents s e} (hparent : r.get? parent = some s)
      (henters : Enters kind done s)
      (hinner : Walk r kind (done ++ [s]) s.name s.parents (.error e)) :
      Walk r kind done referrer (parent :: parents) (.error e)
  | entered {done referrer parent parents s next outcome} (hparent : r.get? parent = some s)
      (henters : Enters kind done s)
      (hinner : Walk r kind (done ++ [s]) s.name s.parents (.ok next))
      (hrest : Walk r kind next referrer parents outcome) :
      Walk r kind done referrer (parent :: parents) outcome

variable {r : Registry} {kind : SchemaKind} {done next : List Schema} {name referrer : String}
  {parents : List String} {outcome : Except AssembleError (List Schema)}

/-- A walk has one outcome. -/
theorem Walk.unique {outcome' : Except AssembleError (List Schema)}
    (h : Walk r kind done referrer parents outcome)
    (h' : Walk r kind done referrer parents outcome') : outcome = outcome' := by
  induction h generalizing outcome' with
  | finished =>
      cases h'
      rfl
  | unknown hparent => cases h' <;> simp_all
  | passed hparent hpassed hrest ih =>
      cases h' with
      | unknown hother => simp_all
      | passed hother _ hrest' => exact ih hrest'
      | failed hother henters _ => simp_all
      | entered hother henters _ _ => simp_all
  | failed hparent henters hinner ih =>
      cases h' with
      | unknown hother => simp_all
      | passed hother hpassed _ => simp_all
      | failed hother _ hinner' =>
          obtain rfl := Option.some.inj (hparent.symm.trans hother)
          exact ih hinner'
      | entered hother _ hinner' _ =>
          obtain rfl := Option.some.inj (hparent.symm.trans hother)
          cases ih hinner'
  | entered hparent henters hinner hrest ihinner ihrest =>
      cases h' with
      | unknown hother => simp_all
      | passed hother hpassed _ => simp_all
      | failed hother _ hinner' =>
          obtain rfl := Option.some.inj (hparent.symm.trans hother)
          cases ihinner hinner'
      | entered hother _ hinner' hrest' =>
          obtain rfl := Option.some.inj (hparent.symm.trans hother)
          cases ihinner hinner'
          exact ihrest hrest'

/-- Schemas of the registry, each once. -/
structure Known (r : Registry) (done : List Schema) : Prop where
  nodup : (done.map Schema.name).Nodup
  found : ∀ s ∈ done, r.get? s.name = some s

theorem name_of_get? {s : Schema} (h : r.get? name = some s) : s.name = name := by
  simpa using List.find?_some h

namespace Known

/-- There are no more known schemas than declared ones. -/
theorem length_le (h : r.Known done) : done.length ≤ r.schemas.length := by
  have hsubset : done.map Schema.name ⊆ r.names := by
    intro name hname
    obtain ⟨s, hs, rfl⟩ := List.mem_map.mp hname
    exact mem_names_of_get? (h.found s hs)
  have hle := (h.nodup.subperm hsubset).length_le
  simpa [names] using hle

/-- A schema that enters makes one more known schema. -/
theorem append {s : Schema} (h : r.Known done) (hs : r.get? name = some s)
    (henters : Enters kind done s) : r.Known (done ++ [s]) where
  nodup := by
    rw [List.map_append, List.map_singleton, List.nodup_append]
    refine ⟨h.nodup, List.nodup_singleton _, ?_⟩
    rintro a ha b hb rfl
    exact henters.2 (List.mem_singleton.mp hb ▸ ha)
  found t ht := by
    rcases List.mem_append.mp ht with ht | ht
    · exact h.found t ht
    · rw [List.mem_singleton.mp ht, name_of_get? hs, hs]

/-- What was met before under its name is the schema of that name. -/
theorem mem_of_name {s : Schema} (h : r.Known done) (hs : r.get? name = some s)
    (hname : s.name ∈ done.map Schema.name) : s ∈ done := by
  obtain ⟨t, ht, hst⟩ := List.mem_map.mp hname
  have hfound := h.found t ht
  rw [hst, name_of_get? hs, hs] at hfound
  exact Option.some.inj hfound ▸ ht

end Known

/-- The walk over parents within a bound on its depth. -/
def follow (r : Registry) (kind : SchemaKind) (fuel : Nat) (referrer : String)
    (done : List Schema) (parents : List String) : Except AssembleError (List Schema) :=
  parents.foldlM
    (fun done name => do
      let parent ← r.resolve name referrer
      if parent.kind = kind then r.visit kind fuel done parent else return done)
    done

/-- The walk takes the parents one by one. -/
theorem follow_cons {fuel : Nat} {parent : String} :
    r.follow kind fuel referrer done (parent :: parents) = (do
      let s ← r.resolve parent referrer
      let next ← (if s.kind = kind then r.visit kind fuel done s else pure done)
      r.follow kind fuel referrer next parents) := by
  rw [follow, List.foldlM_cons]
  cases r.resolve parent referrer <;> rfl

/-- A visit walks over the parents of a schema that was not met before. -/
theorem visit_succ {fuel : Nat} {s : Schema} : r.visit kind (fuel + 1) done s =
    if s.name ∈ done.map Schema.name then .ok done
    else r.follow kind fuel s.name (done ++ [s]) s.parents := by
  have hmet : done.any (·.name == s.name) = true ↔ s.name ∈ done.map Schema.name := by
    simp [List.any_eq_true, List.mem_map]
  rw [visit]
  by_cases hname : s.name ∈ done.map Schema.name
  · rw [if_pos hname, if_pos (hmet.mpr hname)]
  · rw [if_neg hname, if_neg (fun h => hname (hmet.mp h))]
    rfl

/-- Along a walk the schemas stay known, and those that are done stay in front. -/
theorem Walk.known (h : Walk r kind done referrer parents outcome) (hdone : r.Known done) :
    ∀ next, outcome = .ok next → r.Known next ∧ done <+: next := by
  induction h with
  | finished =>
      rintro next hnext
      cases hnext
      exact ⟨hdone, List.prefix_refl _⟩
  | unknown _ => simp
  | passed _ _ _ ih => exact ih hdone
  | failed _ _ _ _ => simp
  | entered hparent henters _ _ ihinner ihrest =>
      intro last hlast
      obtain ⟨hnext, hinner⟩ := ihinner (hdone.append hparent henters) _ rfl
      obtain ⟨hlast, hrest⟩ := ihrest hnext last hlast
      exact ⟨hlast, (List.prefix_append _ _).trans (hinner.trans hrest)⟩

/-- **A bound that leaves room for every schema is never met.** -/
theorem walk_follow {fuel : Nat} (hdone : r.Known done)
    (hfuel : r.schemas.length ≤ fuel + done.length) :
    Walk r kind done referrer parents (r.follow kind fuel referrer done parents) := by
  -- The schemas that are done grow as the bound shrinks, and there are no more of them than
  -- schemas in the registry.
  induction fuel using Nat.strong_induction_on generalizing done referrer parents with
  | _ fuel ihfuel =>
      induction parents generalizing done with
      | nil => exact .finished
      | cons parent parents ih =>
          rw [follow_cons, resolve]
          cases hparent : r.get? parent with
          | none => exact .unknown hparent
          | some s =>
              by_cases henters : Enters kind done s
              · have hentered := hdone.append hparent henters
                have hlength := hentered.length_le
                simp only [List.length_append, List.length_singleton] at hlength
                obtain ⟨fuel, rfl⟩ : ∃ k, fuel = k + 1 := ⟨fuel - 1, by omega⟩
                have hinner : Walk r kind (done ++ [s]) s.name s.parents
                    (r.follow kind fuel s.name (done ++ [s]) s.parents) :=
                  ihfuel fuel (Nat.lt_succ_self fuel) hentered (by simp; omega)
                rw [ok_bind, if_pos henters.1, visit_succ, if_neg henters.2]
                cases hnext : r.follow kind fuel s.name (done ++ [s]) s.parents with
                | error e => exact .failed hparent henters (hnext ▸ hinner)
                | ok next =>
                    rw [hnext] at hinner
                    obtain ⟨hnew, hprefix⟩ := hinner.known hentered next rfl
                    have hgrown := hprefix.length_le
                    simp only [List.length_append, List.length_singleton] at hgrown
                    exact .entered hparent henters hinner (ih hnew (by omega))
              · have hstays : (if s.kind = kind then r.visit kind fuel done s else pure done) =
                    .ok done := by
                  by_cases hkind : s.kind = kind
                  · have hmet : s.name ∈ done.map Schema.name := by
                      simpa [Enters, hkind] using henters
                    rw [if_pos hkind]
                    cases fuel with
                    | zero => rfl
                    | succ fuel => rw [visit_succ, if_pos hmet]
                  · rw [if_neg hkind]
                    rfl
                rw [ok_bind, hstays, ok_bind]
                exact .passed hparent henters (ih hdone hfuel)

/-! ## what a walk finds -/

/-- All these parents are declared, and those of the kind are among the schemas. -/
def Settled (r : Registry) (kind : SchemaKind) (schemas : List Schema) (parents : List String) :
    Prop :=
  ∀ parent ∈ parents, ∃ s, r.get? parent = some s ∧ (s.kind = kind → s ∈ schemas)

/-- Parents stay settled among more schemas. -/
theorem Settled.mono {schemas others : List Schema} (h : r.Settled kind schemas parents)
    (hsubset : schemas ⊆ others) : r.Settled kind others parents := by
  intro parent hparent
  obtain ⟨s, hs, hmem⟩ := h parent hparent
  exact ⟨s, hs, fun hkind => hsubset (hmem hkind)⟩

/-- A schema is reached from one of these parents. -/
def Reached (r : Registry) (kind : SchemaKind) (parents : List String) (s : Schema) : Prop :=
  ∃ parent ∈ parents, ∃ t, r.get? parent = some t ∧ t.kind = kind ∧ r.Ancestor kind t s

/-- What is reached from some parents is reached from more of them. -/
theorem Reached.cons {parent : String} {s : Schema} (h : r.Reached kind parents s) :
    r.Reached kind (parent :: parents) s := by
  obtain ⟨other, hother, hreached⟩ := h
  exact ⟨other, List.mem_cons_of_mem parent hother, hreached⟩

/-- A parent leads to all that is reached from the parents of its schema. -/
theorem Reached.head {parent : String} {s t : Schema} (hparent : r.get? parent = some t)
    (hkind : t.kind = kind) (h : r.Reached kind t.parents s) :
    r.Reached kind (parent :: parents) s := by
  obtain ⟨other, hother, u, hu, hukind, hreached⟩ := h
  exact ⟨parent, List.mem_cons_self, t, hparent, hkind, hreached.head ⟨other, hother, hu, hukind⟩⟩

/-- What a walk adds to the schemas that are done: it leaves nothing to follow, neither behind its
own parents nor behind what it adds, and adds only what is reached. -/
structure Completes (r : Registry) (kind : SchemaKind) (done : List Schema) (parents : List String)
    (next : List Schema) : Prop where
  parents_settled : r.Settled kind next parents
  settled : ∀ s ∈ next, s ∉ done → r.Settled kind next s.parents
  reached : ∀ s ∈ next, s ∉ done → r.Reached kind parents s

/-- **A walk that ends leaves nothing to follow.** -/
theorem Walk.completes (h : Walk r kind done referrer parents outcome) (hdone : r.Known done) :
    ∀ next, outcome = .ok next → r.Completes kind done parents next := by
  induction h with
  | finished =>
      intro next hnext
      cases hnext
      exact ⟨by simp [Settled], fun s hs hnot => absurd hs hnot, fun s hs hnot => absurd hs hnot⟩
  | unknown _ => simp
  | @passed done _ parent _ s _ hparent hpassed hrest ih =>
      intro next hnext
      have hprefix := (hrest.known hdone next hnext).2
      obtain ⟨hparents, hsettled, hreached⟩ := ih hdone next hnext
      refine ⟨?_, hsettled, fun t ht hnot => (hreached t ht hnot).cons⟩
      refine List.forall_mem_cons.mpr ⟨⟨s, hparent, fun hkind => ?_⟩, hparents⟩
      have hmet : s.name ∈ done.map Schema.name := by simpa [Enters, hkind] using hpassed
      exact hprefix.subset (hdone.mem_of_name hparent hmet)
  | failed _ _ _ _ => simp
  | @entered done _ parent _ s next _ hparent henters hinner hrest ihinner ihrest =>
      intro last hlast
      have hentered := hdone.append hparent henters
      obtain ⟨hnew, hinnerPrefix⟩ := hinner.known hentered next rfl
      have hsubset := (hrest.known hnew last hlast).2.subset
      obtain ⟨hinnerParents, hinnerSettled, hinnerReached⟩ := ihinner hentered next rfl
      obtain ⟨hparents, hsettled, hreached⟩ := ihrest hnew last hlast
      have hs : s ∈ next := hinnerPrefix.subset (by simp)
      -- What is new was added by the walk behind the parent, the parent itself, or by the rest.
      have hsplit : ∀ t ∈ last, t ∉ done → t ∉ next ∨ t = s ∨ t ∈ next ∧ t ∉ done ++ [s] := by
        intro t ht hnot
        by_cases hmem : t ∈ next
        · by_cases heq : t = s
          · exact .inr (.inl heq)
          · exact .inr (.inr ⟨hmem, by simp [hnot, heq]⟩)
        · exact .inl hmem
      refine ⟨?_, fun t ht hnot => ?_, fun t ht hnot => ?_⟩
      · exact List.forall_mem_cons.mpr ⟨⟨s, hparent, fun _ => hsubset hs⟩, hparents⟩
      · rcases hsplit t ht hnot with hrestNew | rfl | ⟨hmem, hinnerNew⟩
        · exact hsettled t ht hrestNew
        · exact hinnerParents.mono hsubset
        · exact (hinnerSettled t hmem hinnerNew).mono hsubset
      · rcases hsplit t ht hnot with hrestNew | rfl | ⟨hmem, hinnerNew⟩
        · exact (hreached t ht hrestNew).cons
        · exact ⟨parent, List.mem_cons_self, t, hparent, henters.1, .refl⟩
        · exact .head hparent henters.1 (hinnerReached t hmem hinnerNew)

/-- A walk fails at a parent that is not declared, of the schema itself or of one it reaches. -/
theorem Walk.fails (h : Walk r kind done referrer parents outcome) :
    ∀ e, outcome = .error e → ∃ parent owner, e = .unknownSchema parent owner ∧
      r.get? parent = none ∧
      (owner = referrer ∧ parent ∈ parents ∨
        ∃ s, r.Reached kind parents s ∧ owner = s.name ∧ parent ∈ s.parents) := by
  induction h with
  | finished => simp
  | unknown hparent =>
      intro e he
      cases he
      exact ⟨_, _, rfl, hparent, .inl ⟨rfl, List.mem_cons_self⟩⟩
  | passed _ _ _ ih | entered _ _ _ _ _ ih =>
      intro e he
      obtain ⟨parent, owner, rfl, hparent, hplace⟩ := ih e he
      refine ⟨parent, owner, rfl, hparent, ?_⟩
      rcases hplace with ⟨rfl, hmem⟩ | ⟨s, hs, rfl, hmem⟩
      · exact .inl ⟨rfl, List.mem_cons_of_mem _ hmem⟩
      · exact .inr ⟨s, hs.cons, rfl, hmem⟩
  | @failed _ _ outer _ s _ houter henters _ ih =>
      intro e he
      obtain ⟨parent, owner, rfl, hparent, hplace⟩ := ih e he
      refine ⟨parent, owner, rfl, hparent, .inr ?_⟩
      rcases hplace with ⟨rfl, hmem⟩ | ⟨t, ht, rfl, hmem⟩
      · exact ⟨s, ⟨outer, List.mem_cons_self, s, houter, henters.1, .refl⟩, rfl, hmem⟩
      · exact ⟨t, .head houter henters.1 ht, rfl, hmem⟩

/-! ## lineages -/

/-- The schemas that a schema inherits from, itself in front, each once. -/
structure IsLineage (r : Registry) (root : Schema) (lineage : List Schema) : Prop where
  head : lineage.head? = some root
  nodup : (lineage.map Schema.name).Nodup
  mem_iff : ∀ s, s ∈ lineage ↔ r.Ancestor root.kind root s

section Lineage

variable {root : Schema} {lineage : List Schema} (hroot : r.get? name = some root)

include hroot

theorem known_root : r.Known [root] where
  nodup := List.nodup_singleton _
  found s hs := by rw [List.mem_singleton.mp hs, name_of_get? hroot, hroot]

theorem lineage_eq_follow : r.lineage name =
    r.follow root.kind r.schemas.length root.name [root] root.parents := by
  rw [Registry.lineage, resolve_eq_ok.mpr hroot, ok_bind, visit_succ, if_neg (by simp)]
  rfl

theorem walk_lineage : Walk r root.kind [root] root.name root.parents (r.lineage name) := by
  rw [lineage_eq_follow hroot]
  exact walk_follow (known_root hroot) (by simp)

/-- The walk and the lineage have the same outcome. -/
theorem walk_iff : Walk r root.kind [root] root.name root.parents outcome ↔
    r.lineage name = outcome := by
  constructor
  · exact fun h => (walk_lineage hroot).unique h
  · rintro rfl
    exact walk_lineage hroot

/-- Behind a lineage there is nothing left to follow. -/
theorem settled_of_lineage (h : r.lineage name = .ok lineage) :
    ∀ s ∈ lineage, r.Settled root.kind lineage s.parents := by
  have hcompletes := (walk_lineage hroot).completes (known_root hroot) lineage h
  intro s hs
  by_cases heq : s = root
  · exact heq ▸ hcompletes.parents_settled
  · exact hcompletes.settled s hs (by simpa using heq)

/-- A lineage that is found has all ancestors and nothing else. -/
theorem isLineage_of_ok (h : r.lineage name = .ok lineage) : r.IsLineage root lineage := by
  have hwalk := walk_lineage hroot
  obtain ⟨hknown, ancestors, rfl⟩ := hwalk.known (known_root hroot) lineage h
  refine ⟨rfl, hknown.nodup, fun s => ⟨fun hs => ?_, fun hs => ?_⟩⟩
  · by_cases heq : s = root
    · exact heq ▸ .refl
    · obtain ⟨parent, hparent, t, ht, hkind, hancestor⟩ :=
        (hwalk.completes (known_root hroot) _ h).reached s hs (by simpa using heq)
      exact hancestor.head ⟨parent, hparent, ht, hkind⟩
  · induction hs with
    | refl => simp
    | tail _ hstep ih =>
        obtain ⟨parent, hparent, ht, hkind⟩ := hstep
        obtain ⟨u, hu, hmem⟩ := settled_of_lineage hroot h _ ih parent hparent
        obtain rfl := Option.some.inj (hu.symm.trans ht)
        exact hmem hkind

/-- A lineage fails only at a parent that is not declared. -/
theorem broken_of_error {e : AssembleError} (h : r.lineage name = .error e) :
    (∃ parent owner, e = .unknownSchema parent owner) ∧ r.Broken root := by
  obtain ⟨parent, owner, rfl, hparent, hplace⟩ := (walk_lineage hroot).fails e h
  refine ⟨⟨parent, owner, rfl⟩, ?_⟩
  rcases hplace with ⟨-, hmem⟩ | ⟨s, ⟨first, hfirst, t, ht, hkind, hancestor⟩, -, hmem⟩
  · exact ⟨root, .refl, parent, hmem, hparent⟩
  · exact ⟨s, hancestor.head ⟨first, hfirst, ht, hkind⟩, parent, hmem, hparent⟩

/-- A lineage is found only if every parent is declared. -/
theorem not_broken_of_ok (h : r.lineage name = .ok lineage) : ¬r.Broken root := by
  rintro ⟨s, hs, parent, hparent, hnone⟩
  have hmem := ((isLineage_of_ok hroot h).mem_iff s).mpr hs
  obtain ⟨t, ht, -⟩ := settled_of_lineage hroot h s hmem parent hparent
  rw [hnone] at ht
  cases ht

theorem lineage_error_iff :
    (∃ parent owner, r.lineage name = .error (.unknownSchema parent owner)) ↔ r.Broken root := by
  constructor
  · rintro ⟨parent, owner, h⟩
    exact (broken_of_error hroot h).2
  · intro hbroken
    cases h : r.lineage name with
    | ok lineage => exact absurd hbroken (not_broken_of_ok hroot h)
    | error e =>
        obtain ⟨⟨parent, owner, rfl⟩, -⟩ := broken_of_error hroot h
        exact ⟨parent, owner, rfl⟩

end Lineage

end Registry

/-! ## fields -/

namespace Keyed

variable {α : Type} {key : String}

/-- The first entries of some names are those of all names, restricted to these. -/
theorem firsts_filter (p : String → Bool) (l : List (String × α)) :
    firsts (l.filter fun entry => p entry.1) = (firsts l).filter fun entry => p entry.1 := by
  induction l with
  | nil => rfl
  | cons entry l ih =>
      obtain ⟨k, v⟩ := entry
      rw [firsts, List.filter_cons, List.filter_cons]
      by_cases hp : p k = true
      · simp only [hp, if_true, firsts, ih, List.filter_filter, Bool.and_comm]
      · simp only [hp, Bool.false_eq_true, if_false, ih, List.filter_filter]
        refine List.filter_congr fun entry _ => ?_
        by_cases hk : entry.1 = k
        · simp [hk, hp]
        · simp [hk]

/-- The first pairs of keys stand in the order in which the keys first come. -/
theorem pairwise_firsts (l : List (String × α)) : ((firsts l).map Prod.fst).Pairwise fun a b =>
    (l.map Prod.fst).idxOf a < (l.map Prod.fst).idxOf b := by
  induction l with
  | nil => exact List.Pairwise.nil
  | cons entry l ih =>
      obtain ⟨k, v⟩ := entry
      have hother : ∀ a ∈ ((firsts l).filter (·.1 ≠ k)).map Prod.fst, a ≠ k := by
        intro a ha
        obtain ⟨entry, hentry, rfl⟩ := List.mem_map.mp ha
        simpa using List.of_mem_filter hentry
      rw [firsts, List.map_cons, List.map_cons, List.pairwise_cons]
      refine ⟨fun a ha => ?_, ?_⟩
      · rw [List.idxOf_cons_self, List.idxOf_cons_ne _ (hother a ha).symm]
        exact Nat.succ_pos _
      · have hkept : (((firsts l).filter (·.1 ≠ k)).map Prod.fst).Sublist
            ((firsts l).map Prod.fst) := List.filter_sublist.map Prod.fst
        refine (ih.sublist hkept).imp_of_mem fun {a b} ha hb hab => ?_
        rw [List.idxOf_cons_ne _ (hother a ha).symm, List.idxOf_cons_ne _ (hother b hb).symm]
        exact Nat.succ_lt_succ hab

/-- With distinct keys, what is found under a key is what stands there. -/
theorem mem_iff_lookup {l : List (String × α)} {value : α} (h : (l.map Prod.fst).Nodup) :
    (key, value) ∈ l ↔ l.lookup key = some value := by
  induction l with
  | nil => simp
  | cons entry l ih =>
      obtain ⟨k, v⟩ := entry
      rw [List.map_cons, List.nodup_cons] at h
      rw [List.mem_cons, ih h.2, List.lookup_cons, Prod.mk.injEq]
      by_cases hkey : key = k
      · have hnone : l.lookup key ≠ some value := by
          intro hsome
          exact h.1 (List.mem_map.mpr ⟨(key, value), (ih h.2).mpr hsome, hkey⟩)
        simp [hkey, hkey ▸ hnone, eq_comm]
      · have hbeq : (key == k) = false := by simpa using hkey
        simp [hkey, hbeq]

end Keyed

/-- Whether the schema has a member of the name, with or without a chain. -/
def Schema.declares (s : Schema) (name : String) : Bool := (s.members.lookup name).isSome

/-- A name is looked up in the first schema of a lineage that declares it. -/
theorem Schema.lookup_flatMap (lineage : List Schema) (name : String) :
    (lineage.flatMap Schema.members).lookup name =
      (lineage.find? (·.declares name)).bind fun s => s.members.lookup name := by
  induction lineage with
  | nil => rfl
  | cons s lineage ih =>
      rw [List.flatMap_cons, List.lookup_append, ih, List.find?_cons, declares]
      cases h : s.members.lookup name <;> simp [h]

/-- Fields are named by hooks, or by names without an underscore in front. -/
theorem Schema.isFieldName_iff (name : String) : isFieldName name = true ↔
    (∃ hook : Hook, hook.name = name) ∨ name.toList.head? ≠ some '_' := by
  have hhook : (Hook.ofName? name).isSome = true ↔ ∃ hook : Hook, hook.name = name := by
    constructor
    · intro h
      obtain ⟨hook, hhook⟩ := Option.isSome_iff_exists.mp h
      exact ⟨hook, by simpa using List.find?_some hhook⟩
    · rintro ⟨hook, rfl⟩
      rw [Hook.ofName?_name]
      rfl
  rw [isFieldName, Bool.or_eq_true, hhook, decide_eq_true_eq]

namespace Resolved

/-- The fields are those of the lineage: under the name of a field stands the chain that the first
schema with such a member declares, if it declares one, and the names stand in the order in which
the lineage first has them. -/
structure Gathers (resolved : Resolved) (lineage : List Schema) : Prop where
  mem_iff : ∀ name chain, (name, chain) ∈ resolved.fields ↔
    ((∃ hook : Hook, hook.name = name) ∨ name.toList.head? ≠ some '_') ∧
      ∃ s, lineage.find? (·.declares name) = some s ∧ s.members.lookup name = some (some chain)
  ordered : (resolved.fields.map Prod.fst).Pairwise fun a b =>
    ((lineage.flatMap Schema.members).map Prod.fst).idxOf a <
      ((lineage.flatMap Schema.members).map Prod.fst).idxOf b

/-- The fields stand in the order in which the members of a lineage first come up. -/
theorem fields_sublist (lineage : List Schema) : ((ofLineage lineage).fields.map Prod.fst).Sublist
    ((Keyed.firsts (lineage.flatMap Schema.members)).map Prod.fst) := by
  have hkeys : ∀ l : List (String × Option Chain),
      ((l.filterMap fun entry => entry.2.map (entry.1, ·)).map Prod.fst).Sublist
        (l.map Prod.fst) := by
    intro l
    induction l with
    | nil => exact List.Sublist.slnil
    | cons entry l ih =>
        obtain ⟨k, v⟩ := entry
        cases v with
        | none => exact ih.cons k
        | some v => exact ih.cons_cons k
  simp only [ofLineage]
  rw [Keyed.firsts_filter Schema.isFieldName]
  exact (hkeys _).trans (List.filter_sublist.map Prod.fst)

/-- **The resolved fields of a lineage are gathered from it.** -/
theorem gathers_ofLineage (lineage : List Schema) : (ofLineage lineage).Gathers lineage where
  mem_iff name chain := by
    have hnodup : ((ofLineage lineage).fields.map Prod.fst).Nodup :=
      (Keyed.nodup_firsts _).sublist (fields_sublist lineage)
    rw [Keyed.mem_iff_lookup hnodup, lookup_fields, Schema.lookup_flatMap,
      ← Schema.isFieldName_iff]
    by_cases hfield : Schema.isFieldName name = true
    · simp [hfield, Option.join_eq_some_iff, Option.bind_eq_some_iff]
    · simp [hfield]
  ordered := (Keyed.pairwise_firsts _).sublist (fields_sublist lineage)

end Resolved

namespace Registry

/-- **Inheritance is what it is meant to be**, whatever the parents look like. The walk over parents
ends without a bound on its depth, and what it ends with is the lineage. It fails just when a schema
that is reached lists a parent that is not declared. Otherwise the lineage holds the schemas that
are reached, each once, and the fields are gathered from it. -/
theorem linearise_inherits (r : Registry) (name : String) (root : Schema)
    (hroot : r.get? name = some root) :
    (∀ outcome, Walk r root.kind [root] root.name root.parents outcome ↔
      r.lineage name = outcome) ∧
    ((∃ parent owner, r.lineage name = .error (.unknownSchema parent owner)) ↔ r.Broken root) ∧
    (¬r.Broken root → ∃ lineage resolved, r.lineage name = .ok lineage ∧
      r.IsLineage root lineage ∧ r.linearise name = .ok resolved ∧ resolved.Gathers lineage) := by
  refine ⟨fun outcome => walk_iff hroot, lineage_error_iff hroot, fun hwhole => ?_⟩
  cases h : r.lineage name with
  | error e => exact absurd (broken_of_error hroot h).2 hwhole
  | ok lineage =>
      refine ⟨lineage, .ofLineage lineage, rfl, isLineage_of_ok hroot h, ?_,
        Resolved.gathers_ofLineage lineage⟩
      rw [linearise, h]
      rfl

/-- A record by its name, its parents and its members. -/
def record (name : String) (parents : List String) (members : List (String × Option Chain)) :
    Schema :=
  { Schema.ofKind name .item with
    parents := parents
    members := members }

/-- Records that inherit crosswise and in a circle. One hides a member, one has a parent of another
kind, and one names a parent that is not there. -/
def crossing : Registry where
  schemas := [
    record "Bottom" ["Left", "Right"] [("hidden", none)],
    record "Left" ["Top", "Rows"] [("size", some [.plain .text .document .string])],
    record "Right" ["Top"] [("size", some []), ("hidden", some [])],
    record "Top" ["Bottom"] [("_note", some []), ("title", some [])],
    { Schema.ofKind "Rows" .list with parents := ["Nowhere"] },
    record "Lost" ["Left", "Nowhere"] []]

/-- The lineage and the fields of a record that inherits crosswise, and a parent that is missing. -/
theorem linearise_inherits_crossing :
    (∃ lineage resolved, crossing.lineage "Bottom" = .ok lineage ∧
      lineage.map Schema.name = ["Bottom", "Left", "Top", "Right"] ∧
      resolved.fields.map Prod.fst = ["size", "title"] ∧
      crossing.linearise "Bottom" = .ok resolved ∧ resolved.Gathers lineage) ∧
    ∃ root, crossing.get? "Lost" = some root ∧ crossing.Broken root := by
  have hroot : crossing.get? "Bottom" =
      some (record "Bottom" ["Left", "Right"] [("hidden", none)]) := rfl
  have hlost : crossing.get? "Lost" = some (record "Lost" ["Left", "Nowhere"] []) := rfl
  have herror : crossing.lineage "Lost" = .error (.unknownSchema "Nowhere" "Lost") := rfl
  obtain ⟨-, herrors, -⟩ := linearise_inherits crossing "Lost" _ hlost
  obtain ⟨-, hbroken, hwhole⟩ := linearise_inherits crossing "Bottom" _ hroot
  have hnot : ¬crossing.Broken (record "Bottom" ["Left", "Right"] [("hidden", none)]) := by
    rw [← hbroken]
    rintro ⟨parent, owner, h⟩
    cases h
  obtain ⟨lineage, resolved, hlineage, -, hresolved, hgathers⟩ := hwhole hnot
  refine ⟨⟨lineage, resolved, hlineage, ?_, ?_, hresolved, hgathers⟩, _, hlost,
    herrors.mp ⟨_, _, herror⟩⟩
  · cases hlineage
    rfl
  · cases hresolved
    decide

end Registry

end Extractor
