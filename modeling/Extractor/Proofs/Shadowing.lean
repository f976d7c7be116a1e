import Extractor.Proofs.Inheritance

/-!
# Extractor.Proofs.Shadowing

Which declaration of a member is the one that counts. Without circles the
parents of a schema unfold into a tree, which holds a schema as often as there
are ways to it (`Unfolds`). A schema comes to what the tree comes to, read depth
first: a declaration is hidden by every one that stands before it, be it nearer
or further away. So a parent that is reached along a second way is too late to
hide what its own base declares, if the base is reached before. It does hide it
where there is no way to the base around the parent (`Registry.linearise_shadows`).
-/

namespace Extractor

open Outcome

/-! ## repeated schemas -/

namespace Keyed

variable {α : Type}

/-- The first entries of two lists are those of the first and the new ones of the second. -/
theorem firsts_append (xs ys : List (String × α)) : firsts (xs ++ ys) =
    firsts xs ++ (firsts ys).filter fun entry => entry.1 ∉ xs.map Prod.fst := by
  induction xs with
  | nil => simp [firsts]
  | cons entry xs ih =>
      obtain ⟨k, v⟩ := entry
      simp only [List.cons_append, firsts, ih, List.filter_append, List.filter_filter,
        List.map_cons, List.mem_cons, not_or]
      simp

/-- Pairs that came before make no difference. -/
theorem firsts_repeated {xs ys zs : List (String × α)} (h : ys ⊆ xs) :
    firsts (xs ++ (ys ++ zs)) = firsts (xs ++ zs) := by
  have hkeys : ∀ entry ∈ ys, entry.1 ∈ xs.map Prod.fst :=
    fun entry hentry => List.mem_map_of_mem (h hentry)
  have hgone : (firsts ys).filter (fun entry => entry.1 ∉ xs.map Prod.fst) = [] := by
    refine List.filter_eq_nil_iff.mpr fun entry hentry => ?_
    simpa using hkeys entry (mem_of_mem_firsts hentry)
  rw [firsts_append xs, firsts_append xs, firsts_append ys, List.filter_append, hgone,
    List.nil_append, List.filter_filter]
  congr 1
  refine List.filter_congr fun entry _ => ?_
  by_cases hentry : entry.1 ∈ ys.map Prod.fst
  · obtain ⟨other, hother, heq⟩ := List.mem_map.mp hentry
    simp [heq ▸ hkeys other hother]
  · simp [hentry]

end Keyed

theorem findSome?_repeated {α β : Type} {f : α → Option β} {xs ys : List α} {x : α} (h : x ∈ xs) :
    (xs ++ x :: ys).findSome? f = (xs ++ ys).findSome? f := by
  rw [List.findSome?_append, List.findSome?_append, List.findSome?_cons]
  cases hxs : xs.findSome? f with
  | some b => rfl
  | none => rw [List.findSome?_eq_none_iff.mp hxs x h]

/-- A schema counts where it stands first. -/
theorem Resolved.ofLineage_repeated {schemas others : List Schema} {s : Schema} (h : s ∈ schemas) :
    ofLineage (schemas ++ s :: others) = ofLineage (schemas ++ others) := by
  have hmembers : s.members ⊆ schemas.flatMap Schema.members :=
    fun entry hentry => List.mem_flatMap.mpr ⟨s, h, hentry⟩
  simp only [ofLineage, findSome?_repeated h, List.flatMap_append, List.flatMap_cons,
    List.filter_append]
  rw [Keyed.firsts_repeated fun entry hentry => ?_]
  rw [List.mem_filter] at hentry ⊢
  exact ⟨hmembers hentry.1, hentry.2⟩

namespace Registry

variable {r : Registry} {kind : SchemaKind} {done next : List Schema} {name referrer : String}
  {parents : List String} {outcome : Except AssembleError (List Schema)} {tree : List Schema}
  {s t : Schema}

/-! ## trees of parents -/

/-- What some parents lead to through parents of the kind, depth first, and each schema as often as
there are ways to it. -/
inductive Unfolds (r : Registry) (kind : SchemaKind) : List String → List Schema → Prop
  | nil : Unfolds r kind [] []
  | passed {parent : String} {parents : List String} {s : Schema} {tree : List Schema}
      (hparent : r.get? parent = some s) (hkind : s.kind ≠ kind) (h : Unfolds r kind parents tree) :
      Unfolds r kind (parent :: parents) tree
  | entered {parent : String} {parents : List String} {s : Schema} {up tree : List Schema}
      (hparent : r.get? parent = some s) (hkind : s.kind = kind) (hup : Unfolds r kind s.parents up)
      (h : Unfolds r kind parents tree) : Unfolds r kind (parent :: parents) (s :: (up ++ tree))

namespace Unfolds

/-- The schemas of a tree are declared under their names. -/
theorem get?_name (h : r.Unfolds kind parents tree) : ∀ s ∈ tree, r.get? s.name = some s := by
  induction h with
  | nil => nofun
  | passed _ _ _ ih => exact ih
  | entered hparent _ _ _ ihup ih =>
      rw [List.forall_mem_cons, List.forall_mem_append]
      exact ⟨name_of_get? hparent ▸ hparent, ihup, ih⟩

/-- With a schema the tree holds what its parents unfold into. -/
theorem exists_above (h : r.Unfolds kind parents tree) :
    ∀ s ∈ tree, ∃ up, r.Unfolds kind s.parents up ∧ up ⊆ tree := by
  induction h with
  | nil => nofun
  | passed _ _ _ ih => exact ih
  | @entered parent parents s up tree _ _ hup _ ihup ih =>
      rw [List.forall_mem_cons, List.forall_mem_append]
      refine ⟨⟨up, hup, ?_⟩, fun t ht => ?_, fun t ht => ?_⟩
      · simp
      · obtain ⟨above, habove, hsubset⟩ := ihup t ht
        exact ⟨above, habove, List.Subset.trans hsubset (by simp)⟩
      · obtain ⟨above, habove, hsubset⟩ := ih t ht
        exact ⟨above, habove, List.Subset.trans hsubset (by simp)⟩

end Unfolds

/-! ## trees and lineages -/

/-- The schemas with one more, unless it was met before. -/
def meet (done : List Schema) (s : Schema) : List Schema :=
  if s.name ∈ done.map Schema.name then done else done ++ [s]

theorem meet_of_mem (h : s ∈ done) : meet done s = done :=
  if_pos (List.mem_map_of_mem h)

theorem foldl_meet_of_subset (h : tree ⊆ done) : tree.foldl meet done = done := by
  induction tree with
  | nil => rfl
  | cons s tree ih =>
      obtain ⟨hs, htree⟩ := List.cons_subset.mp h
      rw [List.foldl_cons, meet_of_mem hs, ih htree]

theorem mem_of_mem_foldl_meet (h : t ∈ tree.foldl meet done) : t ∈ done ∨ t ∈ tree := by
  induction tree generalizing done with
  | nil => exact .inl h
  | cons s tree ih =>
      rcases ih h with hmeet | htree
      · rw [meet] at hmeet
        split at hmeet
        · exact .inl hmeet
        · rcases List.mem_append.mp hmeet with hdone | hs
          · exact .inl hdone
          · exact .inr (List.mem_singleton.mp hs ▸ List.mem_cons_self)
      · exact .inr (List.mem_cons_of_mem s htree)

theorem subset_meet : done ⊆ meet done s := by
  rw [meet]
  split <;> simp

theorem name_mem_meet : s.name ∈ (meet done s).map Schema.name := by
  rw [meet]
  split
  · assumption
  · simp

theorem subset_foldl_meet : done ⊆ tree.foldl meet done := by
  induction tree generalizing done with
  | nil => exact List.Subset.refl done
  | cons s tree ih => exact List.Subset.trans subset_meet ih

/-- Every schema of the tree is among those that are met. -/
theorem name_mem_foldl_meet (h : s ∈ tree) : s.name ∈ (tree.foldl meet done).map Schema.name := by
  induction tree generalizing done with
  | nil => contradiction
  | cons t tree ih =>
      rw [List.foldl_cons]
      rcases List.mem_cons.mp h with rfl | htree
      · exact List.map_subset Schema.name subset_foldl_meet name_mem_meet
      · exact ih htree

/-- Leaving out what was met before makes no difference to what the schemas come to. -/
theorem ofLineage_foldl_meet (hdone : ∀ s ∈ done, r.get? s.name = some s)
    (htree : ∀ s ∈ tree, r.get? s.name = some s) :
    Resolved.ofLineage (tree.foldl meet done) = Resolved.ofLineage (done ++ tree) := by
  induction tree generalizing done with
  | nil => rw [List.foldl_nil, List.append_nil]
  | cons s tree ih =>
      obtain ⟨hs, hlater⟩ := List.forall_mem_cons.mp htree
      rw [List.foldl_cons, meet]
      split
      · next hmet =>
          obtain ⟨t, ht, hname⟩ := List.mem_map.mp hmet
          have hfound := hdone t ht
          rw [hname, hs] at hfound
          obtain rfl := Option.some.inj hfound
          rw [ih hdone hlater, Resolved.ofLineage_repeated ht]
      · rw [ih _ hlater, List.append_assoc, List.singleton_append]
        simpa [or_imp, forall_and] using ⟨hdone, hs⟩

/-- Reached from its own parents, a schema lies on a circle. -/
theorem Reached.transGen (h : r.Reached kind s.parents t) :
    Relation.TransGen (r.Inherits kind) s t := by
  obtain ⟨parent, hparent, u, hu, hkind, hancestor⟩ := h
  exact .head' ⟨parent, hparent, hu, hkind⟩ hancestor

/-- Without circles a walk meets the schemas of the tree, each where it stands first. What was done
before and is reached again has to be finished: with all that it leads to. -/
theorem Walk.unfolds (hacyclic : ∀ s, ¬Relation.TransGen (r.Inherits kind) s s)
    (h : Walk r kind done referrer parents outcome) (hdone : r.Known done)
    (hfinished : ∀ s ∈ done, r.Reached kind parents s →
      ∃ up, r.Unfolds kind s.parents up ∧ up ⊆ done) :
    ∀ next, outcome = .ok next →
      ∃ tree, r.Unfolds kind parents tree ∧ next = tree.foldl meet done := by
  induction h with
  | finished =>
      rintro next hnext
      cases hnext
      exact ⟨[], .nil, rfl⟩
  | unknown => nofun
  | failed => nofun
  | @passed done referrer parent parents s outcome hparent hpassed _ ih =>
      intro next hnext
      obtain ⟨tree, htree, rfl⟩ :=
        ih hdone (fun t ht hreached => hfinished t ht hreached.cons) next hnext
      by_cases hkind : s.kind = kind
      · have hname : s.name ∈ done.map Schema.name := by
          by_contra hnew
          exact hpassed ⟨hkind, hnew⟩
        have hs : s ∈ done := hdone.mem_of_name hparent hname
        obtain ⟨up, hup, hsubset⟩ :=
          hfinished s hs ⟨parent, List.mem_cons_self, s, hparent, hkind, .refl⟩
        refine ⟨s :: (up ++ tree), .entered hparent hkind hup htree, ?_⟩
        rw [List.foldl_cons, meet_of_mem hs, List.foldl_append, foldl_meet_of_subset hsubset]
      · exact ⟨tree, .passed hparent hkind htree, rfl⟩
  | @entered done referrer parent parents s mid outcome hparent henters hinner _ ihinner ih =>
      intro next hnext
      have hknown : r.Known (done ++ [s]) := hdone.append hparent henters
      obtain ⟨hkind, hnew⟩ := henters
      -- The schema itself is not reached again, for want of circles.
      have hbefore : ∀ t ∈ done ++ [s], r.Reached kind s.parents t →
          ∃ up, r.Unfolds kind t.parents up ∧ up ⊆ done ++ [s] := by
        intro t ht hreached
        rcases List.mem_append.mp ht with ht | ht
        · obtain ⟨above, habove, hdone⟩ := hfinished t ht (.head hparent hkind hreached)
          exact ⟨above, habove, List.Subset.trans hdone (List.subset_append_left done [s])⟩
        · obtain rfl := List.mem_singleton.mp ht
          exact absurd hreached.transGen (hacyclic t)
      obtain ⟨up, hup, rfl⟩ := ihinner hknown hbefore mid rfl
      have hmid := (hinner.known hknown _ rfl).1
      have hsubset : up ⊆ up.foldl meet (done ++ [s]) := fun t ht =>
        hmid.mem_of_name (hup.get?_name t ht) (name_mem_foldl_meet ht)
      -- What has been done by then is older, or the schema itself, or above it.
      have hbehind : ∀ t ∈ up.foldl meet (done ++ [s]), r.Reached kind parents t →
          ∃ above, r.Unfolds kind t.parents above ∧ above ⊆ up.foldl meet (done ++ [s]) := by
        intro t ht hreached
        rcases mem_of_mem_foldl_meet ht with ht | ht
        · rcases List.mem_append.mp ht with ht | ht
          · obtain ⟨above, habove, hdone⟩ := hfinished t ht hreached.cons
            refine ⟨above, habove, List.Subset.trans hdone ?_⟩
            exact List.Subset.trans (List.subset_append_left done [s]) subset_foldl_meet
          · rw [List.mem_singleton.mp ht]
            exact ⟨up, hup, hsubset⟩
        · obtain ⟨above, habove, htree⟩ := hup.exists_above t ht
          exact ⟨above, habove, List.Subset.trans htree hsubset⟩
      obtain ⟨tree, htree, rfl⟩ := ih hmid hbehind next hnext
      refine ⟨s :: (up ++ tree), .entered hparent hkind hup htree, ?_⟩
      rw [List.foldl_cons, meet, if_neg hnew, List.foldl_append]

/-! ## ways around a schema -/

/-- The second schema is reached by steps none of which starts at the schema in the way. -/
def Bypasses (r : Registry) (kind : SchemaKind) (x : Schema) : Schema → Schema → Prop :=
  Relation.ReflTransGen fun s t => s ≠ x ∧ r.Inherits kind s t

/-- Before a schema stands in the tree, there stands a way to it. -/
theorem Unfolds.bypasses {x y : Schema} {before behind : List Schema}
    (h : r.Unfolds kind parents (before ++ y :: behind)) (hx : x ∉ before) :
    ∃ parent ∈ parents, ∃ t, r.get? parent = some t ∧ t.kind = kind ∧ r.Bypasses kind x t y := by
  generalize htree : before ++ y :: behind = tree at h
  induction h generalizing before behind with
  | nil => simp at htree
  | passed _ _ _ ih =>
      obtain ⟨parent, hparent, hrest⟩ := ih hx htree
      exact ⟨parent, List.mem_cons_of_mem _ hparent, hrest⟩
  | @entered parent parents s up tree hparent hkind _ _ ihup ih =>
      cases before with
      | nil =>
          obtain rfl := (List.cons.inj htree).1
          exact ⟨parent, List.mem_cons_self, _, hparent, hkind, .refl⟩
      | cons first before =>
          obtain ⟨rfl, hsplit⟩ := List.cons.inj htree
          obtain ⟨hfirst, hlater⟩ := List.ne_and_not_mem_of_not_mem_cons hx
          -- The schema is behind the parents above, or above the first one.
          have hbehind : ∀ rest, tree = rest ++ y :: behind → x ∉ rest →
              ∃ other ∈ parent :: parents, ∃ t, r.get? other = some t ∧ t.kind = kind ∧
                r.Bypasses kind x t y := by
            intro rest hrest hnot
            obtain ⟨other, hother, hway⟩ := ih hnot hrest.symm
            exact ⟨other, List.mem_cons_of_mem parent hother, hway⟩
          rcases List.append_eq_append_iff.mp hsplit with
            ⟨rest, hup, hrest⟩ | ⟨rest, hbefore, hrest⟩
          · cases rest with
            | nil => exact hbehind [] hrest.symm List.not_mem_nil
            | cons z rest =>
                obtain rfl := (List.cons.inj hrest).1
                obtain ⟨other, hother, t, ht, htkind, hway⟩ := ihup hlater hup.symm
                refine ⟨parent, List.mem_cons_self, first, hparent, hkind, ?_⟩
                exact .head ⟨Ne.symm hfirst, other, hother, ht, htkind⟩ hway
          · refine hbehind rest hrest fun hnot => hlater ?_
            rw [hbefore]
            exact List.mem_append_right up hnot

/-- A way leads around a schema with a property to the first one that has it. -/
theorem bypasses_of_find? {x y : Schema} {p : Schema → Bool} {root : Schema}
    (h : r.Unfolds kind root.parents tree) (hx : p x = true)
    (hy : (root :: tree).find? p = some y) : r.Bypasses kind x root y := by
  obtain ⟨-, before, behind, hsplit, hbefore⟩ := List.find?_eq_some_iff_append.mp hy
  have hnot : x ∉ before := fun hmem => by simpa [hx] using hbefore x hmem
  cases before with
  | nil =>
      cases hsplit
      exact .refl
  | cons first before =>
      cases hsplit
      obtain ⟨hfirst, hlater⟩ := List.ne_and_not_mem_of_not_mem_cons hnot
      obtain ⟨parent, hparent, t, ht, hkind, hway⟩ := h.bypasses hlater
      exact .head ⟨Ne.symm hfirst, parent, hparent, ht, hkind⟩ hway

/-- **A declaration hides those that come behind it depth first.** Where nothing inherits from
itself, the parents of a schema unfold into a tree, and the schema comes to what the tree comes to:
under a name stands what the first schema of the tree with such a member declares. A member of a
base is hidden by that of a schema that no way to the base goes around. -/
theorem linearise_shadows (r : Registry) (name : String) (root : Schema)
    (hroot : r.get? name = some root) (hwhole : ¬r.Broken root)
    (hacyclic : ∀ s, ¬Relation.TransGen (r.Inherits root.kind) s s) :
    ∃ tree, r.Unfolds root.kind root.parents tree ∧
      r.linearise name = .ok (.ofLineage (root :: tree)) ∧
      (Resolved.ofLineage (root :: tree)).Gathers (root :: tree) ∧
      ∀ field x y, x.declares field = true → ¬r.Bypasses root.kind x root y →
        (root :: tree).find? (·.declares field) ≠ some y := by
  cases hlineage : r.lineage name with
  | error e => exact absurd (broken_of_error hroot hlineage).2 hwhole
  | ok lineage =>
      have hknown := known_root hroot
      have hfinished : ∀ s ∈ [root], r.Reached root.kind root.parents s →
          ∃ up, r.Unfolds root.kind s.parents up ∧ up ⊆ [root] := by
        intro s hs hreached
        obtain rfl := List.mem_singleton.mp hs
        exact absurd hreached.transGen (hacyclic s)
      obtain ⟨tree, htree, rfl⟩ :=
        (walk_lineage hroot).unfolds hacyclic hknown hfinished lineage hlineage
      refine ⟨tree, htree, ?_, Resolved.gathers_ofLineage _, ?_⟩
      · rw [linearise, hlineage, ok_bind, ofLineage_foldl_meet hknown.found htree.get?_name]
        rfl
      · intro field x y hx hway hy
        exact hway (bypasses_of_find? htree hx hy)

/-- A record with a size of its own. -/
def sized (name : String) (parents : List String) (operation : Operation) : Schema :=
  record name parents [("size", some [.plain operation .document .string])]

/-- Records that inherit crosswise: the size that `Top` declares is declared anew on the right hand
side only. -/
def diamond : Registry where
  schemas := [
    record "Leaf" ["Right"] [],
    record "Bottom" ["Left", "Right"] [],
    record "Left" ["Top"] [],
    sized "Right" ["Top"] .raw,
    sized "Top" [] .text]

/-- Parents stand behind their children. -/
theorem diamond_ordered {kind : SchemaKind} {s t : Schema} (hs : s ∈ diamond.schemas)
    (h : diamond.Inherits kind s t) :
    t ∈ diamond.schemas ∧ diamond.names.idxOf s.name < diamond.names.idxOf t.name := by
  obtain ⟨parent, hparent, hget, -⟩ := h
  refine ⟨List.mem_of_find?_eq_some hget, ?_⟩
  have hall : ∀ s ∈ diamond.schemas, ∀ parent ∈ s.parents,
      diamond.names.idxOf s.name < diamond.names.idxOf parent := by decide
  rw [name_of_get? hget]
  exact hall s hs parent hparent

/-- No schema of the diamond inherits from itself. -/
theorem diamond_acyclic (s : Schema) :
    ¬Relation.TransGen (fun s t => ∃ kind, diamond.Inherits kind s t) s s := by
  have hlater : ∀ s t, s ∈ diamond.schemas →
      Relation.TransGen (fun s t => ∃ kind, diamond.Inherits kind s t) s t →
        t ∈ diamond.schemas ∧ diamond.names.idxOf s.name < diamond.names.idxOf t.name := by
    intro s t hs h
    induction h with
    | single hstep => exact diamond_ordered hs hstep.choose_spec
    | tail _ hstep ih =>
        obtain ⟨ht, hlt⟩ := diamond_ordered ih.1 hstep.choose_spec
        exact ⟨ht, ih.2.trans hlt⟩
  intro h
  obtain ⟨u, -, kind, parent, -, hget, -⟩ := Relation.TransGen.tail'_iff.mp h
  exact lt_irrefl _ (hlater s s (List.mem_of_find?_eq_some hget) h).2

/-- The size of a leaf below one side of the diamond does not come from its top. -/
theorem linearise_shadows_leaf :
    ∃ tree, diamond.Unfolds .item ["Right"] tree ∧
      diamond.linearise "Leaf" = .ok (.ofLineage (record "Leaf" ["Right"] [] :: tree)) ∧
      (sized "Right" ["Top"] .raw).declares "size" = true ∧
      ¬diamond.Bypasses .item (sized "Right" ["Top"] .raw) (record "Leaf" ["Right"] [])
        (sized "Top" [] .text) ∧
      (record "Leaf" ["Right"] [] :: tree).find? (·.declares "size") ≠
        some (sized "Top" [] .text) := by
  have hroot : diamond.get? "Leaf" = some (record "Leaf" ["Right"] []) := rfl
  have hlineage : diamond.lineage "Leaf" = .ok [record "Leaf" ["Right"] [],
      sized "Right" ["Top"] .raw, sized "Top" [] .text] := rfl
  have hway : ¬diamond.Bypasses .item (sized "Right" ["Top"] .raw) (record "Leaf" ["Right"] [])
      (sized "Top" [] .text) := by
    intro hway
    rcases hway.cases_head with heq | ⟨next, ⟨-, parent, hparent, hget, -⟩, hrest⟩
    · exact absurd (congrArg Schema.name heq) (by decide)
    · obtain rfl := List.mem_singleton.mp hparent
      cases hget
      rcases hrest.cases_head with heq | ⟨_, ⟨hne, -⟩, -⟩
      · exact absurd (congrArg Schema.name heq) (by decide)
      · exact hne rfl
  obtain ⟨tree, htree, hlinearise, -, hhidden⟩ := linearise_shadows diamond "Leaf" _ hroot
    (not_broken_of_ok hroot hlineage)
    fun s h => diamond_acyclic s (Relation.TransGen.mono (fun _ _ hstep => ⟨_, hstep⟩) s s h)
  exact ⟨tree, htree, hlinearise, rfl, hway, hhidden "size" _ _ rfl hway⟩

/-- The size of `Bottom` is that of `Top`, which is reached through `Left` first, although `Right`
is nearer and declares it anew. -/
theorem base_undoes_override :
    (∀ s, ¬Relation.TransGen (fun s t => ∃ kind, diamond.Inherits kind s t) s s) ∧
    ∃ lineage resolved, diamond.lineage "Bottom" = .ok lineage ∧
      diamond.linearise "Bottom" = .ok resolved ∧
      sized "Right" ["Top"] .raw ∈ lineage ∧ sized "Top" [] .text ∈ lineage ∧
      diamond.Inherits .item (sized "Right" ["Top"] .raw) (sized "Top" [] .text) ∧
      lineage.find? (·.declares "size") = some (sized "Top" [] .text) ∧
      resolved.fields = [("size", [.plain .text .document .string])] := by
  refine ⟨diamond_acyclic, _, _, rfl, rfl, ?_, ?_, ⟨"Top", List.mem_singleton_self _, rfl, rfl⟩,
    rfl, rfl⟩
  · simp
  · simp

end Registry

end Extractor
