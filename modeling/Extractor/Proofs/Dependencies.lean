import Extractor.Module.Order
import Extractor.Proofs.Outcome
import Mathlib.Data.List.Chain
import Mathlib.Data.List.Nodup
import Mathlib.Logic.Relation

/-!
# Extractor.Proofs.Dependencies

The order of dependencies. `visit` searches depth first; what it has finished is
at every moment a list in which each name comes after those it needs
(`Ordered`), and no name of the path gets into that list before the search
comes back to it (`Extends`). So the whole search either puts all names in order,
or it meets a name of its own path again, and then the path shows a cycle
(`IsCycle`).
-/

namespace Extractor.Dependencies

open Outcome

variable {edges : Edges} {path done result needed names : List String} {a b name : String}
  {e : AssembleError}

/-! ## graphs -/

/-- The names that have an entry. -/
def keys (edges : Edges) : List String := edges.map Prod.fst

/-- One name lists another one among those it depends on. -/
def Lists (edges : Edges) (a b : String) : Prop :=
  ∃ needed, edges.lookup a = some needed ∧ b ∈ needed

/-- A listed dependency that has an entry itself; the others do not count. -/
def Needs (edges : Edges) (a b : String) : Prop := Lists edges a b ∧ b ∈ keys edges

/-- No name needs itself, be it over others. -/
def Acyclic (edges : Edges) : Prop := ∀ a, ¬Relation.TransGen (Needs edges) a a

/-- A way along dependencies from a name back to it that meets no other name twice. -/
structure IsCycle (edges : Edges) (way : List String) : Prop where
  two_le_length : 2 ≤ way.length
  closed : way.head? = way.getLast?
  distinct : way.dropLast.Nodup
  linked : way.IsChain (Lists edges)

/-- What a name needs has its entry in front already. -/
def InOrder (edges : Edges) : Prop :=
  ∀ before name after, keys edges = before ++ name :: after → ∀ b, Needs edges name b → b ∈ before

theorem lookup_isSome_iff : (edges.lookup name).isSome ↔ name ∈ keys edges := by
  rw [List.lookup_isSome_iff, keys, List.mem_map]
  exact exists_congr fun entry => and_congr_right fun _ => by rw [beq_iff_eq, eq_comm]

theorem mem_keys_of_lookup (h : edges.lookup name = some needed) : name ∈ keys edges :=
  lookup_isSome_iff.mp (by simp [h])

theorem Lists.mem_keys (h : Lists edges a b) : a ∈ keys edges := by
  obtain ⟨needed, hentry, -⟩ := h
  exact mem_keys_of_lookup hentry

/-! ## one visit -/

/-- Names that are finished or have no entry change nothing. -/
theorem visit_of_settled (h : name ∈ done ∨ name ∉ keys edges) :
    visit edges path done name = .ok done := by
  rw [← lookup_isSome_iff] at h
  rw [visit]
  split
  · rfl
  · split
    · rfl
    · simp_all

/-- A name that is met again on the way closes a cycle. -/
theorem visit_on_path (hdone : name ∉ done) (hentry : edges.lookup name = some needed)
    (hpath : name ∈ path) :
    visit edges path done name =
      .error (.cyclicReference (path.dropWhile (· ≠ name) ++ [name])) := by
  rw [visit, if_neg (by simpa using hdone)]
  split
  · simp_all
  · rw [dif_pos (by simpa using hpath)]

/-- Any other name is put behind everything that it needs. -/
theorem visit_off_path (hdone : name ∉ done) (hentry : edges.lookup name = some needed)
    (hpath : name ∉ path) :
    visit edges path done name =
      needed.foldlM (visit edges (path ++ [name])) done >>= fun done => return done ++ [name] := by
  rw [visit, if_neg (by simpa using hdone)]
  split
  · simp_all
  · rw [dif_neg (by simpa using hpath)]
    simp_all

/-- Names that are settled add nothing. -/
theorem foldlM_of_settled (h : ∀ name ∈ names, name ∈ done ∨ name ∉ keys edges) :
    names.foldlM (visit edges path) done = .ok done := by
  induction names with
  | nil => rfl
  | cons name names ih =>
      rw [List.foldlM_cons, visit_of_settled (h name List.mem_cons_self)]
      exact ih fun b hb => h b (List.mem_cons_of_mem name hb)

/-! ## the invariant -/

/-- A list of names with entries in which each name comes after those it needs. -/
structure Ordered (edges : Edges) (done : List String) : Prop where
  nodup : done.Nodup
  mem_keys : ∀ a ∈ done, a ∈ keys edges
  earlier : ∀ a ∈ done, ∀ b, Needs edges a b → b ∈ done ∧ done.idxOf b < done.idxOf a

theorem Ordered.nil : Ordered edges [] := ⟨List.nodup_nil, by simp, by simp⟩

/-- A name may be added once all it needs is there. -/
theorem Ordered.append (h : Ordered edges done) (hkey : name ∈ keys edges) (hnew : name ∉ done)
    (hneeds : ∀ b, Needs edges name b → b ∈ done) : Ordered edges (done ++ [name]) := by
  have hlast : (done ++ [name]).idxOf name = done.length := by
    rw [List.idxOf_append, if_neg hnew]
    simp
  have hold : ∀ b ∈ done, (done ++ [name]).idxOf b = done.idxOf b := by
    intro b hb
    rw [List.idxOf_append, if_pos hb]
  refine ⟨?_, ?_, ?_⟩
  · rw [← List.concat_eq_append]
    exact List.Nodup.concat hnew h.nodup
  · intro a ha
    rcases List.mem_append.mp ha with ha | ha
    · exact h.mem_keys a ha
    · exact List.mem_singleton.mp ha ▸ hkey
  · intro a ha b hb
    rcases List.mem_append.mp ha with ha | ha
    · obtain ⟨hmem, hlt⟩ := h.earlier a ha b hb
      rw [hold a ha, hold b hmem]
      exact ⟨List.mem_append_left _ hmem, hlt⟩
    · rw [List.mem_singleton.mp ha] at hb ⊢
      have hmem := hneeds b hb
      rw [hlast, hold b hmem]
      exact ⟨List.mem_append_left _ hmem, List.idxOf_lt_length_of_mem hmem⟩

/-- What visits on a path leave behind: an ordered list that goes on where the one before ended and
holds no further name of the path. -/
structure Extends (edges : Edges) (path done result : List String) : Prop where
  ordered : Ordered edges result
  grows : done <+: result
  avoids : ∀ a ∈ path, a ∈ result → a ∈ done

/-- Every order extends itself, and extensions can be put together. -/
theorem Extends.refl (h : Ordered edges done) : Extends edges path done done :=
  ⟨h, List.prefix_refl done, fun _ _ ha => ha⟩

theorem Extends.trans {middle : List String} (h : Extends edges path done middle)
    (h' : Extends edges path middle result) : Extends edges path done result :=
  ⟨h'.ordered, h.grows.trans h'.grows, fun a ha hr => h.avoids a ha (h'.avoids a ha hr)⟩

/-- A run of visits extends the list if each one does, and finishes all names with entries. -/
theorem foldlM_extends
    (hvisit : ∀ done name result, Ordered edges done → visit edges path done name = .ok result →
      Extends edges path done result ∧ (name ∈ keys edges → name ∈ result))
    (hdone : Ordered edges done) (h : names.foldlM (visit edges path) done = .ok result) :
    Extends edges path done result ∧ ∀ name ∈ names, name ∈ keys edges → name ∈ result := by
  induction names generalizing done with
  | nil =>
      simp only [List.foldlM_nil, pure_eq_ok] at h
      exact h ▸ ⟨.refl hdone, by simp⟩
  | cons name names ih =>
      rw [List.foldlM_cons, bind_eq_ok] at h
      obtain ⟨middle, hfirst, h⟩ := h
      obtain ⟨hstep, hname⟩ := hvisit done name middle hdone hfirst
      obtain ⟨hrest, hnames⟩ := ih hstep.ordered h
      refine ⟨hstep.trans hrest, fun b hb hkey => ?_⟩
      rcases List.mem_cons.mp hb with rfl | hb
      · exact hrest.grows.subset (hname hkey)
      · exact hnames b hb hkey

/-- A visit extends the list and finishes its name. -/
theorem visit_extends (hdone : Ordered edges done)
    (h : visit edges path done name = .ok result) :
    Extends edges path done result ∧ (name ∈ keys edges → name ∈ result) := by
  induction path, done, name using visit.induct edges generalizing result with
  | case1 path done name hin =>
      have hmem : name ∈ done := by simpa using hin
      rw [visit_of_settled (.inl hmem), Except.ok.injEq] at h
      exact h ▸ ⟨.refl hdone, fun _ => hmem⟩
  | case2 path done name hout hnone =>
      have hkey : name ∉ keys edges := by simp [← lookup_isSome_iff, hnone]
      rw [visit_of_settled (.inr hkey), Except.ok.injEq] at h
      exact h ▸ ⟨.refl hdone, fun hk => absurd hk hkey⟩
  | case3 path done name hout needed hentry hpath =>
      rw [visit_on_path (by simpa using hout) hentry (by simpa using hpath)] at h
      contradiction
  | case4 path done name hout needed hentry hpath ih =>
      have hnot : name ∉ done := by simpa using hout
      rw [visit_off_path hnot hentry (by simpa using hpath), bind_eq_ok] at h
      obtain ⟨inner, hinner, h⟩ := h
      rw [pure_eq_ok] at h
      subst h
      -- the name itself is on the path of the inner visits, so it is still missing behind them
      obtain ⟨hext, hall⟩ := foldlM_extends (fun done b result => ih done b) hdone hinner
      have hnew : name ∉ inner := fun hmem => hnot (hext.avoids name (by simp) hmem)
      have hneeds : ∀ b, Needs edges name b → b ∈ inner := by
        rintro b ⟨⟨needed', hentry', hb⟩, hkey⟩
        rw [hentry, Option.some.injEq] at hentry'
        exact hall b (hentry' ▸ hb) hkey
      refine ⟨⟨hext.ordered.append (mem_keys_of_lookup hentry) hnew hneeds,
        hext.grows.trans (List.prefix_append _ _), fun a ha hmem => ?_⟩, fun _ => by simp⟩
      rcases List.mem_append.mp hmem with hmem | hmem
      · exact hext.avoids a (List.mem_append_left _ ha) hmem
      · rw [List.mem_singleton.mp hmem] at ha
        exact absurd ha (by simpa using hpath)

/-! ## cycles -/

/-- Coming back to a name of the path closes a cycle. -/
theorem isCycle_of_mem_path (hnodup : path.Nodup) (hchain : (path ++ [name]).IsChain (Lists edges))
    (hpath : name ∈ path) : IsCycle edges (path.dropWhile (· ≠ name) ++ [name]) := by
  obtain ⟨front, rest, rfl, hfront⟩ := List.eq_append_cons_of_mem hpath
  have hdrop : (front ++ name :: rest).dropWhile (· ≠ name) = name :: rest := by
    rw [List.dropWhile_append_of_pos, List.dropWhile_cons_of_neg]
    · simp
    · intro b hb
      have hne : b ≠ name := fun he => hfront (he ▸ hb)
      simpa using hne
  rw [hdrop]
  refine ⟨by simp, ?_, ?_, ?_⟩
  · rw [List.getLast?_concat]
    rfl
  · rw [List.dropLast_concat]
    exact (List.nodup_append'.mp hnodup).2.1
  · rw [List.append_assoc] at hchain
    exact hchain.right_of_append

/-- A visit that fails has found a cycle. -/
theorem visit_error (hnodup : path.Nodup) (hchain : (path ++ [name]).IsChain (Lists edges))
    (h : visit edges path done name = .error e) :
    ∃ way, e = .cyclicReference way ∧ IsCycle edges way := by
  induction path, done, name using visit.induct edges with
  | case1 path done name hin =>
      rw [visit_of_settled (.inl (by simpa using hin))] at h
      contradiction
  | case2 path done name hout hnone =>
      rw [visit_of_settled (.inr (by simp [← lookup_isSome_iff, hnone]))] at h
      contradiction
  | case3 path done name hout needed hentry hpath =>
      have hmem : name ∈ path := by simpa using hpath
      rw [visit_on_path (by simpa using hout) hentry hmem, Except.error.injEq] at h
      exact ⟨_, h.symm, isCycle_of_mem_path hnodup hchain hmem⟩
  | case4 path done name hout needed hentry hpath ih =>
      have hoff : name ∉ path := by simpa using hpath
      rw [visit_off_path (by simpa using hout) hentry hoff, bind_eq_error] at h
      rcases h with h | ⟨inner, -, h⟩
      · obtain ⟨b, hb, done', hfail⟩ := foldlM_eq_error h
        refine ih done' b ?_ ?_ hfail
        · rw [← List.concat_eq_append]
          exact List.Nodup.concat hoff hnodup
        · have hlast : ([name] ++ [b]).IsChain (Lists edges) := by
            simpa using ⟨needed, hentry, hb⟩
          exact hchain.append_overlap hlast (List.cons_ne_nil name [])
      · exact absurd h pure_ne_error

/-- A cycle ends where it starts. -/
theorem IsCycle.exists_eq_cons {way : List String} (h : IsCycle edges way) :
    ∃ first middle, way = first :: (middle ++ [first]) := by
  match way, h.two_le_length, h.closed with
  | first :: second :: rest, _, hclosed =>
      have hlast : (second :: rest).getLast (by simp) = first := by
        simpa [List.getLast?_cons_cons, List.getLast?_eq_some_getLast] using hclosed.symm
      refine ⟨first, (second :: rest).dropLast, ?_⟩
      rw [← hlast, List.dropLast_concat_getLast]

/-- A cycle goes through names with entries only: each of them lists the next one. -/
theorem IsCycle.mem_keys {way : List String} (h : IsCycle edges way) :
    ∀ b ∈ way, b ∈ keys edges := by
  obtain ⟨first, middle, rfl⟩ := h.exists_eq_cons
  have hfront : ∀ b ∈ first :: middle, b ∈ keys edges := by
    intro b hb
    obtain ⟨front, rest, hsplit⟩ := List.append_of_mem hb
    have hchain : (b :: (rest ++ [first])).IsChain (Lists edges) := by
      have hlinked := h.linked
      rw [← List.cons_append, hsplit, List.append_assoc] at hlinked
      exact hlinked.right_of_append
    cases rest with
    | nil => exact (hchain.rel_head? rfl).mem_keys
    | cons next rest => exact (hchain.rel_head? rfl).mem_keys
  intro b hb
  rw [← List.cons_append, List.mem_append, List.mem_singleton] at hb
  rcases hb with hb | rfl
  · exact hfront b hb
  · exact hfront b List.mem_cons_self

/-- A graph with a cycle is not acyclic. -/
theorem IsCycle.not_acyclic {way : List String} (h : IsCycle edges way) : ¬Acyclic edges := by
  have hneeds : way.IsChain (Needs edges) :=
    h.linked.imp_of_mem_imp fun a b _ hb hlists => ⟨hlists, h.mem_keys b hb⟩
  obtain ⟨first, middle, rfl⟩ := h.exists_eq_cons
  have hne : middle ++ [first] ≠ [] := by simp
  have hstart : Needs edges first ((middle ++ [first]).head hne) :=
    hneeds.rel_head? (List.head_mem_head? hne)
  have hway := List.relationReflTransGen_of_exists_isChain (middle ++ [first]) hneeds.tail hne
  rw [List.getLast_concat] at hway
  exact fun hacyclic => hacyclic first (Relation.TransGen.head' hstart hway)

/-- Where all names are in order there is no cycle: needs lead to the front. -/
theorem Ordered.acyclic (h : Ordered edges done) (hall : ∀ name ∈ keys edges, name ∈ done) :
    Acyclic edges := by
  have hdescends : ∀ a b, Relation.TransGen (Needs edges) a b → done.idxOf b < done.idxOf a := by
    intro a b hab
    induction hab with
    | single hneeds => exact (h.earlier a (hall a hneeds.1.mem_keys) _ hneeds).2
    | tail _ hneeds ih =>
        exact Nat.lt_trans (h.earlier _ (hall _ hneeds.1.mem_keys) _ hneeds).2 ih
  exact fun a ha => Nat.lt_irrefl _ (hdescends a a ha)

/-! ## the whole order -/

/-- What is ordered is in order and has all names. -/
theorem order_ordered (h : order edges = .ok result) :
    Ordered edges result ∧ ∀ name ∈ keys edges, name ∈ result := by
  obtain ⟨hext, hall⟩ := foldlM_extends (fun _ _ _ => visit_extends) Ordered.nil h
  exact ⟨hext.ordered, fun name hname => hall name hname hname⟩

theorem order_perm (hnodup : (keys edges).Nodup) (h : order edges = .ok result) :
    result.Perm (keys edges) := by
  obtain ⟨hord, hall⟩ := order_ordered h
  exact (List.perm_ext_iff_of_nodup hord.nodup hnodup).mpr fun a => ⟨hord.mem_keys a, hall a⟩

/-- An order that fails names a cycle. -/
theorem order_error (h : order edges = .error e) :
    ∃ way, e = .cyclicReference way ∧ IsCycle edges way := by
  obtain ⟨name, -, done, hfail⟩ := foldlM_eq_error h
  exact visit_error List.nodup_nil (by simp) hfail

/-- **There is an order exactly if there is no cycle.** -/
theorem exists_order_iff : (∃ result, order edges = .ok result) ↔ Acyclic edges := by
  constructor
  · rintro ⟨result, h⟩
    obtain ⟨hord, hall⟩ := order_ordered h
    exact hord.acyclic hall
  · intro hacyclic
    cases h : order edges with
    | ok result => exact ⟨result, rfl⟩
    | error e =>
        obtain ⟨way, -, hway⟩ := order_error h
        exact absurd hacyclic hway.not_acyclic

/-- Names that are in order already stay as they are. -/
theorem order_of_inOrder (hnodup : (keys edges).Nodup) (h : InOrder edges) :
    order edges = .ok (keys edges) := by
  have hrun : ∀ before rest, keys edges = before ++ rest →
      rest.foldlM (visit edges []) before = .ok (keys edges) := by
    intro before rest
    induction rest generalizing before with
    | nil => intro hsplit; simp [hsplit, pure, Except.pure]
    | cons name rest ih =>
        intro hsplit
        have hnot : name ∉ before := by
          rw [hsplit, List.nodup_append'] at hnodup
          exact fun hmem => hnodup.2.2 hmem List.mem_cons_self
        obtain ⟨needed, hentry⟩ : ∃ needed, edges.lookup name = some needed :=
          Option.isSome_iff_exists.mp (lookup_isSome_iff.mpr (by simp [hsplit]))
        have hsettled : ∀ b ∈ needed, b ∈ before ∨ b ∉ keys edges := by
          intro b hb
          by_cases hkey : b ∈ keys edges
          · exact .inl (h before name rest hsplit b ⟨⟨needed, hentry, hb⟩, hkey⟩)
          · exact .inr hkey
        rw [List.foldlM_cons, visit_off_path hnot hentry (by simp), foldlM_of_settled hsettled]
        exact ih (before ++ [name]) (by rw [hsplit, List.append_assoc]; rfl)
  exact hrun [] (keys edges) rfl

/-- **Dependency order**: for every map with distinct names the search ends, with an order exactly
when the map has no cycle. An order is a permutation of the names in which each one comes after
those it needs, and it is the given one if that is in order already. Otherwise the error shows a
cycle. -/
theorem order_sound (edges : Edges) (hnodup : (keys edges).Nodup) :
    ((∃ result, order edges = .ok result) ↔ Acyclic edges) ∧
    (∀ result, order edges = .ok result → result.Perm (keys edges) ∧
      ∀ a b, Needs edges a b → result.idxOf b < result.idxOf a) ∧
    (InOrder edges → order edges = .ok (keys edges)) ∧
    (∀ e, order edges = .error e → ∃ way, e = .cyclicReference way ∧ IsCycle edges way) := by
  refine ⟨exists_order_iff, fun result h => ⟨order_perm hnodup h, ?_⟩, order_of_inOrder hnodup,
    fun e => order_error⟩
  intro a b hneeds
  obtain ⟨hord, hall⟩ := order_ordered h
  exact (hord.earlier a (hall a hneeds.1.mem_keys) b hneeds).2

/-- A diamond with a dependency that has no entry. -/
def diamond : Edges := [("a", ["b", "c", "x"]), ("b", ["d"]), ("c", ["d", "d"]), ("d", [])]

/-- A graph with two ways from one name to another. -/
theorem order_sound_diamond :
    (keys diamond).Nodup ∧ order diamond = .ok ["d", "b", "c", "a"] ∧ Acyclic diamond :=
  ⟨by decide, by cbv, (order_sound diamond (by decide)).1.mp ⟨["d", "b", "c", "a"], by cbv⟩⟩

end Extractor.Dependencies
