import Extractor.AssembleError

/-!
# Extractor.Module.Order

Putting names in an order in which everything comes after what it depends on.
Apart from that, the given order is kept. The search goes on along a path of
distinct names, so it ends when no name is left beside the path.
-/

namespace Extractor.Dependencies

/-- Names with the names they depend on. -/
abbrev Edges := List (String × List String)

/-- The number of entries whose names are not on a path. -/
def offPath (edges : Edges) (path : List String) : Nat :=
  edges.countP fun entry => !path.contains entry.1

/-- A name that has an entry leaves fewer of them beside the path when it is added to it. -/
theorem offPath_append_lt {edges : Edges} {path needed : List String} {name : String}
    (hentry : edges.lookup name = some needed) (hpath : ¬path.contains name = true) :
    offPath edges (path ++ [name]) < offPath edges path := by
  induction edges with
  | nil => simp at hentry
  | cons entry rest ih =>
      obtain ⟨key, value⟩ := entry
      have hle : offPath rest (path ++ [name]) ≤ offPath rest path :=
        List.countP_mono_left fun x _ hx => by simp_all
      simp only [offPath, List.countP_cons] at ih hle ⊢
      by_cases hkey : name = key
      · subst hkey
        have hnew : ¬(!(path ++ [name]).contains name) = true := by simp
        rw [if_neg hnew, if_pos (by simpa using hpath)]
        omega
      · have hbeq : (name == key) = false := by simpa using hkey
        have hlt := ih (by rwa [List.lookup_cons, hbeq] at hentry)
        have hsame : (path ++ [name]).contains key = path.contains key := by
          simp [Ne.symm hkey]
        rw [hsame]
        omega

/-- Adds a name behind those it depends on. `path` leads to it from where the search started. Names
without an entry are passed over. -/
def visit (edges : Edges) (path : List String) :
    List String → String → Except AssembleError (List String) :=
  fun done name =>
    if done.contains name then .ok done
    else match _ : edges.lookup name with
      | none => .ok done
      | some needed =>
          if _ : path.contains name then
            .error (.cyclicReference (path.dropWhile (· ≠ name) ++ [name]))
          else do
            let done ← needed.foldlM (visit edges (path ++ [name])) done
            return done ++ [name]
termination_by offPath edges path
decreasing_by exact offPath_append_lt (by assumption) (by assumption)

/-- The names in order; an error tells the way round a cycle. -/
def order (edges : Edges) : Except AssembleError (List String) :=
  (edges.map Prod.fst).foldlM (visit edges []) []

end Extractor.Dependencies
