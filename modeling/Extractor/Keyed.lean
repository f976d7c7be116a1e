/-!
# Extractor.Keyed

Lists of named things in the order in which their names first came. The members
of an object, the fields of a record and the schemas of a module are such lists.
-/

namespace Extractor.Keyed

variable {α : Type}

/-- Sets the value of a key: an existing key keeps its place, a new one goes last. -/
def insert (key : String) (value : α) : List (String × α) → List (String × α)
  | [] => [(key, value)]
  | (k, v) :: rest => if k = key then (key, value) :: rest else (k, v) :: insert key value rest

/-- Collects pairs in order; the last value of a repeated key stands in its first place. -/
def collect (pairs : List (String × α)) : List (String × α) :=
  pairs.foldl (fun acc (k, v) => insert k v acc) []

/-- The first pair of every key. -/
def firsts : List (String × α) → List (String × α)
  | [] => []
  | (k, v) :: rest => (k, v) :: (firsts rest).filter (·.1 ≠ k)

end Extractor.Keyed
