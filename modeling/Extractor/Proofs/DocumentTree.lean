import Mathlib.Data.List.Basic
import Mathlib.Data.List.Nodup

/-!
# Extractor.Proofs.DocumentTree

Documents as ordered trees of elements and texts. A node is named by its
place, the way from it up to the document; the axes of a place are lists of
places in the order of the axis:

* `mem_descendantsOrSelf` — what lies at a place or below it has that place as a suffix;
* `mem_children`, `mem_following` — a child has one more index, a later sibling a greater one;
* `find?_following` — between an element and the next one there is no other.
-/

namespace Extractor

/-- What an element says of itself: its name and its attributes, no two of the same name. -/
structure Tag where
  name : List Char
  attributes : List (List Char × List Char) := []
  distinct : (attributes.map Prod.fst).Nodup := by decide

/-- The value of an attribute. -/
def Tag.attribute? (t : Tag) (name : List Char) : Option (List Char) := t.attributes.lookup name

namespace Document

/-- A node of a document. -/
inductive Node where
  | text (data : List Char)
  | element (tag : Tag) (children : List Node)

namespace Node

/-- The tag of an element. -/
def tag? : Node → Option Tag
  | text _ => none
  | element tag _ => some tag

/-- Whether the node is an element. -/
def isElement (n : Node) : Bool := n.tag?.isSome

/-- The nodes in an element; a text has none. -/
def children : Node → List Node
  | text _ => []
  | element _ children => children

mutual

/-- All text in a node. -/
def content : Node → List Char
  | text data => data
  | element _ children => contents children

/-- All text in some nodes, in their order. -/
def contents : List Node → List Char
  | [] => []
  | n :: ns => n.content ++ contents ns

end

/-- Among nodes that are no elements there is no text exactly if each of them is an empty one. -/
theorem contents_eq_nil_iff {nodes : List Node} (h : ∀ n ∈ nodes, n.isElement = false) :
    contents nodes = [] ↔ ∀ n ∈ nodes, n = text [] := by
  induction nodes with
  | nil => simp [contents]
  | cons n ns ih =>
      have hns := ih fun m hm => h m (List.mem_cons_of_mem n hm)
      cases n with
      | text data => simp [contents, content, hns]
      | element tag children => simp [isElement, tag?] at h

end Node

/-- The way from a node up to the document: its index among its siblings, then the place of its
parent. The document itself is at the empty place. -/
abbrev Place := List Nat

/-- The nodes right below a place that is given from the parent of some nodes. -/
def childrenIn (nodes : List Node) : Place → List Node
  | [] => nodes
  | i :: p => ((childrenIn nodes p)[i]?.map Node.children).getD []

/-- The node at a place that is given from the parent of some nodes. -/
def nodeIn (nodes : List Node) : Place → Option Node
  | [] => none
  | i :: p => (childrenIn nodes p)[i]?

/-- Going down twice is going down the whole way. -/
theorem childrenIn_append (nodes : List Node) (r p : Place) :
    childrenIn nodes (r ++ p) = childrenIn (childrenIn nodes p) r := by
  induction r with
  | nil => rfl
  | cons i r ih => simp only [List.cons_append, childrenIn, ih]

theorem nodeIn_append (nodes : List Node) {r : Place} (p : Place) (h : r ≠ []) :
    nodeIn nodes (r ++ p) = nodeIn (childrenIn nodes p) r := by
  cases r with
  | nil => exact absurd rfl h
  | cons i r => simp only [List.cons_append, nodeIn, childrenIn_append]

mutual

/-- The places below a node that is at the place `p`, in document order. -/
def Node.placesBelow (p : Place) : Node → List Place
  | .text _ => []
  | .element _ children => placesFrom p 0 children

/-- The places of nodes that follow one another below the place `p`, and the places below them. -/
def placesFrom (p : Place) (i : Nat) : List Node → List Place
  | [] => []
  | n :: ns => (i :: p) :: (n.placesBelow (i :: p) ++ placesFrom p (i + 1) ns)

end

theorem childrenIn_nil (r : Place) : childrenIn [] r = [] := by
  induction r with
  | nil => rfl
  | cons i r ih => simp [childrenIn, ih]

theorem nodeIn_nil (r : Place) : nodeIn [] r = none := by
  cases r with
  | nil => rfl
  | cons i r => simp [nodeIn, childrenIn_nil]

/-- Places below the first node are places in its children, and any other place belongs to the nodes
behind it. -/
theorem nodeIn_first (n : Node) (ns : List Node) {r : Place} (h : r ≠ []) :
    nodeIn (n :: ns) (r ++ [0]) = nodeIn n.children r := by
  rw [nodeIn_append _ _ h]
  simp [childrenIn]

theorem nodeIn_later (n : Node) (ns : List Node) (r : Place) (j : Nat) :
    nodeIn (n :: ns) (r ++ [j + 1]) = nodeIn ns (r ++ [j]) := by
  by_cases h : r = []
  · simp [h, nodeIn, childrenIn]
  · have hchildren : childrenIn (n :: ns) [j + 1] = childrenIn ns [j] := by simp [childrenIn]
    rw [nodeIn_append _ _ h, nodeIn_append _ _ h, hchildren]

mutual

/-- The places below a node are the ways to nodes under it, by recursion over the tree. -/
theorem Node.mem_placesBelow {q p : Place} : (n : Node) →
    (q ∈ n.placesBelow p ↔ ∃ r, q = r ++ p ∧ (nodeIn n.children r).isSome)
  | .text _ => by simp [Node.placesBelow, Node.children, nodeIn_nil]
  | .element tag children => by
      rw [Node.placesBelow, mem_placesFrom children, Node.children]
      constructor
      · rintro ⟨r, j, rfl, hnode⟩
        exact ⟨r ++ [j], by simp, hnode⟩
      · rintro ⟨r, rfl, hnode⟩
        obtain rfl | ⟨s, j, rfl⟩ := r.eq_nil_or_concat
        · simp [nodeIn] at hnode
        · exact ⟨s, j, by simp, by simpa using hnode⟩

/-- The places in a list of nodes start at the place of one of them. -/
theorem mem_placesFrom {q p : Place} {i : Nat} : (nodes : List Node) →
    (q ∈ placesFrom p i nodes ↔ ∃ r j, q = r ++ (i + j) :: p ∧ (nodeIn nodes (r ++ [j])).isSome)
  | [] => by simp [placesFrom, nodeIn_nil]
  | n :: ns => by
      rw [placesFrom, List.mem_cons, List.mem_append, Node.mem_placesBelow n, mem_placesFrom ns]
      constructor
      · rintro (rfl | ⟨r, rfl, hnode⟩ | ⟨r, j, rfl, hnode⟩)
        · exact ⟨[], 0, rfl, rfl⟩
        · have hr : r ≠ [] := by rintro rfl; simp [nodeIn] at hnode
          exact ⟨r, 0, rfl, by rwa [nodeIn_first n ns hr]⟩
        · exact ⟨r, j + 1, by rw [show i + 1 + j = i + (j + 1) by omega],
            by rwa [nodeIn_later]⟩
      · rintro ⟨r, j, rfl, hnode⟩
        cases j with
        | zero =>
            by_cases hr : r = []
            · exact .inl (by simp [hr])
            · exact .inr (.inl ⟨r, rfl, by rwa [nodeIn_first n ns hr] at hnode⟩)
        | succ j =>
            exact .inr (.inr ⟨r, j, by rw [show i + 1 + j = i + (j + 1) by omega],
              by rwa [nodeIn_later] at hnode⟩)

end

end Document

/-! ## documents and axes -/

open Document

/-- A document, given by the nodes on its top level. -/
structure Document where
  nodes : List Node

namespace Document

variable (d : Document)

/-- The node at a place; the document itself is none. -/
def node? (p : Place) : Option Node := nodeIn d.nodes p

/-- The nodes right below a place. -/
def nodesAt (p : Place) : List Node := childrenIn d.nodes p

/-- The tag of the element at a place. -/
def tag? (p : Place) : Option Tag := (d.node? p).bind Node.tag?

/-- Whether an element is at a place. -/
def isElement (p : Place) : Bool := (d.tag? p).isSome

/-- The place and all places below it, in document order. -/
def descendantsOrSelf (p : Place) : List Place := p :: placesFrom p 0 (d.nodesAt p)

/-- The places right below a place. -/
def children (p : Place) : List Place := (List.range (d.nodesAt p).length).map (· :: p)

/-- The places of the later siblings, the nearest first. -/
def following : Place → List Place
  | [] => []
  | i :: p => (List.range' (i + 1) ((d.nodesAt p).length - (i + 1))).map (· :: p)

/-- The places of the earlier siblings, the nearest first. -/
def preceding : Place → List Place
  | [] => []
  | i :: p => (((List.range (d.nodesAt p).length).take i).map (· :: p)).reverse

variable {d}

theorem isSome_node? {p : Place} (h : d.isElement p = true) : (d.node? p).isSome := by
  cases hnode : d.node? p with
  | none => simp [isElement, tag?, hnode] at h
  | some n => rfl

theorem lt_of_isSome_node? {i : Nat} {p : Place} (h : (d.node? (i :: p)).isSome) :
    i < (d.nodesAt p).length := by
  have hget : ((d.nodesAt p)[i]?).isSome := h
  simpa using hget

/-- Only an element has nodes in it. -/
theorem isElement_parent {i : Nat} {p : Place} (h : (d.node? (i :: p)).isSome) (hp : p ≠ []) :
    d.isElement p = true := by
  have hlt := lt_of_isSome_node? h
  obtain ⟨j, r, rfl⟩ := List.exists_cons_of_ne_nil hp
  have hnodes : d.nodesAt (j :: r) = ((d.node? (j :: r)).map Node.children).getD [] := rfl
  rw [hnodes] at hlt
  cases hnode : d.node? (j :: r) with
  | none => simp [hnode] at hlt
  | some n =>
      cases n with
      | text data => simp [hnode, Node.children] at hlt
      | element tag children => simp [isElement, tag?, hnode, Node.tag?]

theorem ne_nil_of_isElement {p : Place} (h : d.isElement p = true) : p ≠ [] := by
  rintro rfl
  contradiction

/-- The descendants are the nodes whose way passes through a place. -/
theorem mem_descendantsOrSelf {p q : Place} (hq : (d.node? q).isSome) :
    q ∈ d.descendantsOrSelf p ↔ p <:+ q := by
  rw [descendantsOrSelf, List.mem_cons, mem_placesFrom]
  constructor
  · rintro (rfl | ⟨r, j, rfl, -⟩)
    · exact List.suffix_rfl
    · exact ⟨r ++ [j], by simp⟩
  · rintro ⟨r, rfl⟩
    obtain rfl | ⟨s, j, rfl⟩ := r.eq_nil_or_concat
    · exact .inl rfl
    · have hnode : d.node? (s.concat j ++ p) = nodeIn (d.nodesAt p) (s ++ [j]) := by
        rw [List.concat_eq_append]
        exact nodeIn_append d.nodes p (by simp)
      exact .inr ⟨s, j, by simp, hnode ▸ hq⟩

/-- The children are the nodes one step further down. -/
theorem mem_children {p q : Place} (hq : (d.node? q).isSome) :
    q ∈ d.children p ↔ ∃ i, q = i :: p := by
  rw [children, List.mem_map]
  constructor
  · rintro ⟨i, -, rfl⟩
    exact ⟨i, rfl⟩
  · rintro ⟨i, rfl⟩
    exact ⟨i, List.mem_range.mpr (lt_of_isSome_node? hq), rfl⟩

/-- The following siblings are the later children of the same parent. -/
theorem mem_following {p q : Place} (hq : (d.node? q).isSome) :
    q ∈ d.following p ↔ ∃ i j r, p = i :: r ∧ q = j :: r ∧ i < j := by
  cases p with
  | nil => simp [following]
  | cons i r =>
      rw [following, List.mem_map]
      constructor
      · rintro ⟨j, hj, rfl⟩
        rw [List.mem_range'_1] at hj
        exact ⟨i, j, r, rfl, rfl, by omega⟩
      · rintro ⟨i', j, r', heq, rfl, hlt⟩
        obtain ⟨rfl, rfl⟩ := List.cons.inj heq
        have hj := lt_of_isSome_node? hq
        exact ⟨j, List.mem_range'_1.mpr (by omega), rfl⟩

/-- The first element behind a place has no other one between. -/
theorem find?_following {p q : Place} :
    (d.following p).find? d.isElement = some q ↔ d.isElement q = true ∧
      ∃ i j r, p = i :: r ∧ q = j :: r ∧ i < j ∧
        ∀ k, i < k → k < j → d.isElement (k :: r) = false := by
  cases p with
  | nil => simp [following]
  | cons i r =>
      rw [following, List.find?_map, Option.map_eq_some_iff]
      simp only [List.find?_range'_eq_some, List.mem_range'_1, Function.comp_apply]
      constructor
      · rintro ⟨j, ⟨helement, hj, hbetween⟩, rfl⟩
        exact ⟨helement, i, j, r, rfl, rfl, by omega, fun k hik hkj =>
          by simpa using hbetween k hik hkj⟩
      · rintro ⟨helement, i', j, r', heq, rfl, hlt, hbetween⟩
        obtain ⟨rfl, rfl⟩ := List.cons.inj heq
        have hj := lt_of_isSome_node? (isSome_node? helement)
        exact ⟨j, ⟨helement, by omega, fun k hik hkj => by simpa using hbetween k hik hkj⟩, rfl⟩

end Document

end Extractor
