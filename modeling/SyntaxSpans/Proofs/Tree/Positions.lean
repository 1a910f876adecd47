import Mathlib.Data.List.Lex
import SyntaxSpans.Proofs.Tree.Children

set_option autoImplicit false

namespace SyntaxSpans

/-- Paths that part at one node are in the order of the children they go on with. -/
theorem append_lt_append_of_lt (front first second : List Nat) {lower higher : Nat}
    (ordered : lower < higher) :
    front ++ lower :: first < front ++ higher :: second :=
  List.Lex.append_left _ (.rel ordered) front

theorem lt_append_cons (front rest : List Nat) (next : Nat) : front < front ++ next :: rest := by
  have longer : front ++ [] < front ++ next :: rest := List.Lex.append_left _ .nil front
  rwa [List.append_nil] at longer

namespace Node

/-- A node of the subtree under `top`: `top` itself, or a child of such a node. -/
inductive Holds (top : Node) : Node → Prop
  | itself : top.Holds top
  | child {node parent : Node} (found : node.parent? = some parent) (held : top.Holds parent) :
      top.Holds node

/-- A node of the subtree under `top` other than `top`. -/
def HoldsBelow (top node : Node) : Prop :=
  ∃ parent, node.parent? = some parent ∧ top.Holds parent

/-- The number of each child on the way from the root. -/
def path (node : Node) : List Nat := node.above.reverse.map (·.left.length)

theorem Holds.size_le {top node : Node} (held : top.Holds node) :
    node.tree.size ≤ top.tree.size := by
  induction held with
  | itself => exact Nat.le_refl _
  | child found _ ih => exact Nat.le_of_lt (Nat.lt_of_lt_of_le (size_parent? found) ih)

theorem HoldsBelow.size_lt {top node : Node} (held : top.HoldsBelow node) :
    node.tree.size < top.tree.size := by
  obtain ⟨parent, found, above⟩ := held
  exact Nat.lt_of_lt_of_le (size_parent? found) above.size_le

section Places

variable {above : List Frame} {label : Label} {left : List Tree}

theorem mem_placesAfter (before : List Tree) (tree : Tree) (right : List Tree) :
    ⟨tree, ⟨label, before.reverse ++ left, right⟩ :: above⟩ ∈
      placesAfter above label left (before ++ tree :: right) := by
  induction before generalizing left with
  | nil => exact List.mem_cons_self
  | cons first before ih =>
      rw [List.reverse_cons, List.append_assoc, List.singleton_append]
      exact List.mem_cons_of_mem _ ih

theorem map_path_placesAfter (right : List Tree) :
    (placesAfter above label left right).map path =
      (List.range' left.length right.length).map fun index =>
        above.reverse.map (·.left.length) ++ [index] := by
  induction right generalizing left with
  | nil => rfl
  | cons tree right ih =>
      rw [placesAfter, List.map_cons, ih, List.length_cons, List.length_cons, List.range'_succ,
        List.map_cons]
      simp only [path, List.reverse_cons, List.map_append, List.map_cons, List.map_nil]

end Places

theorem mem_below_iff {node child : Node} : child ∈ node.below ↔ child.parent? = some node := by
  constructor
  · exact parent?_below
  · intro found
    obtain ⟨tree, _ | ⟨⟨label, left, right⟩, above⟩⟩ := child
    · cases found
    · cases found
      have member : ⟨tree, ⟨label, left.reverse.reverse ++ [], right⟩ :: above⟩ ∈
          placesAfter above label [] (left.reverse ++ tree :: right) := mem_placesAfter _ _ _
      rw [List.reverse_reverse, List.append_nil] at member
      exact member

/-- The children of a node are numbered from zero. -/
theorem map_path_below (node : Node) :
    node.below.map path =
      (List.range node.tree.children.length).map fun index => node.path ++ [index] := by
  rw [below, map_path_placesAfter, List.length_nil, ← List.range_eq_range']
  rfl

section Visit

variable {enter : Label → Bool} {node : Node}

theorem mem_visitTree_child {parent child : Node}
    (met : parent ∈ visitTree enter node.above node.tree) (enters : enter parent.label = true)
    (found : child.parent? = some parent) : child ∈ visitTree enter node.above node.tree := by
  induction node using inductionOnSize with
  | step node ih =>
      rw [visitTree_eq] at met ⊢
      refine List.mem_cons_of_mem _ ?_
      rcases List.mem_cons.mp met with rfl | deeper
      · rw [if_pos enters]
        have among := mem_below_iff.mpr found
        refine List.mem_flatMap.mpr ⟨child, among, ?_⟩
        rw [visitTree_eq]
        exact List.mem_cons_self
      · split at deeper
        · rename_i inside
          rw [if_pos inside]
          obtain ⟨branch, among, member⟩ := List.mem_flatMap.mp deeper
          have smaller := size_parent? (parent?_below among)
          exact List.mem_flatMap.mpr ⟨branch, among, ih branch smaller member⟩
        · cases deeper

/-- A visit meets nothing but its own node and children of nodes that it meets and may enter. -/
theorem eq_or_parent?_of_mem_visitTree {visited : Node}
    (met : visited ∈ visitTree enter node.above node.tree) :
    visited = node ∨ ∃ parent, visited.parent? = some parent ∧ enter parent.label = true ∧
      parent ∈ visitTree enter node.above node.tree := by
  induction node using inductionOnSize with
  | step node ih =>
      have start : node ∈ visitTree enter node.above node.tree := by
        rw [visitTree_eq]
        exact List.mem_cons_self
      rw [visitTree_eq] at met
      rcases List.mem_cons.mp met with same | deeper
      · exact .inl same
      · split at deeper
        · rename_i inside
          obtain ⟨branch, among, member⟩ := List.mem_flatMap.mp deeper
          have up := parent?_below among
          rcases ih branch (size_parent? up) member with rfl | ⟨parent, found, enters, within⟩
          · exact .inr ⟨node, up, inside, start⟩
          · refine .inr ⟨parent, found, enters, ?_⟩
            rw [visitTree_eq, if_pos inside]
            exact List.mem_cons_of_mem _ (List.mem_flatMap.mpr ⟨branch, among, within⟩)
        · cases deeper

/-- A visit meets exactly the nodes under its start of which it may enter every proper ancestor
there. -/
theorem mem_visitTree_iff {visited : Node} :
    visited ∈ visitTree enter node.above node.tree ↔
      node.Holds visited ∧
        ∀ ancestor, node.Holds ancestor → ancestor.HoldsBelow visited →
          enter ancestor.label = true := by
  constructor
  · intro met
    -- Upward from the visited node: its parent is met too, and stands one level higher.
    induction depth : visited.above.length using Nat.strongRecOn generalizing visited with
    | ind depth ih =>
        subst depth
        rcases eq_or_parent?_of_mem_visitTree met with rfl | ⟨parent, found, enters, within⟩
        · -- A node both under the start and above it would be smaller than itself.
          refine ⟨.itself, fun ancestor held below => ?_⟩
          exact absurd below.size_lt (Nat.not_lt.mpr held.size_le)
        · have higher : parent.above.length < visited.above.length := by
            have := parent?_length found
            omega
          obtain ⟨held, clear⟩ := ih _ higher within rfl
          refine ⟨.child found held, fun ancestor upper ⟨other, found', lower⟩ => ?_⟩
          cases found.symm.trans found'
          cases lower with
          | itself => exact enters
          | child up above => exact clear ancestor upper ⟨_, up, above⟩
  · rintro ⟨held, clear⟩
    induction held with
    | itself =>
        rw [visitTree_eq]
        exact List.mem_cons_self
    | @child visited parent found held ih =>
        have within : parent ∈ visitTree enter node.above node.tree :=
          ih fun ancestor upper ⟨other, up, lower⟩ =>
            clear ancestor upper ⟨parent, found, .child up lower⟩
        exact mem_visitTree_child within (clear parent held ⟨parent, found, .itself⟩) found

end Visit

section Order

theorem path_isPrefix_of_parent? {node parent : Node} (found : node.parent? = some parent) :
    parent.path <+: node.path := by
  unfold parent? at found
  split at found
  · cases found
  · rename_i frame rest above
    cases found
    simp only [path, above, List.reverse_cons, List.map_append]
    exact List.prefix_append _ _

/-- The path of a node goes through every node above it. -/
theorem Holds.path_isPrefix {top node : Node} (held : top.Holds node) : top.path <+: node.path := by
  induction held with
  | itself => exact List.prefix_rfl
  | child found _ ih => exact ih.trans (path_isPrefix_of_parent? found)

theorem path_of_mem_below {node child : Node} (among : child ∈ node.below) :
    ∃ index, child.path = node.path ++ [index] := by
  have numbered : child.path ∈ node.below.map path := List.mem_map_of_mem among
  rw [map_path_below] at numbered
  obtain ⟨index, -, route⟩ := List.mem_map.mp numbered
  exact ⟨index, route.symm⟩

/-- Whatever lies under one child comes before whatever lies under a later one. -/
theorem pairwise_path_below (node : Node) :
    node.below.Pairwise fun first second =>
      ∀ rest rest', first.path ++ rest < second.path ++ rest' := by
  have numbered : (node.below.map path).Pairwise fun first second =>
      ∀ rest rest', first ++ rest < second ++ rest' := by
    rw [map_path_below]
    refine List.pairwise_map.mpr (List.pairwise_lt_range.imp ?_)
    intro lower higher ordered rest rest'
    rw [List.append_assoc, List.append_assoc]
    exact append_lt_append_of_lt _ _ _ ordered
  exact List.pairwise_map.mp numbered

/-- A visit follows the order of paths, so it meets no node twice. -/
theorem pairwise_path_visitTree (enter : Label → Bool) (node : Node) :
    (visitTree enter node.above node.tree).Pairwise fun first second =>
      first.path < second.path := by
  induction node using inductionOnSize with
  | step node ih =>
      rw [visitTree_eq]
      refine List.pairwise_cons.mpr ⟨fun visited deeper => ?_, ?_⟩
      · split at deeper
        · obtain ⟨child, among, met⟩ := List.mem_flatMap.mp deeper
          obtain ⟨index, route⟩ := path_of_mem_below among
          obtain ⟨rest, onward⟩ := (mem_visitTree_iff.mp met).1.path_isPrefix
          rw [← onward, route, List.append_assoc]
          exact lt_append_cons _ _ _
        · cases deeper
      · split
        · refine List.pairwise_flatMap.mpr ⟨fun child among => ?_, ?_⟩
          · exact ih child (size_parent? (parent?_below among))
          · -- The paths below two children go on from theirs, which part already.
            refine node.pairwise_path_below.imp ?_
            intro first second ordered visited met visited' met'
            obtain ⟨rest, onward⟩ := (mem_visitTree_iff.mp met).1.path_isPrefix
            obtain ⟨rest', onward'⟩ := (mem_visitTree_iff.mp met').1.path_isPrefix
            rw [← onward, ← onward']
            exact ordered rest rest'
        · exact List.Pairwise.nil

end Order

theorem Holds.ofBelow {top node child : Node} (held : top.Holds node)
    (among : child ∈ node.below) : top.Holds child := .child (mem_below_iff.mp among) held

theorem nodup_outsideExtras (node : Node) : node.outsideExtras.Nodup :=
  (pairwise_path_visitTree _ node).imp fun {first second} before same => by
    subst same
    exact List.lt_irrefl _ before

/-- A visit that goes below no extra node meets what lies in no extra node. -/
theorem mem_outsideExtras_iff {top node : Node} :
    node ∈ top.outsideExtras ↔ top.Holds node ∧
      ∀ ancestor, top.Holds ancestor → ancestor.HoldsBelow node →
        ancestor.label.extra = false := by
  unfold outsideExtras
  rw [mem_visitTree_iff]
  simp only [Bool.not_eq_true']

end Node

end SyntaxSpans
