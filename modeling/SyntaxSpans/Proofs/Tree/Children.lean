import Mathlib.Data.List.Basic
import SyntaxSpans.Proofs.Tree.Labels
import SyntaxSpans.Proofs.Tree.Preorder

set_option autoImplicit false

namespace SyntaxSpans

theorem flatMap_filter {α β : Type} (keep : α → Bool) (f : α → List β) (list : List α) :
    (list.filter keep).flatMap f = list.flatMap fun item => if keep item then f item else [] := by
  induction list with
  | nil => rfl
  | cons first rest ih =>
      rw [List.filter_cons, List.flatMap_cons, ← ih]
      cases keep first with
      | true => rfl
      | false => rfl

namespace Node

/-- The places of the children of one node that follow `left`. -/
def placesAfter (above : List Frame) (label : Label) (left : List Tree) : List Tree → List Node
  | [] => []
  | tree :: right =>
      ⟨tree, ⟨label, left, right⟩ :: above⟩ :: placesAfter above label (tree :: left) right

def below (node : Node) : List Node := placesAfter node.above node.label [] node.tree.children

theorem map_tree_placesAfter (above : List Frame) (label : Label) (left right : List Tree) :
    (placesAfter above label left right).map (·.tree) = right := by
  induction right generalizing left with
  | nil => rfl
  | cons tree right ih => simp only [placesAfter, List.map_cons, ih]

theorem map_tree_below (node : Node) : node.below.map (·.tree) = node.tree.children :=
  map_tree_placesAfter _ _ _ _

theorem tree_mem_children {node child : Node} (member : child ∈ node.below) :
    child.tree ∈ node.tree.children := by
  rw [← node.map_tree_below]
  exact List.mem_map_of_mem member

/-- The frame of a place and its tree make up all children again. -/
theorem parent?_placesAfter {above : List Frame} {label : Label} {left right : List Tree}
    {child : Node} (member : child ∈ placesAfter above label left right) :
    child.parent? = some ⟨.node label (left.reverse ++ right), above⟩ := by
  induction right generalizing left with
  | nil => cases member
  | cons tree right ih =>
      rcases List.mem_cons.mp member with rfl | later
      · rfl
      · rw [ih later, List.reverse_cons, List.append_assoc, List.singleton_append]

theorem parent?_below {node child : Node} (member : child ∈ node.below) :
    child.parent? = some node := by
  rw [parent?_placesAfter member, List.reverse_nil, List.nil_append]
  obtain ⟨tree, above⟩ := node
  rw [label, Tree.node_label_children]

theorem size_parent? {node parent : Node} (found : node.parent? = some parent) :
    node.tree.size < parent.tree.size := by
  unfold parent? at found
  split at found
  · cases found
  · cases found
    apply Tree.size_of_mem_children
    exact List.mem_append_right _ List.mem_cons_self

theorem visitAll_eq (enter : Label → Bool) (above : List Frame) (label : Label)
    (left right : List Tree) :
    visitAll enter above label left right =
      (placesAfter above label left right).flatMap fun child =>
        visitTree enter child.above child.tree := by
  induction right generalizing left with
  | nil => rfl
  | cons tree right ih => simp only [visitAll, placesAfter, List.flatMap_cons, ih]

theorem visitTree_eq (enter : Label → Bool) (node : Node) :
    visitTree enter node.above node.tree =
      node :: if enter node.label then
        node.below.flatMap fun child => visitTree enter child.above child.tree
      else [] := by
  obtain ⟨⟨label, children⟩, above⟩ := node
  simp only [visitTree, visitAll_eq]
  rfl

theorem inductionOnSize {motive : Node → Prop}
    (step : ∀ node, (∀ smaller : Node, smaller.tree.size < node.tree.size → motive smaller) →
      motive node) (node : Node) : motive node :=
  step node fun smaller _ => inductionOnSize step smaller
termination_by node.tree.size

theorem label_mem_labels {enter : Label → Bool} {node visited : Node}
    (member : visited ∈ visitTree enter node.above node.tree) :
    visited.label ∈ node.tree.labels := by
  induction node using inductionOnSize with
  | step node ih =>
      rw [visitTree_eq] at member
      rcases List.mem_cons.mp member with rfl | later
      · exact Tree.mem_labels_self _
      · split at later
        · obtain ⟨child, among, inside⟩ := List.mem_flatMap.mp later
          have inner := ih child (size_parent? (parent?_below among)) inside
          exact Tree.mem_labels_of_child (tree_mem_children among) inner
        · cases later

/-- What depends only on the trees below a node can be read off its children. -/
theorem flatMap_below {α : Type} {node : Node} {f : Node → List α} {g : Tree → List α}
    (same : ∀ child ∈ node.below, f child = g child.tree) :
    node.below.flatMap f = node.tree.children.flatMap g := by
  rw [← node.map_tree_below, List.flatMap_map]
  exact List.flatMap_congr same

/-- The place of the first child under a field is the one that is the first there. -/
theorem filter_isFirstUnder_placesAfter (above : List Frame) (label : Label) (field : String)
    (left right : List Tree) :
    ((placesAfter above label left right).filter (·.isFirstUnder field)).map (·.tree) =
      if left.all fun sibling => !sibling.isField field then
        (right.find? (·.isField field)).toList
      else [] := by
  induction right generalizing left with
  | nil => simp only [placesAfter, List.filter_nil, List.map_nil, List.find?_nil,
      Option.toList_none, ite_self]
  | cons tree right ih =>
      have first : Node.isFirstUnder ⟨tree, ⟨label, left, right⟩ :: above⟩ field =
        (tree.isField field && left.all fun sibling => !sibling.isField field) := rfl
      have onward := ih (tree :: left)
      rw [placesAfter, List.filter_cons, List.find?_cons, first]
      cases held : tree.isField field with
      | true =>
          -- None on the right of a sibling that is held under the field is the first there.
          simp only [List.all_cons, held, Bool.not_true, Bool.false_and, Bool.false_eq_true,
            ↓reduceIte] at onward
          rw [Bool.true_and]
          split
          · rw [List.map_cons, onward]
            rfl
          · exact onward
      | false =>
          simp only [List.all_cons, held, Bool.not_false, Bool.true_and] at onward
          exact onward

theorem flatMap_isFirstUnder {α : Type} (node : Node) (field : String) (f : Tree → List α) :
    (node.below.flatMap fun child => if child.isFirstUnder field then f child.tree else []) =
      (node.tree.childByField? field).toList.flatMap f := by
  have first : (node.below.filter (·.isFirstUnder field)).map (·.tree) =
      (node.tree.childByField? field).toList :=
    filter_isFirstUnder_placesAfter _ _ _ _ _
  rw [← flatMap_filter, ← first, List.flatMap_map]

end Node

end SyntaxSpans
