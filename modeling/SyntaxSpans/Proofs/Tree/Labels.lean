import SyntaxSpans.Tree.Basic

set_option autoImplicit false

namespace SyntaxSpans.Tree

def structuralChildren (tree : Tree) : List Tree :=
  tree.children.filter fun child => !child.label.extra

mutual

def labels : Tree → List Label
  | node label children => label :: labelsAll children

def labelsAll : List Tree → List Label
  | [] => []
  | tree :: rest => tree.labels ++ labelsAll rest

end

/-- No node of the tree has this kind. -/
def Lacks (tree : Tree) (kind : String) : Prop := ∀ label ∈ tree.labels, label.name ≠ kind

theorem size_le_sizeAll {tree : Tree} {trees : List Tree} (member : tree ∈ trees) :
    tree.size ≤ sizeAll trees := by
  induction trees with
  | nil => cases member
  | cons first rest ih =>
      simp only [sizeAll]
      rcases List.mem_cons.mp member with rfl | later
      · omega
      · have := ih later
        omega

theorem size_of_mem_children {tree child : Tree} (member : child ∈ tree.children) :
    child.size < tree.size := by
  obtain ⟨label, children⟩ := tree
  have part : child.size ≤ sizeAll children := size_le_sizeAll member
  simp only [size]
  omega

theorem mem_labels_self (tree : Tree) : tree.label ∈ tree.labels := by
  cases tree
  exact List.mem_cons_self

theorem mem_labelsAll {tree : Tree} {trees : List Tree} {label : Label} (among : tree ∈ trees)
    (member : label ∈ tree.labels) : label ∈ labelsAll trees := by
  induction trees with
  | nil => cases among
  | cons first rest ih =>
      unfold labelsAll
      rcases List.mem_cons.mp among with rfl | later
      · exact List.mem_append_left _ member
      · exact List.mem_append_right _ (ih later)

theorem mem_labels_of_child {tree child : Tree} {label : Label} (among : child ∈ tree.children)
    (member : label ∈ child.labels) : label ∈ tree.labels := by
  cases tree
  exact List.mem_cons_of_mem _ (mem_labelsAll among member)

theorem Lacks.child {tree child : Tree} {kind : String} (lacks : tree.Lacks kind)
    (among : child ∈ tree.children) : child.Lacks kind :=
  fun label member => lacks label (mem_labels_of_child among member)

theorem Lacks.name_ne {tree : Tree} {kind : String} (lacks : tree.Lacks kind) :
    tree.label.name ≠ kind := lacks _ tree.mem_labels_self

end SyntaxSpans.Tree
