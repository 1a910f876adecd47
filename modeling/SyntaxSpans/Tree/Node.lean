import SyntaxSpans.Tree.Basic

set_option autoImplicit false

namespace SyntaxSpans

/-- One level of surroundings: the parent's label and the siblings, those on the left nearest
first. -/
structure Frame where
  parent : Label
  left : List Tree
  right : List Tree

/-- The parent's tree, with the given tree in the gap. -/
def Frame.fill (frame : Frame) (tree : Tree) : Tree :=
  .node frame.parent (frame.left.reverse ++ tree :: frame.right)

structure Node where
  tree : Tree
  above : List Frame

namespace Node

def root (tree : Tree) : Node := ⟨tree, []⟩

def label (node : Node) : Label := node.tree.label

def isKind (node : Node) (name : String) : Bool := node.tree.isKind name

def parent? (node : Node) : Option Node :=
  match node.above with
  | [] => none
  | frame :: rest => some ⟨frame.fill node.tree, rest⟩

/-- Whether the node is the first child that its parent holds under a field. -/
def isFirstUnder (node : Node) (field : String) : Bool :=
  match node.above with
  | [] => false
  | frame :: _ => node.tree.isField field && frame.left.all fun sibling => !sibling.isField field

/-- The kind names of the nodes around, from the parent outward. -/
def ancestorKinds (node : Node) : List String := node.above.map (·.parent.name)

mutual

/-- A tree and what is below it, in document order; the children of a node are visited only if
`enter` says so. -/
def visitTree (enter : Label → Bool) (above : List Frame) : Tree → List Node
  | .node label children =>
      ⟨.node label children, above⟩ ::
        if enter label then visitAll enter above label [] children else []

/-- The same for the children of one node that follow `left`. -/
def visitAll (enter : Label → Bool) (above : List Frame) (label : Label) (left : List Tree) :
    List Tree → List Node
  | [] => []
  | tree :: right =>
      visitTree enter (⟨label, left, right⟩ :: above) tree ++
        visitAll enter above label (tree :: left) right

end

def descendants (node : Node) : List Node := visitTree (fun _ => true) node.above node.tree

/-- The node and the nodes below it that lie in no extra node below it or at it. -/
def outsideExtras (node : Node) : List Node :=
  visitTree (fun label => !label.extra) node.above node.tree

theorem parent?_root (tree : Tree) : (root tree).parent? = none := rfl

theorem parent?_length {node parent : Node} (found : node.parent? = some parent) :
    parent.above.length + 1 = node.above.length := by
  unfold parent? at found
  split at found
  · cases found
  · rename_i frame rest above
    cases found
    rw [above]
    rfl

theorem ancestorKinds_parent? {node parent : Node} (found : node.parent? = some parent) :
    node.ancestorKinds = parent.label.name :: parent.ancestorKinds := by
  unfold parent? at found
  split at found
  · cases found
  · rename_i frame rest above
    cases found
    simp only [ancestorKinds, above, List.map_cons]
    rfl

theorem ancestorKinds_of_top {node : Node} (top : node.parent? = none) :
    node.ancestorKinds = [] := by
  unfold parent? at top
  split at top
  · rename_i above
    rw [ancestorKinds, above, List.map_nil]
  · cases top

end Node

end SyntaxSpans
