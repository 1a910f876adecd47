import SyntaxSpans.Proofs.Tree.Positions

set_option autoImplicit false

/- A tree without some of its nodes. Which nodes are dropped is told by their places, so of two equal
subtrees one may go and the other stay. Every place that stays has a place in the smaller tree, and
going up, going down and visiting come to the same before and after. -/
namespace SyntaxSpans

namespace Node

mutual

/-- A tree without the places below it that are dropped, with all that is below those. -/
def pruneTree (drops : Node → Bool) (above : List Frame) : Tree → Tree
  | .node label children => .node label (pruneAll drops above label [] children)

/-- The children of one node that follow `left`, without those that are dropped. -/
def pruneAll (drops : Node → Bool) (above : List Frame) (label : Label) (left : List Tree) :
    List Tree → List Tree
  | [] => []
  | tree :: right =>
      let rest := pruneAll drops above label (tree :: left) right
      if drops ⟨tree, ⟨label, left, right⟩ :: above⟩ then rest
      else pruneTree drops (⟨label, left, right⟩ :: above) tree :: rest

end

/-- The children of one node in front of `right`, the nearest first, without those that are
dropped. -/
def pruneLeft (drops : Node → Bool) (above : List Frame) (label : Label) :
    List Tree → List Tree → List Tree
  | [], _ => []
  | tree :: left, right =>
      let rest := pruneLeft drops above label left (tree :: right)
      if drops ⟨tree, ⟨label, left, right⟩ :: above⟩ then rest
      else pruneTree drops (⟨label, left, right⟩ :: above) tree :: rest

/-- The surroundings of a tree without the siblings that are dropped. -/
def pruneAbove (drops : Node → Bool) : Tree → List Frame → List Frame
  | _, [] => []
  | tree, frame :: above =>
      ⟨frame.parent, pruneLeft drops above frame.parent frame.left (tree :: frame.right),
        pruneAll drops above frame.parent (tree :: frame.left) frame.right⟩ ::
          pruneAbove drops (frame.fill tree) above

/-- The place of a node in the tree without the nodes that are dropped. -/
def prune (drops : Node → Bool) (node : Node) : Node :=
  ⟨pruneTree drops node.above node.tree, pruneAbove drops node.tree node.above⟩

end Node

def Tree.without (tree : Tree) (drops : Node → Bool) : Tree := Node.pruneTree drops [] tree

namespace Node

variable {drops : Node → Bool}

theorem prune_root (drops : Node → Bool) (tree : Tree) :
    (root tree).prune drops = root (tree.without drops) := rfl

theorem label_pruneTree (drops : Node → Bool) (above : List Frame) (tree : Tree) :
    (pruneTree drops above tree).label = tree.label := by
  cases tree with
  | node label children =>
      rw [pruneTree]
      rfl

theorem label_prune (drops : Node → Bool) (node : Node) : (node.prune drops).label = node.label :=
  label_pruneTree drops node.above node.tree

theorem isKind_prune (drops : Node → Bool) (node : Node) (kind : String) :
    (node.prune drops).isKind kind = node.isKind kind := by
  have same := label_prune drops node
  unfold label at same
  simp only [isKind, Tree.isKind, same]

theorem ancestorKinds_prune (drops : Node → Bool) (node : Node) :
    (node.prune drops).ancestorKinds = node.ancestorKinds := by
  obtain ⟨tree, above⟩ := node
  simp only [ancestorKinds, prune]
  induction above generalizing tree with
  | nil => rfl
  | cons frame above ih => rw [pruneAbove, List.map_cons, List.map_cons, ih]

/-- The children on both sides of a gap, put together again. -/
theorem pruneAll_reverse_append (above : List Frame) (label : Label) (left right : List Tree) :
    pruneAll drops above label [] (left.reverse ++ right) =
      (pruneLeft drops above label left right).reverse ++
        pruneAll drops above label left right := by
  induction left generalizing right with
  | nil => rfl
  | cons tree left ih =>
      rw [List.reverse_cons, List.append_assoc, List.singleton_append, ih, pruneLeft, pruneAll]
      split
      · rfl
      · rw [List.reverse_cons, List.append_assoc, List.singleton_append]

theorem fill_pruneAbove {tree : Tree} {frame : Frame} {above : List Frame}
    (kept : drops ⟨tree, frame :: above⟩ = false) :
    Frame.fill ⟨frame.parent, pruneLeft drops above frame.parent frame.left (tree :: frame.right),
        pruneAll drops above frame.parent (tree :: frame.left) frame.right⟩
      (pruneTree drops (frame :: above) tree) = pruneTree drops above (frame.fill tree) := by
  have gap : ¬drops ⟨tree, ⟨frame.parent, frame.left, frame.right⟩ :: above⟩ = true :=
    Bool.eq_false_iff.mp kept
  rw [Frame.fill, Frame.fill, pruneTree, pruneAll_reverse_append, pruneAll, if_neg gap]

/-- Going up comes to the same. -/
theorem parent?_prune {node : Node} (kept : drops node = false) :
    (node.prune drops).parent? = node.parent?.map (prune drops) := by
  obtain ⟨tree, _ | ⟨frame, above⟩⟩ := node
  · rfl
  · rw [prune, pruneAbove, parent?]
    dsimp only
    rw [fill_pruneAbove kept]
    rfl

theorem placesAfter_prune (above : List Frame) (label : Label) (left right : List Tree) :
    placesAfter (pruneAbove drops (.node label (left.reverse ++ right)) above) label
        (pruneLeft drops above label left right) (pruneAll drops above label left right) =
      ((placesAfter above label left right).filter fun child => !drops child).map
        (prune drops) := by
  induction right generalizing left with
  | nil =>
      rw [pruneAll]
      rfl
  | cons tree right ih =>
      have onward := ih (tree :: left)
      rw [List.reverse_cons, List.append_assoc, List.singleton_append, pruneLeft] at onward
      rw [pruneAll, placesAfter, List.filter_cons]
      cases dropped : drops ⟨tree, ⟨label, left, right⟩ :: above⟩ with
      | true =>
          simp only [dropped, ↓reduceIte] at onward
          simp only [↓reduceIte, Bool.not_true, Bool.false_eq_true]
          exact onward
      | false =>
          simp only [dropped, ↓reduceIte, Bool.false_eq_true] at onward
          simp only [↓reduceIte, Bool.not_false, Bool.false_eq_true, placesAfter, List.map_cons]
          rw [onward]
          rfl

theorem below_prune (drops : Node → Bool) (node : Node) :
    (node.prune drops).below =
      (node.below.filter fun child => !drops child).map (prune drops) := by
  obtain ⟨⟨label, children⟩, above⟩ := node
  have places := @placesAfter_prune drops above label [] children
  rw [List.reverse_nil, List.nil_append] at places
  exact places

theorem children_prune (drops : Node → Bool) (node : Node) :
    (node.prune drops).tree.children =
      (node.below.filter fun child => !drops child).map fun child => (child.prune drops).tree := by
  rw [← map_tree_below, below_prune, List.map_map]
  rfl

def DropsLeaves (drops : Node → Bool) : Prop :=
  ∀ node, drops node = true → node.tree.children = []

namespace DropsLeaves

theorem parent? (leaves : DropsLeaves drops) {node parent : Node}
    (found : node.parent? = some parent) : drops parent = false := by
  have child := tree_mem_children (mem_below_iff.mpr found)
  rw [← Bool.not_eq_true]
  intro dropped
  rw [leaves parent dropped] at child
  cases child

theorem visitTree (leaves : DropsLeaves drops) {node : Node} (dropped : drops node = true)
    (enter : Label → Bool) : visitTree enter node.above node.tree = [node] := by
  have childless : node.below = [] := by
    rw [below, leaves node dropped]
    rfl
  rw [visitTree_eq, childless, List.flatMap_nil, ite_self]

end DropsLeaves

/-- A visit of the smaller tree meets what the visit of the whole tree meets, in the same order, but
for the nodes that are dropped. -/
theorem visitTree_prune (leaves : DropsLeaves drops) (enter : Label → Bool) {node : Node}
    (kept : drops node = false) :
    visitTree enter (node.prune drops).above (node.prune drops).tree =
      ((visitTree enter node.above node.tree).filter fun visited => !drops visited).map
        (prune drops) := by
  induction node using inductionOnSize with
  | step node ih =>
      have stays : (!drops node) = true := by rw [kept, Bool.not_false]
      rw [visitTree_eq, visitTree_eq, label_prune, List.filter_cons, if_pos stays, List.map_cons]
      refine congrArg (node.prune drops :: ·) ?_
      split
      · rw [below_prune, List.flatMap_map, flatMap_filter, List.filter_flatMap, List.map_flatMap]
        refine List.flatMap_congr fun child among => ?_
        cases dropped : drops child with
        | true =>
            rw [leaves.visitTree dropped, List.filter_cons, dropped]
            rfl
        | false => exact ih child (size_parent? (parent?_below among)) dropped
      · rfl

theorem outsideExtras_prune (leaves : DropsLeaves drops) {node : Node}
    (kept : drops node = false) :
    (node.prune drops).outsideExtras =
      (node.outsideExtras.filter fun visited => !drops visited).map (prune drops) :=
  visitTree_prune leaves _ kept

theorem descendants_prune (leaves : DropsLeaves drops) {node : Node} (kept : drops node = false) :
    (node.prune drops).descendants =
      (node.descendants.filter fun visited => !drops visited).map (prune drops) :=
  visitTree_prune leaves _ kept

section Fields

theorem isField_pruneTree (drops : Node → Bool) (above : List Frame) (tree : Tree)
    (field : String) : (pruneTree drops above tree).isField field = tree.isField field := by
  rw [Tree.isField, Tree.isField, label_pruneTree]

/-- Where nothing dropped is held under a field, the siblings in front say the same of it. -/
theorem all_pruneLeft (unheld : ∀ node, drops node = true → node.label.field = none)
    (above : List Frame) (label : Label) (field : String) (left right : List Tree) :
    ((pruneLeft drops above label left right).all fun sibling => !sibling.isField field) =
      left.all fun sibling => !sibling.isField field := by
  induction left generalizing right with
  | nil => rfl
  | cons tree left ih =>
      rw [pruneLeft, List.all_cons, ← ih (tree :: right)]
      cases dropped : drops ⟨tree, ⟨label, left, right⟩ :: above⟩ with
      | true =>
          have free : tree.label.field = none := unheld _ dropped
          have absent : tree.isField field = false := by
            rw [Tree.isField, free]
            rfl
          rw [absent, Bool.not_false, Bool.true_and]
          rfl
      | false =>
          simp only [Bool.false_eq_true, ↓reduceIte, List.all_cons, isField_pruneTree]

theorem isFirstUnder_prune (unheld : ∀ node, drops node = true → node.label.field = none)
    (node : Node) (field : String) :
    (node.prune drops).isFirstUnder field = node.isFirstUnder field := by
  obtain ⟨tree, _ | ⟨frame, above⟩⟩ := node
  · rfl
  · rw [prune, pruneAbove, isFirstUnder, isFirstUnder]
    dsimp only
    rw [isField_pruneTree, all_pruneLeft unheld]

end Fields

section Children

variable {test : Label → Bool}

theorem filter_children (node : Node) (test : Label → Bool) :
    node.tree.children.filter (fun child => test child.label) =
      (node.below.filter fun child => test child.label).map (·.tree) := by
  rw [← map_tree_below, List.filter_map]
  rfl

theorem find?_children (node : Node) (test : Label → Bool) :
    node.tree.children.find? (fun child => test child.label) =
      (node.below.find? fun child => test child.label).map (·.tree) := by
  rw [← map_tree_below, List.find?_map]
  rfl

/-- A test that nothing dropped passes is passed by the same children before and after. -/
theorem filter_children_prune (fails : ∀ child, drops child = true → test child.label = false)
    (node : Node) :
    (node.prune drops).tree.children.filter (fun child => test child.label) =
      (node.below.filter fun child => test child.label).map fun child =>
        (child.prune drops).tree := by
  rw [children_prune, List.filter_map, List.filter_filter]
  refine congrArg (List.map _) (List.filter_congr fun child _ => ?_)
  have same : (child.prune drops).tree.label = child.label := label_prune drops child
  simp only [Function.comp_apply, same]
  cases dropped : drops child with
  | true => rw [fails child dropped, Bool.false_and]
  | false => rw [Bool.not_false, Bool.and_true]

/-- What is the same of every child that passes such a test is the same of all of them. -/
theorem map_filter_children_prune {α : Type} {f : Tree → α} {node : Node}
    (fails : ∀ child, drops child = true → test child.label = false)
    (same : ∀ child ∈ node.below, test child.label = true →
      f (child.prune drops).tree = f child.tree) :
    ((node.prune drops).tree.children.filter fun child => test child.label).map f =
      (node.tree.children.filter fun child => test child.label).map f := by
  rw [filter_children_prune fails, filter_children, List.map_map, List.map_map]
  apply List.map_congr_left
  intro child passing
  obtain ⟨among, passes⟩ := List.mem_filter.mp passing
  exact same child among passes

/-- The first child that passes a test stays the first if it is not dropped itself. -/
theorem find?_children_prune {node : Node}
    (stays : ∀ child, node.below.find? (fun child => test child.label) = some child →
      drops child = false) :
    (node.prune drops).tree.children.find? (fun child => test child.label) =
      (node.below.find? fun child => test child.label).map fun child =>
        (child.prune drops).tree := by
  rw [children_prune, List.find?_map, List.find?_filter]
  refine congrArg (Option.map _) ?_
  have same : ∀ child : Node, (child.prune drops).tree.label = child.label := label_prune drops
  simp only [Function.comp_apply, same]
  cases found : node.below.find? fun child => test child.label with
  | none =>
      rw [List.find?_eq_none] at found ⊢
      intro child among both
      exact found child among (of_decide_eq_true both).2
  | some first =>
      have kept := stays first found
      rw [List.find?_eq_some_iff_append] at found ⊢
      obtain ⟨passes, front, back, whole, before⟩ := found
      have both : (!drops first) = true ∧ test first.label = true := by
        rw [kept]
        exact ⟨rfl, passes⟩
      refine ⟨decide_eq_true both, front, back, whole, fun child among => ?_⟩
      have fails := before child among
      rw [Bool.not_eq_true'] at fails ⊢
      exact decide_eq_false fun passes' => ne_true_of_eq_false fails passes'.2

end Children

end Node

end SyntaxSpans
