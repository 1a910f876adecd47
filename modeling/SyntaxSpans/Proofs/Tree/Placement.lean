import SyntaxSpans.Proofs.Text.OffsetOrder
import SyntaxSpans.Proofs.Tree.Preorder

set_option autoImplicit false

namespace SyntaxSpans

/-- No node is reversed, each lies inside its parent, and siblings follow one another without
overlapping. -/
inductive Tree.WellPlaced : Tree → Prop
  | node {label : Label} {children : List Tree}
      (forward : label.span.start ≤ label.span.stop)
      (inside : ∀ child ∈ children, label.span.start ≤ child.label.span.start ∧
        child.label.span.stop ≤ label.span.stop)
      (apart : children.Pairwise fun left right => left.label.span.stop ≤ right.label.span.start)
      (below : ∀ child ∈ children, child.WellPlaced) : (Tree.node label children).WellPlaced

def Node.Within (node : Node) (span : Span) : Prop :=
  span.start ≤ node.label.span.start ∧ node.label.span.start ≤ node.label.span.stop ∧
    node.label.span.stop ≤ span.stop

def Node.Precedes (first second : Node) : Prop := first.label.span.Precedes second.label.span

namespace Node

theorem Within.precedes {first second : Node} {left right : Span} (inLeft : first.Within left)
    (inRight : second.Within right) (apart : left.stop ≤ right.start) : first.Precedes second := by
  obtain ⟨-, forward, before⟩ := inLeft
  obtain ⟨after, -, -⟩ := inRight
  exact ⟨by omega, .inr (by omega)⟩

theorem Within.mono {node : Node} {inner outer : Span} (within : node.Within inner)
    (start : outer.start ≤ inner.start) (stop : inner.stop ≤ outer.stop) : node.Within outer :=
  ⟨Nat.le_trans start within.1, within.2.1, Nat.le_trans within.2.2 stop⟩

theorem mem_visitAll {enter : Label → Bool} {above : List Frame} {label : Label}
    {left trees : List Tree} {node : Node}
    (member : node ∈ visitAll enter above label left trees) :
    ∃ tree ∈ trees, ∃ inner, node ∈ visitTree enter inner tree := by
  induction trees generalizing left with
  | nil => simp [visitAll] at member
  | cons tree rest ih =>
      rcases List.mem_append.mp member with first | later
      · exact ⟨tree, List.mem_cons_self, _, first⟩
      · obtain ⟨other, among, found⟩ := ih later
        exact ⟨other, List.mem_cons_of_mem _ among, found⟩

theorem within_of_mem_visitTree {enter : Label → Bool} {tree : Tree} (placed : tree.WellPlaced)
    {above : List Frame} {node : Node} (member : node ∈ visitTree enter above tree) :
    node.Within tree.label.span := by
  induction placed generalizing above with
  | node forward inside apart below ih =>
      rcases List.mem_cons.mp member with rfl | deeper
      · exact ⟨Nat.le_refl _, forward, Nat.le_refl _⟩
      · split at deeper
        · obtain ⟨child, among, inner, found⟩ := mem_visitAll deeper
          obtain ⟨start, stop⟩ := inside child among
          exact (ih child among found).mono start stop
        · cases deeper

theorem pairwise_visitAll {enter : Label → Bool} {above : List Frame} {label : Label}
    {left trees : List Tree}
    (apart : trees.Pairwise fun left right => left.label.span.stop ≤ right.label.span.start)
    (placed : ∀ tree ∈ trees, tree.WellPlaced)
    (each : ∀ tree ∈ trees, ∀ inner, (visitTree enter inner tree).Pairwise Precedes) :
    (visitAll enter above label left trees).Pairwise Precedes := by
  induction trees generalizing left with
  | nil => exact List.Pairwise.nil
  | cons tree rest ih =>
      obtain ⟨behind, others⟩ := List.pairwise_cons.mp apart
      have onward : (visitAll enter above label (tree :: left) rest).Pairwise Precedes :=
        ih others (fun other among => placed other (List.mem_cons_of_mem _ among))
          (fun other among => each other (List.mem_cons_of_mem _ among))
      refine List.pairwise_append.mpr ⟨each tree List.mem_cons_self _, onward, ?_⟩
      intro first inFirst second inRest
      obtain ⟨other, among, inner, found⟩ := mem_visitAll inRest
      have leftOf := within_of_mem_visitTree (placed tree List.mem_cons_self) inFirst
      have rightOf := within_of_mem_visitTree (placed other (List.mem_cons_of_mem _ among)) found
      exact leftOf.precedes rightOf (behind other among)

/-- A visit of a well-placed tree follows the order of the document. -/
theorem pairwise_visitTree {enter : Label → Bool} {tree : Tree} (placed : tree.WellPlaced)
    (above : List Frame) : (visitTree enter above tree).Pairwise Precedes := by
  induction placed generalizing above with
  | @node label children forward inside apart below ih =>
      unfold visitTree
      refine List.pairwise_cons.mpr ⟨fun node deeper => ?_, ?_⟩
      · have whole : node ∈ visitTree enter above (.node label children) :=
          List.mem_cons_of_mem _ deeper
        have within := within_of_mem_visitTree (.node forward inside apart below) whole
        exact ⟨within.1, .inl within.2.2⟩
      · split
        · exact pairwise_visitAll apart below ih
        · exact List.Pairwise.nil

end Node

end SyntaxSpans
