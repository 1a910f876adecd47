import SyntaxSpans.Tree.Walk

set_option autoImplicit false

/- A walk, step by step, yields the nodes that a recursive visit lists at once. What a cursor has
still to see is the visit of the tree under it and, level by level, of the siblings on the right;
every move takes exactly the first node off that list. -/
namespace SyntaxSpans

def entersBelow (label : Label) : Bool := !label.extra

/-- Moving the gap to the next sibling leaves the parent as it was. -/
theorem Frame.fill_next (label : Label) (left : List Tree) (tree next : Tree)
    (right : List Tree) :
    Frame.fill ⟨label, tree :: left, right⟩ next =
      Frame.fill ⟨label, left, next :: right⟩ tree := by
  simp only [fill, List.reverse_cons, List.append_assoc, List.singleton_append]

namespace Cursor

/-- The nodes after a tree and outside of it, inside the place the cursor started from. -/
def beyond (outer : List Frame) : Tree → List Frame → List Node
  | _, [] => []
  | tree, frame :: rest =>
      Node.visitAll entersBelow (rest ++ outer) frame.parent (tree :: frame.left) frame.right ++
        beyond outer (frame.fill tree) rest

/-- The nodes that a walk has still to see, the current one first. -/
def pending (cursor : Cursor) : List Node :=
  Node.visitTree entersBelow (cursor.inner ++ cursor.outer) cursor.tree ++
    beyond cursor.outer cursor.tree cursor.inner

end Cursor

namespace Walk

def pending (walk : Walk) : List Node :=
  match walk.cursor with
  | none => []
  | some cursor => cursor.pending

end Walk

namespace Cursor

theorem pending_nextSibling? {cursor next : Cursor} (found : cursor.nextSibling? = some next) :
    next.pending = beyond cursor.outer cursor.tree cursor.inner := by
  unfold nextSibling? at found
  split at found
  · rename_i label left first right rest inner
    cases found
    simp only [pending, inner, beyond, Node.visitAll, List.cons_append, List.append_assoc,
      Frame.fill_next]
  · cases found

theorem beyond_parent? {cursor parent : Cursor} (last : cursor.nextSibling? = none)
    (found : cursor.parent? = some parent) :
    beyond parent.outer parent.tree parent.inner =
      beyond cursor.outer cursor.tree cursor.inner := by
  unfold parent? at found
  split at found
  · cases found
  · rename_i frame rest inner
    obtain ⟨label, left, right⟩ := frame
    cases found
    cases right with
    | nil => simp only [inner, beyond, Node.visitAll, List.nil_append]
    | cons next right => simp [nextSibling?, inner] at last

theorem pending_onward? (cursor : Cursor) :
    (Walk.mk cursor.onward? .all).pending = beyond cursor.outer cursor.tree cursor.inner := by
  fun_induction onward? cursor with
  | case1 cursor next found => exact pending_nextSibling? found
  | case2 cursor last parent found ih => exact ih.trans (beyond_parent? last found)
  | case3 cursor last found =>
      unfold parent? at found
      split at found
      · rename_i inner
        simp only [Walk.pending, inner, beyond]
      · cases found

theorem pending_firstChild? {cursor child : Cursor} (found : cursor.firstChild? = some child)
    (enters : entersBelow cursor.tree.label = true) :
    cursor.pending = cursor.node :: child.pending := by
  unfold firstChild? at found
  split at found
  · cases found
  · rename_i label first rest tree
    cases found
    rw [tree] at enters
    change entersBelow label = true at enters
    simp only [pending, node, tree, Node.visitTree, Node.visitAll, enters, ↓reduceIte, beyond,
      Frame.fill, List.reverse_nil, List.nil_append, List.cons_append, List.append_assoc]

/-- Where a visit does not go below a node, or nothing is below it, the next one is beyond it. -/
theorem pending_of_stop {cursor : Cursor}
    (stop : entersBelow cursor.tree.label = false ∨ cursor.firstChild? = none) :
    cursor.pending = cursor.node :: beyond cursor.outer cursor.tree cursor.inner := by
  obtain ⟨⟨label, children⟩, inner, outer⟩ := cursor
  have nothing : (if entersBelow label then
      Node.visitAll entersBelow (inner ++ outer) label [] children else []) = [] := by
    rcases stop with closed | childless
    · change entersBelow label = false at closed
      simp only [closed, Bool.false_eq_true, ↓reduceIte]
    · cases children with
      | nil => simp only [Node.visitAll, ite_self]
      | cons first rest => simp [firstChild?] at childless
  simp only [pending, node, Node.visitTree, nothing, List.cons_append, List.nil_append]

/-- A move takes the current node off what is to be seen, and nothing else. -/
theorem pending_advance? (cursor : Cursor) :
    cursor.pending =
      cursor.node :: (Walk.mk (cursor.advance? (entersBelow cursor.tree.label)) .all).pending := by
  unfold advance?
  split
  · rename_i enters
    split
    · rename_i child found
      exact pending_firstChild? found enters
    · rename_i childless
      rw [pending_onward?]
      exact pending_of_stop (.inr childless)
  · rename_i closed
    rw [pending_onward?]
    exact pending_of_stop (.inl (by simpa using closed))

end Cursor

namespace Walk

def elements (walk : Walk) : List Element :=
  (walk.pending.map Element.classify).filter walk.pass.admits

theorem pending_step? {walk next : Walk} {element : Element}
    (found : walk.step? = some (element, next)) :
    walk.pending.map Element.classify = element :: next.pending.map Element.classify ∧
      next.pass = walk.pass := by
  obtain ⟨position, pass⟩ := walk
  cases position with
  | none => cases found
  | some cursor =>
      simp only [step?, Option.map_some, Option.some.injEq, Prod.mk.injEq] at found
      obtain ⟨rfl, rfl⟩ := found
      refine ⟨?_, rfl⟩
      have moved := cursor.pending_advance?
      simp only [pending, Element.isTrivia_classify] at moved ⊢
      rw [moved]
      rfl

theorem pending_of_ended {walk : Walk} (ended : walk.step? = none) : walk.pending = [] := by
  obtain ⟨position, pass⟩ := walk
  cases position with
  | none => rfl
  | some cursor => cases ended

theorem elements_next? (walk : Walk) :
    walk.elements =
      match walk.next? with
      | none => []
      | some (element, rest) => element :: rest.elements := by
  fun_induction next? walk with
  | case1 walk ended => simp only [elements, pending_of_ended ended, List.map_nil, List.filter_nil]
  | case2 walk element rest found admitted =>
      obtain ⟨first, same⟩ := pending_step? found
      simp only [elements, first, List.filter_cons, admitted, ↓reduceIte, same]
  | case3 walk element rest found refused ih =>
      obtain ⟨first, same⟩ := pending_step? found
      rw [← ih]
      simp only [elements, first, List.filter_cons, refused, Bool.false_eq_true, ↓reduceIte, same]

theorem toList_eq_elements (walk : Walk) : walk.toList = walk.elements := by
  fun_induction toList walk with
  | case1 walk ended => rw [elements_next?, ended]
  | case2 walk element rest found ih => rw [elements_next?, found, ih]

end Walk

namespace Node

/-- A pass over a node picks its elements from the nodes outside extras, in document order. -/
theorem walk_eq_filter (node : Node) (pass : Pass) :
    node.walk pass = (node.outsideExtras.map Element.classify).filter pass.admits := by
  unfold walk
  rw [Walk.toList_eq_elements]
  simp only [Walk.elements, Walk.pending, Walk.start, Cursor.pending, Cursor.start, Cursor.beyond,
    List.nil_append, List.append_nil]
  rfl

end Node

end SyntaxSpans
