import SyntaxSpans.Proofs.Tree.Positions

set_option autoImplicit false

namespace SyntaxSpans

/-- What a pass over a node is to yield: of the visited places those that the pass is about, each as
what it is. -/
def Node.yielded (node : Node) (pass : Pass) : List Element :=
  (node.outsideExtras.filter fun place =>
    match pass with
    | .structural => !place.label.extra
    | .trivia => place.label.extra
    | .all => true).map fun place =>
      if place.label.extra then .trivia place
      else if place.tree.children = [] then .token place
      else .node place

theorem Node.walk_eq_yielded (node : Node) (pass : Pass) : node.walk pass = node.yielded pass := by
  have classified : Element.classify = fun place : Node =>
      if place.label.extra then .trivia place
      else if place.tree.children = [] then .token place
      else .node place := by
    funext place
    simp only [Element.classify, List.isEmpty_iff]
  rw [walk_eq_filter, List.filter_map, yielded, ← classified]
  congr 2
  funext place
  cases pass <;> simp only [Function.comp_apply, Pass.admits, Element.isTrivia_classify]

namespace Cursor

/-- The node that the cursor started from, put together again around the cursor. -/
def origin (cursor : Cursor) : Node :=
  ⟨cursor.inner.foldl (fun tree frame => frame.fill tree) cursor.tree, cursor.outer⟩

theorem origin_start (node : Node) : (start node).origin = node := rfl

theorem origin_firstChild? {cursor child : Cursor} (found : cursor.firstChild? = some child) :
    child.origin = cursor.origin := by
  unfold firstChild? at found
  split at found
  · cases found
  · rename_i label first rest tree
    cases found
    simp only [origin, List.foldl_cons, Frame.fill, tree, List.reverse_nil, List.nil_append]

theorem origin_nextSibling? {cursor next : Cursor} (found : cursor.nextSibling? = some next) :
    next.origin = cursor.origin := by
  unfold nextSibling? at found
  split at found
  · rename_i label left first right rest inner
    cases found
    simp only [origin, inner, List.foldl_cons, Frame.fill_next]
  · cases found

theorem origin_parent? {cursor parent : Cursor} (found : cursor.parent? = some parent) :
    parent.origin = cursor.origin := by
  unfold parent? at found
  split at found
  · cases found
  · rename_i frame rest inner
    cases found
    simp only [origin, inner, List.foldl_cons]

theorem origin_onward? {cursor next : Cursor} (found : cursor.onward? = some next) :
    next.origin = cursor.origin := by
  fun_induction onward? cursor with
  | case1 cursor sibling inside =>
      cases found
      exact origin_nextSibling? inside
  | case2 cursor last parent up ih => exact (ih found).trans (origin_parent? up)
  | case3 cursor last top => cases found

theorem origin_advance? {cursor next : Cursor} {enter : Bool}
    (found : cursor.advance? enter = some next) : next.origin = cursor.origin := by
  unfold advance? at found
  split at found
  · split at found
    · rename_i child down
      cases found
      exact origin_firstChild? down
    · exact origin_onward? found
  · exact origin_onward? found

/-- Wherever a cursor stands, it is under its origin. -/
theorem origin_holds_node (cursor : Cursor) : cursor.origin.Holds cursor.node := by
  obtain ⟨tree, inner, outer⟩ := cursor
  induction inner generalizing tree with
  | nil => exact .itself
  | cons frame rest ih => exact .child rfl (ih (frame.fill tree))

end Cursor

namespace Walk

/-- The walk stands somewhere under a node that it started from, or it has ended. -/
def StaysUnder (walk : Walk) (node : Node) : Prop :=
  ∀ cursor, walk.cursor = some cursor → cursor.origin = node

/-- One call of a walk: the next element that the pass admits, if there is one, and the walk as the
call leaves it. -/
def pull (walk : Walk) : Option Element × Walk :=
  match _found : walk.step? with
  | none => (none, walk)
  | some (element, rest) =>
      if walk.pass.admits element then (some element, rest) else rest.pull
termination_by walk.remaining
decreasing_by exact remaining_step? _found

def after (walk : Walk) : Nat → Walk
  | 0 => walk
  | calls + 1 => walk.pull.2.after calls

theorem next?_of_step? {walk rest : Walk} {element : Element}
    (found : walk.step? = some (element, rest)) :
    walk.next? = if walk.pass.admits element then some (element, rest) else rest.next? := by
  rw [next?]
  split
  · rename_i ended
    rw [ended] at found
    cases found
  · rename_i found'
    cases found.symm.trans found'
    rfl

/-- A call that answers something is a step to the next admitted element. -/
theorem next?_eq_pull (walk : Walk) :
    walk.next? = walk.pull.1.map fun element => (element, walk.pull.2) := by
  fun_induction pull walk with
  | case1 walk ended =>
      rw [next?]
      split
      · rfl
      · rename_i found
        rw [ended] at found
        cases found
  | case2 walk element rest found admitted =>
      rw [next?_of_step? found, if_pos admitted, Option.map_some]
  | case3 walk element rest found refused ih => rw [next?_of_step? found, if_neg refused, ih]

theorem ended_of_pull {walk : Walk} (nothing : walk.pull.1 = none) : walk.pull.2.step? = none := by
  fun_induction pull walk with
  | case1 walk ended => exact ended
  | case2 walk element rest found admitted => cases nothing
  | case3 walk element rest found refused ih => exact ih nothing

/-- A call takes the first element off what is still to come, and nothing if nothing is. -/
theorem elements_pull (walk : Walk) :
    walk.pull.1 = walk.elements.head? ∧ walk.pull.2.elements = walk.elements.tail := by
  have next := walk.elements_next?
  rw [next?_eq_pull] at next
  cases answer : walk.pull.1 with
  | some element =>
      rw [answer, Option.map_some] at next
      rw [next]
      exact ⟨rfl, rfl⟩
  | none =>
      rw [answer, Option.map_none] at next
      rw [next]
      refine ⟨rfl, ?_⟩
      simp only [elements, pending_of_ended (ended_of_pull answer), List.map_nil, List.filter_nil,
        List.tail_nil]

theorem elements_after (walk : Walk) (calls : Nat) :
    (walk.after calls).elements = walk.elements.drop calls := by
  induction calls generalizing walk with
  | zero => rfl
  | succ calls ih => rw [after, ih, walk.elements_pull.2, List.drop_tail]

theorem pull_after (walk : Walk) (calls : Nat) :
    (walk.after calls).pull.1 = walk.elements[calls]? := by
  rw [(elements_pull _).1, elements_after, List.head?_drop]

theorem StaysUnder.step {walk next : Walk} {element : Element} {node : Node}
    (stays : walk.StaysUnder node) (found : walk.step? = some (element, next)) :
    next.StaysUnder node := by
  obtain ⟨position, pass⟩ := walk
  cases position with
  | none => cases found
  | some cursor =>
      simp only [step?, Option.map_some, Option.some.injEq, Prod.mk.injEq] at found
      obtain ⟨-, rfl⟩ := found
      intro moved advanced
      exact (Cursor.origin_advance? advanced).trans (stays cursor rfl)

theorem StaysUnder.pull {walk : Walk} {node : Node} (stays : walk.StaysUnder node) :
    walk.pull.2.StaysUnder node := by
  fun_induction Walk.pull walk with
  | case1 walk ended => exact stays
  | case2 walk element rest found admitted => exact stays.step found
  | case3 walk element rest found refused ih => exact ih (stays.step found)

theorem StaysUnder.after {walk : Walk} {node : Node} (stays : walk.StaysUnder node) (calls : Nat) :
    (walk.after calls).StaysUnder node := by
  induction calls generalizing walk with
  | zero => exact stays
  | succ calls ih => exact ih stays.pull

theorem start_staysUnder (node : Node) (pass : Pass) : (start node pass).StaysUnder node := by
  intro cursor found
  cases found
  exact Cursor.origin_start node

/-- A walk is the recursive visit that goes below no extra node: the calls answer its nodes in
turn, each as what it is and only those that the pass is about, and nothing once they are used up.
All the time the walk stands under its start. The visit meets exactly the nodes under the start
without an extra proper ancestor there, each once and in document order. -/
theorem pull_after_start (node : Node) (pass : Pass) :
    node.walk pass = node.yielded pass ∧
    (∀ calls, ((start node pass).after calls).pull.1 = (node.yielded pass)[calls]?) ∧
    (∀ calls cursor, ((start node pass).after calls).cursor = some cursor →
      node.Holds cursor.node) ∧
    (∀ place, place ∈ node.outsideExtras ↔
      node.Holds place ∧ ∀ ancestor, node.Holds ancestor → ancestor.HoldsBelow place →
        ancestor.label.extra = false) ∧
    node.outsideExtras.Pairwise fun first second => first.path < second.path := by
  refine ⟨node.walk_eq_yielded pass, fun calls => ?_, fun calls cursor standing => ?_,
    fun place => ?_, Node.pairwise_path_visitTree _ node⟩
  · rw [pull_after, ← toList_eq_elements, ← node.walk_eq_yielded]
    rfl
  · -- What a cursor came from never changes, and a cursor is always under that.
    have origin := (start_staysUnder node pass).after calls cursor standing
    have held := cursor.origin_holds_node
    rwa [origin] at held
  · unfold Node.outsideExtras
    rw [Node.mem_visitTree_iff]
    simp only [Bool.not_eq_true']

end Walk

end SyntaxSpans
