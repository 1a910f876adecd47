import SyntaxSpans.Tree.Node

set_option autoImplicit false

namespace SyntaxSpans

/-- A visited node by what it is: extra, a leaf, or a construct with children. -/
inductive Element where
  | node (place : Node)
  | token (place : Node)
  | trivia (place : Node)

namespace Element

def place : Element → Node
  | node place => place
  | token place => place
  | trivia place => place

def kind (element : Element) : KindId := element.place.label.kind

def span (element : Element) : Span := element.place.label.span

def isTrivia : Element → Bool
  | trivia _ => true
  | _ => false

def classify (place : Node) : Element :=
  if place.label.extra then trivia place
  else if place.tree.children.isEmpty then token place
  else node place

@[simp] theorem place_classify (place : Node) : (classify place).place = place := by
  unfold classify
  split
  · rfl
  · split <;> rfl

@[simp] theorem kind_classify (place : Node) : (classify place).kind = place.label.kind := by
  rw [kind, place_classify]

@[simp] theorem span_classify (place : Node) : (classify place).span = place.label.span := by
  rw [span, place_classify]

@[simp] theorem isTrivia_classify (place : Node) :
    (classify place).isTrivia = place.label.extra := by
  unfold classify
  split
  · rename_i extra
    simp only [isTrivia, extra]
  · rename_i structural
    split <;> simp only [isTrivia] <;> simpa using structural

end Element

/-- Which elements a walk yields. -/
inductive Pass where
  | structural
  | trivia
  | all
  deriving DecidableEq

def Pass.admits (pass : Pass) (element : Element) : Bool :=
  match pass with
  | structural => !element.isTrivia
  | trivia => element.isTrivia
  | all => true

/-- A place below a start: `inner` leads back to the start, `outer` lies around it and is never
entered. -/
structure Cursor where
  tree : Tree
  inner : List Frame
  outer : List Frame

namespace Cursor

def start (node : Node) : Cursor := ⟨node.tree, [], node.above⟩

def node (cursor : Cursor) : Node := ⟨cursor.tree, cursor.inner ++ cursor.outer⟩

def firstChild? (cursor : Cursor) : Option Cursor :=
  match cursor.tree with
  | .node _ [] => none
  | .node label (first :: rest) =>
      some { cursor with tree := first, inner := ⟨label, [], rest⟩ :: cursor.inner }

/-- The next sibling; the start has none, whatever surrounds it. -/
def nextSibling? (cursor : Cursor) : Option Cursor :=
  match cursor.inner with
  | ⟨label, left, next :: right⟩ :: rest =>
      some { cursor with tree := next, inner := ⟨label, cursor.tree :: left, right⟩ :: rest }
  | _ => none

/-- The parent; the start has none, whatever surrounds it. -/
def parent? (cursor : Cursor) : Option Cursor :=
  match cursor.inner with
  | [] => none
  | frame :: rest => some { cursor with tree := frame.fill cursor.tree, inner := rest }

/-- The nodes on the right of the frames. -/
def waiting (frames : List Frame) : Nat :=
  frames.foldr (fun frame rest => Tree.sizeAll frame.right + rest) 0

/-- How many nodes a walk has still to see, the current one included. -/
def remaining (cursor : Cursor) : Nat := cursor.tree.size + waiting cursor.inner

theorem parent?_inner_length {cursor parent : Cursor} (found : cursor.parent? = some parent) :
    parent.inner.length < cursor.inner.length := by
  unfold parent? at found
  split at found
  · cases found
  · rename_i frame rest inner
    cases found
    rw [inner]
    exact Nat.lt_succ_self _

/-- The next place in document order that is not below the cursor. -/
def onward? (cursor : Cursor) : Option Cursor :=
  match cursor.nextSibling? with
  | some next => some next
  | none =>
      match _found : cursor.parent? with
      | some parent => parent.onward?
      | none => none
termination_by cursor.inner.length
decreasing_by exact parent?_inner_length _found

/-- The next place in document order, below the cursor only if `enter` is set. -/
def advance? (cursor : Cursor) (enter : Bool) : Option Cursor :=
  if enter then
    match cursor.firstChild? with
    | some child => some child
    | none => cursor.onward?
  else cursor.onward?

theorem remaining_nextSibling? {cursor next : Cursor} (found : cursor.nextSibling? = some next) :
    next.remaining = waiting cursor.inner := by
  unfold nextSibling? at found
  split at found
  · rename_i label left first right rest inner
    cases found
    simp only [remaining, waiting, inner, List.foldr_cons, Tree.sizeAll]
    omega
  · cases found

theorem waiting_parent? {cursor parent : Cursor} (found : cursor.parent? = some parent)
    (last : cursor.nextSibling? = none) : waiting parent.inner = waiting cursor.inner := by
  unfold parent? at found
  split at found
  · cases found
  · rename_i frame rest inner
    cases found
    obtain ⟨label, left, right⟩ := frame
    cases right with
    | nil => simp only [waiting, inner, List.foldr_cons, Tree.sizeAll, Nat.zero_add]
    | cons next right => simp [nextSibling?, inner] at last

/-- Going on leaves the whole tree under the cursor behind. -/
theorem remaining_onward? {cursor next : Cursor} (found : cursor.onward? = some next) :
    next.remaining ≤ waiting cursor.inner := by
  fun_induction onward? cursor with
  | case1 cursor sibling inside =>
      cases found
      exact Nat.le_of_eq (remaining_nextSibling? inside)
  | case2 cursor last parent up ih =>
      rw [← waiting_parent? up last]
      exact ih found
  | case3 cursor last top => cases found

theorem remaining_firstChild? {cursor child : Cursor} (found : cursor.firstChild? = some child) :
    child.remaining < cursor.remaining := by
  unfold firstChild? at found
  split at found
  · cases found
  · rename_i label first rest tree
    cases found
    simp only [remaining, waiting, tree, List.foldr_cons, Tree.size, Tree.sizeAll]
    omega

theorem remaining_advance? {cursor next : Cursor} {enter : Bool}
    (found : cursor.advance? enter = some next) : next.remaining < cursor.remaining := by
  have onward : cursor.onward? = some next → next.remaining < cursor.remaining := fun went => by
    have bound := remaining_onward? went
    have positive := cursor.tree.size_pos
    unfold remaining at bound ⊢
    omega
  unfold advance? at found
  split at found
  · split at found
    · rename_i child down
      cases found
      exact remaining_firstChild? down
    · exact onward found
  · exact onward found

end Cursor

/-- A walk in progress: where it stands, or nothing once it has ended. -/
structure Walk where
  cursor : Option Cursor
  pass : Pass

namespace Walk

def start (node : Node) (pass : Pass) : Walk := ⟨some (Cursor.start node), pass⟩

def remaining (walk : Walk) : Nat := (walk.cursor.map Cursor.remaining).getD 0

/-- The walk after its current node, and that node. -/
def step? (walk : Walk) : Option (Element × Walk) :=
  walk.cursor.map fun cursor =>
    let element := Element.classify cursor.node
    (element, { walk with cursor := cursor.advance? !element.isTrivia })

theorem remaining_step? {walk next : Walk} {element : Element}
    (found : walk.step? = some (element, next)) : next.remaining < walk.remaining := by
  unfold step? at found
  cases position : walk.cursor with
  | none => simp [position] at found
  | some cursor =>
      simp only [position, Option.map_some, Option.some.injEq, Prod.mk.injEq] at found
      obtain ⟨_, rfl⟩ := found
      have before : walk.remaining = cursor.remaining := by simp [remaining, position]
      rw [before]
      unfold remaining
      cases moved : cursor.advance? !(Element.classify cursor.node).isTrivia with
      | none =>
          have positive := cursor.tree.size_pos
          simp only [Option.map_none, Option.getD_none]
          unfold Cursor.remaining
          omega
      | some place => exact Cursor.remaining_advance? moved

/-- The next element that the pass admits, and the walk after it. -/
def next? (walk : Walk) : Option (Element × Walk) :=
  match _found : walk.step? with
  | none => none
  | some (element, rest) =>
      if walk.pass.admits element then some (element, rest) else rest.next?
termination_by walk.remaining
decreasing_by exact remaining_step? _found

theorem remaining_next? {walk rest : Walk} {element : Element}
    (found : walk.next? = some (element, rest)) : rest.remaining < walk.remaining := by
  fun_induction next? walk with
  | case1 walk ended => cases found
  | case2 walk seen after stepped admitted =>
      cases found
      exact remaining_step? stepped
  | case3 walk seen after stepped refused ih =>
      exact Nat.lt_trans (ih found) (remaining_step? stepped)

def toList (walk : Walk) : List Element :=
  match _found : walk.next? with
  | none => []
  | some (element, rest) => element :: rest.toList
termination_by walk.remaining
decreasing_by exact remaining_next? _found

end Walk

/-- What a pass over a node yields, in document order. -/
def Node.walk (node : Node) (pass : Pass) : List Element := (Walk.start node pass).toList

end SyntaxSpans
