import SyntaxSpans.Proofs.Python.Descent
import SyntaxSpans.Proofs.Python.Visitor

set_option autoImplicit false

namespace SyntaxSpans.Python

variable {source : List Char}

/-- The record of the left side of an assignment, where fields are declared or not. -/
def leftField? (fields : Bool) (assignment left : Tree) : Option Record :=
  if fields && (assignment.childByField? "type").isNone && isAssignable left then
    some (left.record .field)
  else none

/-- The place that an assignment without a type assigns to, if that declares a field. -/
theorem declared_target {assignment statement target : Node}
    (within : target.parent? = some assignment) (outside : assignment.parent? = some statement)
    (kind : assignment.label.name = "assignment") (lacks : target.tree.Lacks "module")
    (expression : statement.label.name = "expression_statement")
    (role : roleOf assignment = .statementPart) :
    declared source target =
      if target.isFirstUnder "left" then
        (leftField? (declaresFields statement source) assignment.tree target.tree).toList
      else [] := by
  have part : roleOf target = .assignmentPart := by
    rw [roleOf_parent? within, kind, role]
    rfl
  have last : (roleOf target).enter target.label.name = .nothing := by
    rw [part]
    exact if_neg lacks.name_ne
  have assignable : isAssignable target.tree = (!target.label.extra &&
      decide (target.label.name = "identifier" ∨ target.label.name = "attribute")) := by
    have named : (target.isKind "identifier" || target.isKind "attribute") =
        decide (target.label.name = "identifier" ∨ target.label.name = "attribute") := by
      rw [Bool.eq_iff_iff, Bool.or_eq_true, isKind_iff, isKind_iff, decide_eq_true_iff]
    rw [← named]
    rfl
  have assigns : isFieldTarget target source =
      (target.isFirstUnder "left" && (declaresFields statement source &&
        (assignment.tree.childByField? "type").isNone)) := by
    rw [isFieldTarget_eq source within outside, (isKind_iff _ _).mpr kind,
      (isKind_iff _ _).mpr expression, Bool.true_and, Bool.true_and, Bool.and_assoc,
      Bool.and_comm (declaresFields statement source)]
  have noLevel : Role.assignmentPart.declares = false := rfl
  rw [declared_of_last lacks last, declaration?_eq, part, noLevel, assigns, leftField?, assignable]
  cases target.label.extra with
  | true => simp
  | false =>
      by_cases name : target.label.name = "identifier" ∨ target.label.name = "attribute"
      · have noClass : target.label.name ≠ "class_definition" := by
          rcases name with name | name <;> rw [name] <;> decide
        have noFunction : target.label.name ≠ "function_definition" := by
          rcases name with name | name <;> rw [name] <;> decide
        cases target.isFirstUnder "left" with
        | false => simp [noClass, noFunction]
        | true => simp [noClass, noFunction, name]
      · simp [name]

theorem declared_assignment {assignment statement : Node}
    (within : assignment.parent? = some statement) (kind : assignment.label.name = "assignment")
    (structural : assignment.label.extra = false) (lacks : assignment.tree.Lacks "module")
    (expression : statement.label.name = "expression_statement")
    (role : roleOf assignment = .statementPart) :
    declared source assignment =
      if declaresFields statement source then
        ((target? assignment.tree).map (·.record .field)).toList
      else [] := by
  have own : registry.declaration? source assignment = none :=
    declaration?_eq_none (by rw [role]; rfl) (by rw [role]; decide)
  have targets : assignment.below.flatMap (declared source) =
      assignment.below.flatMap fun child =>
        if child.isFirstUnder "left" then
          (leftField? (declaresFields statement source) assignment.tree child.tree).toList
        else [] := by
    apply List.flatMap_congr
    intro child among
    exact declared_target (Node.parent?_below among) within kind
      (lacks.child (Node.tree_mem_children among)) expression role
  rw [declared_of_structural structural, own, Option.toList_none, List.nil_append, targets,
    assignment.flatMap_isFirstUnder "left" fun left =>
      (leftField? (declaresFields statement source) assignment.tree left).toList]
  unfold target? leftField?
  cases declaresFields statement source with
  | false => simp
  | true =>
      cases assignment.tree.childByField? "type" with
      | some type => simp
      | none =>
          cases assignment.tree.childByField? "left" with
          | none => rfl
          | some left =>
              simp only [Option.toList_some, List.flatMap_singleton, Option.isNone_none,
                Option.isSome_none, Bool.true_and, Bool.false_eq_true, ↓reduceIte,
                Option.filter_some]
              split <;> rfl

theorem declared_expression {statement : Node}
    (kind : statement.label.name = "expression_statement")
    (structural : statement.label.extra = false) (lacks : statement.tree.Lacks "module")
    (level : (roleOf statement).declares = true ∨ (roleOf statement).runs = true) :
    declared source statement =
      if declaresFields statement source then assignedFields statement.tree else [] := by
  have part : (roleOf statement).enter statement.label.name = .statementPart :=
    (Role.enter_eq_statementPart_iff _ _).mpr ⟨kind, level⟩
  have own : registry.declaration? source statement = none := by
    rw [declaration?_eq, kind]
    simp
  refine (declared_eq_flatMap (fun child =>
    if child.isKind "assignment" then
      if declaresFields statement source then ((target? child).map (·.record .field)).toList else []
    else []) structural ?_).trans ?_
  · intro child among plain
    have within := Node.parent?_below among
    have below := lacks.child (Node.tree_mem_children among)
    have role : roleOf child = .statementPart := by
      rw [roleOf_parent? within, part]
    split
    · rename_i assignment
      rw [← Node.isKind, isKind_iff] at assignment
      exact declared_assignment within assignment plain below kind role
    · rename_i other
      rw [← Node.isKind, isKind_iff] at other
      apply declared_of_idle below (declaration?_eq_none (by rw [role]; rfl) (by rw [role]; decide))
      rw [role]
      exact (if_neg below.name_ne).trans (if_neg other)
  · rw [own, Option.toList_none, List.nil_append, assignedFields,
      List.filterMap_eq_flatMap_toList, flatMap_filter]
    cases declaresFields statement source with
    | true => rfl
    | false => simp

/-- A place that the visitor calls a statement of a body, seen from inside its decorators. -/
structure StandsIn (body statement : Node) : Prop where
  held : holder? statement = some body
  structural : statement.label.extra = false
  lacks : statement.tree.Lacks "module"
  plain : ((roleOf statement).enter statement.label.name).decorates = false

section Bodies

variable (given : Statement → List Record)

theorem declared_standsFor {body child : Node} (within : child.parent? = some body)
    (undecorated : body.label.name ≠ "decorated_definition")
    (structural : child.label.extra = false) (lacks : child.tree.Lacks "module")
    (each : ∀ statement, StandsIn body statement →
      statement = child ∨ statement.parent? = some child →
      declared source statement = given ⟨statement.tree, isProperty statement source⟩) :
    declared source child = (standsFor source child.tree).flatMap given := by
  unfold standsFor
  split
  · rename_i decorated
    rw [← Node.isKind, isKind_iff] at decorated
    have own : registry.declaration? source child = none := by
      rw [declaration?_eq, decorated]
      simp
    refine (declared_eq_flatMap (fun part => given ⟨part, makesProperty source child.tree⟩)
      structural ?_).trans ?_
    · intro part among plain
      have up := Node.parent?_below among
      have mark : isProperty part source = makesProperty source child.tree := by
        rw [isProperty, up]
        dsimp only
        rw [(isKind_iff _ _).mpr decorated, Bool.true_and]
        rfl
      rw [← mark]
      refine each part ⟨?_, plain, lacks.child (Node.tree_mem_children among), ?_⟩ (.inr up)
      · rw [holder?, up]
        dsimp only
        rw [(isKind_iff _ _).mpr decorated, if_pos rfl, within]
      · rw [roleOf_parent? up, decorated]
        exact Role.decorates_enter_enter _ _
    · rw [own, Option.toList_none, List.nil_append, List.flatMap_map]
  · rename_i plain
    rw [← Node.isKind, isKind_iff] at plain
    have outside : ¬ body.isKind "decorated_definition" = true := by
      rw [isKind_iff]
      exact undecorated
    have mark : isProperty child source = false := by
      rw [isProperty, within]
      dsimp only
      rw [Bool.eq_false_iff.mpr outside, Bool.false_and]
    rw [List.flatMap_singleton, ← mark]
    refine each child ⟨?_, structural, lacks, ?_⟩ (.inl rfl)
    · rw [holder?, within]
      exact if_neg outside
    · rw [← Bool.not_eq_true]
      exact fun decorates => plain (Role.decorates_enter decorates)

theorem declared_body {body : Node} (own : registry.declaration? source body = none)
    (undecorated : body.label.name ≠ "decorated_definition") (structural : body.label.extra = false)
    (lacks : body.tree.Lacks "module")
    (each : ∀ statement, StandsIn body statement →
      declared source statement = given ⟨statement.tree, isProperty statement source⟩) :
    declared source body = (statements source body.tree).flatMap given := by
  refine (declared_eq_flatMap (fun child => (standsFor source child).flatMap given)
    structural ?_).trans ?_
  · intro child among plain
    exact declared_standsFor given (Node.parent?_below among) undecorated plain
      (lacks.child (Node.tree_mem_children among)) fun statement stands _ => each statement stands
  · rw [own, Option.toList_none, List.nil_append, statements, List.flatMap_assoc]

/-- A definition declares itself and then what the statements of its blocks do. -/
theorem declared_definition {definition : Node} (structural : definition.label.extra = false)
    (lacks : definition.tree.Lacks "module")
    (part : (roleOf definition).enter definition.label.name = .classPart ∨
      (roleOf definition).enter definition.label.name = .functionPart)
    (each : ∀ block statement, block.parent? = some definition → block.label.name = "block" →
      StandsIn block statement →
      declared source statement = given ⟨statement.tree, isProperty statement source⟩) :
    declared source definition =
      (registry.declaration? source definition).toList ++
        (innerStatements source definition.tree).flatMap given := by
  refine (declared_eq_flatMap (fun child =>
    if child.isKind "block" then (statements source child).flatMap given else [])
    structural ?_).trans ?_
  · intro child among plain
    have within := Node.parent?_below among
    have below := lacks.child (Node.tree_mem_children among)
    have role : roleOf child = .classPart ∨ roleOf child = .functionPart := by
      rw [roleOf_parent? within]
      exact part
    have own : registry.declaration? source child = none := by
      apply declaration?_eq_none
      · rcases role with role | role <;> rw [role] <;> rfl
      · rcases role with role | role <;> rw [role] <;> decide
    split
    · rename_i block
      rw [← Node.isKind, isKind_iff] at block
      exact declared_body given own (by rw [block]; decide) plain below
        fun statement stands => each child statement within block stands
    · rename_i other
      rw [← Node.isKind, isKind_iff] at other
      exact declared_of_idle below own (Role.enter_of_part role below.name_ne other)
  · rw [innerStatements, bodies, List.flatMap_assoc, flatMap_filter]

end Bodies

end SyntaxSpans.Python
