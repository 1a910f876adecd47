import SyntaxSpans.Proofs.Python.Levels
import SyntaxSpans.Proofs.Report.Declarations

set_option autoImplicit false

namespace SyntaxSpans.Python

variable {source : List Char} {node : Node}

/-- The declarations of a node and of everything below it, in document order. -/
def declared (source : List Char) (node : Node) : List Record :=
  node.outsideExtras.filterMap (registry.declaration? source)

theorem declared_of_extra (extra : node.label.extra = true) : declared source node = [] := by
  unfold declared Node.outsideExtras
  rw [Node.visitTree_eq]
  simp [extra, Registry.declaration?]

theorem declared_of_structural (structural : node.label.extra = false) :
    declared source node =
      (registry.declaration? source node).toList ++ node.below.flatMap (declared source) := by
  unfold declared Node.outsideExtras
  rw [Node.visitTree_eq, List.filterMap_cons, structural, Bool.not_false, if_pos rfl,
    List.filterMap_flatMap]
  cases registry.declaration? source node with
  | none => rfl
  | some record => rfl

/-- Only the children that are not extra matter, and only what their trees declare. -/
theorem declared_eq_flatMap (visited : Tree → List Record) (structural : node.label.extra = false)
    (below : ∀ child ∈ node.below, child.label.extra = false →
      declared source child = visited child.tree) :
    declared source node =
      (registry.declaration? source node).toList ++
        node.tree.structuralChildren.flatMap visited := by
  have parts : node.below.flatMap (declared source) =
      node.tree.children.flatMap fun child =>
        if child.label.extra then [] else visited child := by
    apply Node.flatMap_below
    intro child among
    split
    · rename_i extra
      exact declared_of_extra extra
    · rename_i plain
      exact below child among (Bool.eq_false_iff.mpr plain)
  rw [declared_of_structural structural, parts, Tree.structuralChildren, flatMap_filter]
  congr 2
  funext child
  cases child.label.extra with
  | true => rfl
  | false => rfl

/-- What a node declares by itself: a class or a function by its role, a field by the rule. -/
theorem declaration?_eq (source : List Char) (node : Node) :
    registry.declaration? source node =
      if node.label.extra then none
      else if node.label.name = "class_definition" then
        if (roleOf node).declares then some (node.tree.record .classDef) else none
      else if node.label.name = "function_definition" then
        if (roleOf node).declares then
          some (node.tree.record (if isProperty node source then .property else .function))
        else none
      else if node.label.name = "identifier" ∨ node.label.name = "attribute" then
        if isFieldTarget node source then some (node.tree.record .field) else none
      else none := by
  have entries : registry.table.declarations =
      [(.classDef, "class_definition"), (.function, "function_definition"),
        (.field, "identifier"), (.field, "attribute")] := rfl
  have rule (category : Category) :
      registry.refine node source category = contextRule node source category := rfl
  have kinds (kind : String) : node.isKind kind = decide (node.label.name = kind) := by
    rw [Bool.eq_iff_iff, isKind_iff, decide_eq_true_iff]
  unfold Registry.declaration?
  simp only [entries, List.find?_cons, List.find?_nil, rule, kinds]
  by_cases extra : node.label.extra = true
  · simp only [extra, ↓reduceIte]
  · rw [if_neg extra, if_neg extra]
    by_cases classDef : node.label.name = "class_definition"
    · simp [classDef, contextRule, atDeclarationLevel_eq]
    · by_cases function : node.label.name = "function_definition"
      · simp [function, contextRule, atDeclarationLevel_eq]
      · by_cases identifier : node.label.name = "identifier"
        · simp [identifier, contextRule]
        · by_cases attr : node.label.name = "attribute"
          · simp [attr, contextRule]
          · simp [classDef, function, identifier, attr]

theorem declaresFields_eq (statement : Node) (source : List Char) :
    declaresFields statement source =
      ((roleOf statement).declares || ((roleOf statement).runs &&
        (bodyOwner? statement).any fun owner => isInitialiser owner source)) := by
  unfold declaresFields
  split
  · rename_i unowned
    rw [(roleOf_of_unowned unowned).1, (roleOf_of_unowned unowned).2]
    rfl
  · rename_i owner owned
    obtain ⟨declares, runs⟩ := roleOf_bodyOwner? owned
    rw [atDeclarationLevel_eq, atDeclarationLevel_eq, owned, Option.any_some, Bool.eq_iff_iff,
      Bool.or_eq_true, Bool.and_eq_true, declares, runs]
    split
    · rename_i function
      rw [isKind_iff] at function
      simp [function, and_comm]
    · rename_i other
      rw [isKind_iff] at other
      simp [other, declares]

theorem isFieldTarget_eq {assignment statement : Node} (source : List Char)
    (within : node.parent? = some assignment) (outside : assignment.parent? = some statement) :
    isFieldTarget node source =
      (assignment.isKind "assignment" && node.isFirstUnder "left" &&
        (assignment.tree.childByField? "type").isNone &&
        (statement.isKind "expression_statement" && declaresFields statement source)) := by
  unfold isFieldTarget
  rw [within]
  dsimp only
  rw [outside]

/-- The target of a field lies in an assignment that is a statement of a declaration. -/
theorem roleOf_of_isFieldTarget (target : isFieldTarget node source = true) :
    roleOf node = .assignmentPart := by
  unfold isFieldTarget at target
  split at target
  · cases target
  · rename_i assignment within
    rw [Bool.and_eq_true, Bool.and_eq_true, Bool.and_eq_true, isKind_iff] at target
    obtain ⟨⟨⟨kind, -⟩, -⟩, outer⟩ := target
    split at outer
    · cases outer
    · rename_i statement outside
      rw [Bool.and_eq_true, isKind_iff, declaresFields_eq, Bool.or_eq_true,
        Bool.and_eq_true] at outer
      obtain ⟨expression, fields⟩ := outer
      have part : roleOf assignment = .statementPart := by
        rw [roleOf_parent? outside, Role.enter_eq_statementPart_iff]
        exact ⟨expression, fields.imp_right And.left⟩
      rw [roleOf_parent? within, Role.enter_eq_assignmentPart_iff]
      exact ⟨kind, part⟩

/-- A node can only be a declaration where declarations stand or an assignment is made. -/
theorem declaration?_eq_none (level : (roleOf node).declares = false)
    (outside : roleOf node ≠ .assignmentPart) : registry.declaration? source node = none := by
  have noTarget : isFieldTarget node source = false := by
    rw [← Bool.not_eq_true]
    exact fun target => outside (roleOf_of_isFieldTarget target)
  rw [declaration?_eq, level, noTarget]
  simp only [Bool.false_eq_true, ↓reduceIte, ite_self]

/-- Where nothing can be declared nothing is, however deep a declaration lies. -/
theorem declared_of_nothing (lacks : node.tree.Lacks "module") (role : roleOf node = .nothing) :
    declared source node = [] := by
  induction node using Node.inductionOnSize with
  | step node ih =>
      cases extra : node.label.extra with
      | true => exact declared_of_extra extra
      | false =>
          have own : registry.declaration? source node = none :=
            declaration?_eq_none (by rw [role]; rfl) (by rw [role]; decide)
          rw [declared_of_structural extra, own, Option.toList_none, List.nil_append,
            List.flatMap_eq_nil_iff]
          intro child among
          have up := Node.parent?_below among
          apply ih child (Node.size_parent? up) (lacks.child (Node.tree_mem_children among))
          rw [roleOf_parent? up, role]
          exact Role.enter_nothing lacks.name_ne

theorem declared_of_last (lacks : node.tree.Lacks "module")
    (role : (roleOf node).enter node.label.name = .nothing) :
    declared source node = (registry.declaration? source node).toList := by
  cases extra : node.label.extra with
  | true =>
      rw [declared_of_extra extra, Registry.declaration?, if_pos extra]
      rfl
  | false =>
      have below : node.below.flatMap (declared source) = [] := by
        rw [List.flatMap_eq_nil_iff]
        intro child among
        apply declared_of_nothing (lacks.child (Node.tree_mem_children among))
        rw [roleOf_parent? (Node.parent?_below among), role]
      rw [declared_of_structural extra, below, List.append_nil]

/-- What matters neither by itself nor for its children declares nothing. -/
theorem declared_of_idle (lacks : node.tree.Lacks "module")
    (own : registry.declaration? source node = none)
    (role : (roleOf node).enter node.label.name = .nothing) : declared source node = [] := by
  rw [declared_of_last lacks role, own]
  rfl

end SyntaxSpans.Python
