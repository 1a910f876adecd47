import SyntaxSpans.Languages.PythonContext

set_option autoImplicit false

/- What the surroundings of a node allow it to be, read from the outside inward. Each ancestor on
the way down changes the role of the places below it, and only its kind matters for that. The rule
of the language climbs outward instead; it asks exactly for the role that the way down ends with. -/
namespace SyntaxSpans.Python

/-- What the children of a node can be. -/
inductive Role where
  | moduleBody
  | classBody
  | decorated
  | classPart
  | functionPart
  | functionBody
  | functionDecorated
  | statementPart
  | assignmentPart
  | nothing
  deriving DecidableEq

namespace Role

/-- Whether classes and functions are declared here. -/
def declares : Role → Bool
  | moduleBody | classBody | decorated => true
  | _ => false

def runs : Role → Bool
  | functionBody | functionDecorated => true
  | _ => false

theorem declares_of_runs {role : Role} (runs : role.runs = true) : role.declares = false := by
  cases role with
  | functionBody | functionDecorated => rfl
  | _ => cases runs

def decorates : Role → Bool
  | decorated | functionDecorated => true
  | _ => false

/-- The role of what is below a node of a kind in a place with a role. A module begins anew. -/
def enter (kind : String) (role : Role) : Role :=
  if kind = "module" then moduleBody
  else
    match role with
    | moduleBody | classBody | decorated =>
        if kind = "class_definition" then classPart
        else if kind = "function_definition" then functionPart
        else if kind = "expression_statement" then statementPart
        else if kind = "decorated_definition" ∧ role ≠ decorated then decorated
        else if kind = "block" ∧ role = moduleBody then classBody
        else nothing
    | classPart => if kind = "block" then classBody else nothing
    | functionPart => if kind = "block" then functionBody else nothing
    | functionBody =>
        if kind = "expression_statement" then statementPart
        else if kind = "decorated_definition" then functionDecorated
        else nothing
    | functionDecorated => if kind = "expression_statement" then statementPart else nothing
    | statementPart => if kind = "assignment" then assignmentPart else nothing
    | assignmentPart | nothing => nothing

/-- The role of a place below ancestors of these kinds, the nearest first. -/
def below : List String → Role
  | [] => nothing
  | kind :: rest => enter kind (below rest)

/-- Nothing is declared below what is of no use, but for another module. -/
theorem enter_nothing {kind : String} (other : kind ≠ "module") :
    enter kind nothing = nothing := by
  simp only [enter, other, ↓reduceIte]

theorem enter_eq_classPart_iff (kind : String) (role : Role) :
    enter kind role = classPart ↔ kind = "class_definition" ∧ role.declares = true := by
  unfold enter declares
  cases role <;> grind

theorem enter_eq_functionPart_iff (kind : String) (role : Role) :
    enter kind role = functionPart ↔ kind = "function_definition" ∧ role.declares = true := by
  unfold enter declares
  cases role <;> grind

theorem enter_eq_moduleBody_iff (kind : String) (role : Role) :
    enter kind role = moduleBody ↔ kind = "module" := by
  unfold enter
  cases role <;> grind

/-- Declarations stand in a module, in blocks of a module or a class, and under decorators there. -/
theorem declares_enter_iff (kind : String) (role : Role) :
    (enter kind role).declares = true ↔
      kind = "module" ∨ (kind = "block" ∧ (role = moduleBody ∨ role = classPart)) ∨
      (kind = "decorated_definition" ∧ (role = moduleBody ∨ role = classBody)) := by
  unfold enter declares
  cases role <;> grind

theorem runs_enter_iff (kind : String) (role : Role) :
    (enter kind role).runs = true ↔
      (kind = "block" ∧ role = functionPart) ∨
      (kind = "decorated_definition" ∧ role = functionBody) := by
  unfold enter runs
  cases role <;> grind

theorem enter_eq_classBody_iff (kind : String) (role : Role) :
    enter kind role = classBody ↔ kind = "block" ∧ (role = moduleBody ∨ role = classPart) := by
  unfold enter
  cases role <;> grind

theorem enter_eq_functionBody_iff (kind : String) (role : Role) :
    enter kind role = functionBody ↔ kind = "block" ∧ role = functionPart := by
  unfold enter
  cases role <;> grind

theorem enter_eq_assignmentPart_iff (kind : String) (role : Role) :
    enter kind role = assignmentPart ↔ kind = "assignment" ∧ role = statementPart := by
  unfold enter
  cases role <;> grind

theorem enter_eq_statementPart_iff (kind : String) (role : Role) :
    enter kind role = statementPart ↔
      kind = "expression_statement" ∧ (role.declares = true ∨ role.runs = true) := by
  unfold enter declares runs
  cases role <;> grind

theorem decorates_enter {kind : String} {role : Role}
    (decorates : (enter kind role).decorates = true) : kind = "decorated_definition" := by
  unfold enter Role.decorates at decorates
  cases role <;> grind

theorem decorates_enter_enter (kind : String) (role : Role) :
    (enter kind (enter "decorated_definition" role)).decorates = false := by
  unfold enter decorates
  cases role <;> grind

/-- Among declarations only definitions, expressions and decorators are of use, and a block that is
not the body of anything in a module. -/
theorem enter_of_declares {kind : String} {role : Role} (declares : role.declares = true)
    (other : kind ≠ "module") (classDef : kind ≠ "class_definition")
    (function : kind ≠ "function_definition") (expression : kind ≠ "expression_statement")
    (plain : (enter kind role).decorates = false) (inner : enter kind role ≠ classBody) :
    enter kind role = nothing := by
  unfold enter Role.declares Role.decorates at *
  cases role <;> grind

theorem enter_of_runs {kind : String} {role : Role} (runs : role.runs = true)
    (other : kind ≠ "module") (expression : kind ≠ "expression_statement")
    (plain : (enter kind role).decorates = false) : enter kind role = nothing := by
  unfold enter Role.runs Role.decorates at *
  cases role <;> grind

/-- A definition is made of its blocks and of parts that hold no statements. -/
theorem enter_of_part {kind : String} {role : Role} (part : role = classPart ∨ role = functionPart)
    (other : kind ≠ "module") (block : kind ≠ "block") : enter kind role = nothing := by
  unfold enter
  rcases part with rfl | rfl <;> grind

end Role

def roleOf (node : Node) : Role := Role.below node.ancestorKinds

theorem roleOf_parent? {node parent : Node} (found : node.parent? = some parent) :
    roleOf node = (roleOf parent).enter parent.label.name := by
  unfold roleOf
  rw [Node.ancestorKinds_parent? found]
  rfl

theorem roleOf_of_top {node : Node} (top : node.parent? = none) : roleOf node = .nothing := by
  rw [roleOf, Node.ancestorKinds_of_top top, Role.below]

theorem isKind_iff (node : Node) (kind : String) :
    node.isKind kind = true ↔ node.label.name = kind := by
  simp only [Node.isKind, Tree.isKind, Node.label, beq_iff_eq]

/-- Seen from inside its decorators a node has the role that its holder gives to statements. -/
theorem roleOf_holder? {node holder : Node} (found : holder? node = some holder) :
    ((roleOf node).declares = true ↔
      holder.label.name = "module" ∨ (holder.label.name = "block" ∧
        (roleOf holder = .moduleBody ∨ roleOf holder = .classPart))) ∧
    ((roleOf node).runs = true ↔
      holder.label.name = "block" ∧ roleOf holder = .functionPart) := by
  unfold holder? at found
  split at found
  · cases found
  · rename_i parent up
    rw [roleOf_parent? up, Role.declares_enter_iff, Role.runs_enter_iff]
    split at found
    · rename_i decorated
      rw [isKind_iff] at decorated
      rw [roleOf_parent? found, decorated, Role.enter_eq_moduleBody_iff,
        Role.enter_eq_classBody_iff, Role.enter_eq_functionBody_iff]
      simp
    · rename_i plain
      cases found
      rw [isKind_iff] at plain
      simp [plain]

theorem roleOf_of_unheld {node : Node} (free : holder? node = none) : roleOf node = .nothing := by
  unfold holder? at free
  split at free
  · rename_i top
    exact roleOf_of_top top
  · rename_i parent up
    split at free
    · rename_i decorated
      rw [isKind_iff] at decorated
      rw [roleOf_parent? up, roleOf_of_top free, decorated]
      rfl
    · cases free

/-- The role of a statement comes from the owner of the body that it stands in. -/
theorem roleOf_bodyOwner? {node owner : Node} (found : bodyOwner? node = some owner) :
    ((roleOf node).declares = true ↔
      owner.label.name = "module" ∨
        (owner.label.name = "class_definition" ∧ (roleOf owner).declares = true)) ∧
    ((roleOf node).runs = true ↔
      owner.label.name = "function_definition" ∧ (roleOf owner).declares = true) := by
  unfold bodyOwner? at found
  split at found
  · cases found
  · rename_i holder held
    rw [(roleOf_holder? held).1, (roleOf_holder? held).2]
    split at found
    · rename_i module
      cases found
      rw [isKind_iff] at module
      simp [module]
    · rename_i other
      rw [isKind_iff] at other
      split at found
      · rename_i block
        rw [isKind_iff] at block
        rw [roleOf_parent? found, Role.enter_eq_moduleBody_iff, Role.enter_eq_classPart_iff,
          Role.enter_eq_functionPart_iff]
        simp [block]
      · cases found

theorem roleOf_of_unowned {node : Node} (free : bodyOwner? node = none) :
    (roleOf node).declares = false ∧ (roleOf node).runs = false := by
  unfold bodyOwner? at free
  split at free
  · rename_i unheld
    rw [roleOf_of_unheld unheld]
    exact ⟨rfl, rfl⟩
  · rename_i holder held
    rw [← Bool.not_eq_true, ← Bool.not_eq_true, (roleOf_holder? held).1, (roleOf_holder? held).2]
    split at free
    · cases free
    · rename_i other
      rw [isKind_iff] at other
      split at free
      · rw [roleOf_of_top free]
        simp [other]
      · rename_i plain
        rw [isKind_iff] at plain
        simp [other, plain]

/-- Climbing out to a module through class bodies finds what the way down has found. -/
theorem atDeclarationLevel_eq (node : Node) :
    atDeclarationLevel node = (roleOf node).declares := by
  fun_induction atDeclarationLevel node with
  | case1 node free => exact (roleOf_of_unowned free).1.symm
  | case2 node owner found module =>
      rw [isKind_iff] at module
      exact ((roleOf_bodyOwner? found).1.mpr (.inl module)).symm
  | case3 node owner found other classDef ih =>
      rw [isKind_iff] at other classDef
      rw [ih, Bool.eq_iff_iff, (roleOf_bodyOwner? found).1]
      simp [classDef]
  | case4 node owner found other plain =>
      rw [isKind_iff] at other plain
      rw [eq_comm, ← Bool.not_eq_true, (roleOf_bodyOwner? found).1]
      simp [other, plain]

end SyntaxSpans.Python
