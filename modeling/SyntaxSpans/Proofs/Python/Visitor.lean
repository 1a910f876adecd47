import SyntaxSpans.Languages.Python
import SyntaxSpans.Proofs.Report.Declarations

set_option autoImplicit false

namespace SyntaxSpans.Python

/-- Whether one of the decorators of a definition is the bare name `property`. -/
def makesProperty (source : List Char) (decorated : Tree) : Bool :=
  decorated.namedChildren.any fun child => child.isKind "decorator" && isPropertyMark source child

/-- A statement of a body, and whether its decorators make it a property. -/
structure Statement where
  tree : Tree
  isProperty : Bool

/-- What a child of a body stands for: the parts of a decorated definition, or itself. -/
def standsFor (source : List Char) (child : Tree) : List Statement :=
  if child.isKind "decorated_definition" then
    child.structuralChildren.map fun part => ⟨part, makesProperty source child⟩
  else [⟨child, false⟩]

/-- The statements of a body. -/
def statements (source : List Char) (body : Tree) : List Statement :=
  body.structuralChildren.flatMap (standsFor source)

/-- The statements of a module, where a block stands for its own statements. -/
def moduleStatements (source : List Char) (module : Tree) : List Statement :=
  module.structuralChildren.flatMap fun child =>
    if child.isKind "block" then statements source child else standsFor source child

def bodies (definition : Tree) : List Tree :=
  definition.structuralChildren.filter (·.isKind "block")

def innerStatements (source : List Char) (definition : Tree) : List Statement :=
  (bodies definition).flatMap (statements source)

/-- What an assignment can make a field of: a name or an attribute. -/
def isAssignable (left : Tree) : Bool :=
  !left.label.extra && (left.isKind "identifier" || left.isKind "attribute")

/-- The first left side of an assignment without a type, if that can be a field. -/
def target? (assignment : Tree) : Option Tree :=
  if (assignment.childByField? "type").isSome then none
  else (assignment.childByField? "left").filter isAssignable

def assignedFields (statement : Tree) : List Record :=
  (statement.structuralChildren.filter (·.isKind "assignment")).filterMap fun assignment =>
    (target? assignment).map (·.record .field)

def initialisedFields (statement : Statement) : List Record :=
  if statement.tree.isKind "expression_statement" then assignedFields statement.tree else []

def isInitialiserTree (source : List Char) (function : Tree) : Bool :=
  (function.childByField? "name").any fun name => name.text source == "__init__".toList

/-- The fields that are assigned in the statements of an initialiser; no other function has any. -/
def initialFields (source : List Char) (function : Tree) : List Record :=
  if isInitialiserTree source function then
    (innerStatements source function).flatMap initialisedFields
  else []

theorem size_of_mem_statements {source : List Char} {body : Tree} {statement : Statement}
    (member : statement ∈ statements source body) : statement.tree.size < body.size := by
  obtain ⟨child, among, stands⟩ := List.mem_flatMap.mp member
  have inside := Tree.size_of_mem_children (List.mem_filter.mp among).1
  unfold standsFor at stands
  split at stands
  · obtain ⟨part, below, rfl⟩ := List.mem_map.mp stands
    have deeper := Tree.size_of_mem_children (List.mem_filter.mp below).1
    exact Nat.lt_trans deeper inside
  · rw [List.mem_singleton] at stands
    exact stands ▸ inside

theorem size_of_mem_innerStatements {source : List Char} {definition : Tree}
    {statement : Statement} (member : statement ∈ innerStatements source definition) :
    statement.tree.size < definition.size := by
  obtain ⟨body, among, inside⟩ := List.mem_flatMap.mp member
  simp only [bodies, Tree.structuralChildren, List.mem_filter] at among
  exact Nat.lt_trans (size_of_mem_statements inside) (Tree.size_of_mem_children among.1.1)

/-- The records of a statement: a class is followed by the statements of its bodies, a function by
the fields that it assigns as an initialiser. -/
def visit (source : List Char) (statement : Statement) : List Record :=
  if statement.tree.isKind "class_definition" then
    statement.tree.record .classDef ::
      (innerStatements source statement.tree).attach.flatMap fun inner => visit source inner.val
  else if statement.tree.isKind "function_definition" then
    statement.tree.record (if statement.isProperty then .property else .function) ::
      initialFields source statement.tree
  else if statement.tree.isKind "expression_statement" then assignedFields statement.tree
  else []
termination_by statement.tree.size
decreasing_by exact size_of_mem_innerStatements inner.property

theorem visit_class {source : List Char} {statement : Statement}
    (kind : statement.tree.isKind "class_definition" = true) :
    visit source statement = statement.tree.record .classDef ::
      (innerStatements source statement.tree).flatMap (visit source) := by
  rw [visit, if_pos kind]
  simp only [List.flatMap_def, List.attach_map_val]

/-- The records of a whole tree, nothing unless it is a module. -/
def visitRoot (source : List Char) (root : Tree) : List Record :=
  if root.isKind "module" then (moduleStatements source root).flatMap (visit source) else []

end SyntaxSpans.Python
