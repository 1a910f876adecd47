import SyntaxSpans.Kinds.Table

set_option autoImplicit false

/- What counts as a declaration in Python, read off the surroundings of a node. Classes and
functions count directly in a module or in the body of a class that counts itself. A field is the
target of a plain assignment there, or directly in the initialiser of such a class. A comment is a
statement there that is nothing but a string. Decorators around a definition are looked through. -/
namespace SyntaxSpans.Python

/-- The node around a statement, outside its decorators if it has any. -/
def holder? (statement : Node) : Option Node :=
  match statement.parent? with
  | none => none
  | some parent => if parent.isKind "decorated_definition" then parent.parent? else some parent

/-- The node whose body holds a statement: the module, or what the enclosing block belongs to. -/
def bodyOwner? (statement : Node) : Option Node :=
  match holder? statement with
  | none => none
  | some holder =>
      if holder.isKind "module" then some holder
      else if holder.isKind "block" then holder.parent?
      else none

theorem holder?_length {statement holder : Node} (found : holder? statement = some holder) :
    holder.above.length < statement.above.length := by
  unfold holder? at found
  split at found
  · cases found
  · rename_i parent up
    have outer := Node.parent?_length up
    split at found
    · have := Node.parent?_length found
      omega
    · cases found
      omega

theorem bodyOwner?_length {statement owner : Node} (found : bodyOwner? statement = some owner) :
    owner.above.length < statement.above.length := by
  unfold bodyOwner? at found
  split at found
  · cases found
  · rename_i holder around
    have outer := holder?_length around
    split at found
    · cases found
      exact outer
    · split at found
      · have := Node.parent?_length found
        omega
      · cases found

/-- Directly in the module, or in the body of a class at declaration level. -/
def atDeclarationLevel (statement : Node) : Bool :=
  match _found : bodyOwner? statement with
  | none => false
  | some owner =>
      if owner.isKind "module" then true
      else if owner.isKind "class_definition" then atDeclarationLevel owner
      else false
termination_by statement.above.length
decreasing_by exact bodyOwner?_length _found

/-- A decorator that is the bare name `property`. -/
def isPropertyMark (source : List Char) (decorator : Tree) : Bool :=
  match decorator.namedChildren with
  | [] => false
  | expression :: _ =>
      expression.isKind "identifier" && expression.text source == "property".toList

def isProperty (function : Node) (source : List Char) : Bool :=
  match function.parent? with
  | none => false
  | some decorated =>
      decorated.isKind "decorated_definition" &&
        decorated.tree.namedChildren.any fun child =>
          child.isKind "decorator" && isPropertyMark source child

def isInitialiser (function : Node) (source : List Char) : Bool :=
  match function.tree.childByField? "name" with
  | none => false
  | some name => name.text source == "__init__".toList

/-- Whether an assignment statement here declares a field. -/
def declaresFields (statement : Node) (source : List Char) : Bool :=
  match bodyOwner? statement with
  | none => false
  | some owner =>
      if owner.isKind "function_definition" then
        isInitialiser owner source && atDeclarationLevel owner
      else atDeclarationLevel statement

/-- The left side of an assignment without a type, in a statement of its own. -/
def isFieldTarget (target : Node) (source : List Char) : Bool :=
  match target.parent? with
  | none => false
  | some assignment =>
      assignment.isKind "assignment" && target.isFirstUnder "left" &&
        (assignment.tree.childByField? "type").isNone &&
        match assignment.parent? with
        | none => false
        | some statement =>
            statement.isKind "expression_statement" && declaresFields statement source

/-- A string literal without one of the letters of a formatted or a byte string in front of its
first quote. -/
def isPlainString (source : List Char) (string : Tree) : Bool :=
  let literal := string.text source
  !(literal.takeWhile fun char => char != '"' && char != '\'').any
    fun char => char == 'f' || char == 'F' || char == 'b' || char == 'B'

/-- A statement whose only named part is a plain string, or plain strings side by side. -/
def isStringStatement (statement : Node) (source : List Char) : Bool :=
  match statement.tree.namedChildren.filter fun child => !child.label.extra with
  | [expression] =>
      if expression.isKind "string" then isPlainString source expression
      else if expression.isKind "concatenated_string" then
        expression.namedChildren.all fun part =>
          !part.isKind "string" || isPlainString source part
      else false
  | _ => false

/-- The rule of the language. A namespace or a property is taken as it comes. -/
def contextRule (node : Node) (source : List Char) (category : Category) : Option Category :=
  match category with
  | .classDef => if atDeclarationLevel node then some .classDef else none
  | .function =>
      if atDeclarationLevel node then
        some (if isProperty node source then .property else .function)
      else none
  | .field => if isFieldTarget node source then some .field else none
  | .comment =>
      if atDeclarationLevel node && isStringStatement node source then some .comment else none
  | .property => some .property
  | .namespaceDef => some .namespaceDef

end SyntaxSpans.Python
