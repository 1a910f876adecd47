set_option autoImplicit false

namespace SyntaxSpans

/-- The closed set of things that are reported. -/
inductive Category where
  | classDef
  | function
  | property
  | field
  | namespaceDef
  | comment
  deriving DecidableEq

namespace Category

/-- Every category, in the order in which they are listed everywhere. -/
def all : List Category := [classDef, function, property, field, namespaceDef, comment]

def name : Category → String
  | classDef => "class"
  | function => "function"
  | property => "property"
  | field => "field"
  | namespaceDef => "namespace"
  | comment => "comment"

/-- The name with a capital, as a table of kinds shows it. -/
def title : Category → String
  | classDef => "Class"
  | function => "Function"
  | property => "Property"
  | field => "Field"
  | namespaceDef => "Namespace"
  | comment => "Comment"

/-- The category of a name; names are exact, so `Class` denotes nothing. -/
def ofName? (name : String) : Option Category := all.find? fun category => category.name == name

theorem mem_all (category : Category) : category ∈ all := by
  cases category <;> decide

theorem name_injective {first second : Category} (same : first.name = second.name) :
    first = second := by
  cases first <;> cases second <;> first | rfl | (revert same; decide)

end Category

end SyntaxSpans
