import SyntaxSpans.Kinds.Table

set_option autoImplicit false

/- A table of kinds, resolved against a grammar: which symbol numbers stand for which category.
Where two entries of the table claim one number, the first keeps it; a number claimed by a
declaration is no comment, and one claimed by a comment is no statement comment. -/
namespace SyntaxSpans

/-- A symbol number, claimed for a category. -/
abbrev Claim := KindId × Category

/-- The claims whose number nothing before them has. -/
def firstClaims (taken : List KindId) : List Claim → List Claim
  | [] => []
  | claim :: rest =>
      if taken.contains claim.1 then firstClaims taken rest
      else claim :: firstClaims (claim.1 :: taken) rest

/-- The first occurrence of each number that is not taken yet. -/
def firstIds (taken : List KindId) : List KindId → List KindId
  | [] => []
  | id :: rest =>
      if taken.contains id then firstIds taken rest else id :: firstIds (id :: taken) rest

/-- `comments` lists a number as often as the table names it; the other two lists hold each number
once. -/
structure Registry where
  table : Table
  declared : List Claim
  comments : List KindId
  statementComments : List KindId

namespace Registry

def build (grammar : Grammar) (table : Table) : Registry :=
  let claims := table.declarations.flatMap fun entry =>
    (grammar.idsOf entry.2).map fun id => (id, entry.1)
  let declared := firstClaims [] claims
  let declaredIds := declared.map (·.1)
  let comments := (table.comments.flatMap grammar.idsOf).filter fun id =>
    !declaredIds.contains id
  let statements :=
    firstIds (declaredIds ++ comments) (table.statementComments.flatMap grammar.idsOf)
  ⟨table, declared, comments, statements⟩

def isDeclaration (registry : Registry) (kind : KindId) : Bool :=
  registry.declared.any (·.1 == kind)

def isComment (registry : Registry) (kind : KindId) : Bool := registry.comments.contains kind

/-- A structural kind, some of whose nodes serve as comments. -/
def isStatementComment (registry : Registry) (kind : KindId) : Bool :=
  registry.statementComments.contains kind

def hasStatementComments (registry : Registry) : Bool := !registry.statementComments.isEmpty

/-- The category of a kind; both sorts of comments have the same one. -/
def categoryOf? (registry : Registry) (kind : KindId) : Option Category :=
  match registry.declared.lookup kind with
  | some category => some category
  | none =>
      if registry.isComment kind || registry.isStatementComment kind then some .comment else none

/-- The numbers that stand for a category, in the order in which they were claimed. -/
def kindsFor (registry : Registry) (category : Category) : List KindId :=
  (registry.declared.filter (·.2 = category)).map (·.1) ++
    if category = .comment then registry.comments ++ registry.statementComments else []

/-- The names that the table has for a category, whether or not the grammar knows them and
whether or not another category was first. -/
def namesFor (registry : Registry) (category : Category) : List String :=
  registry.table.namesFor category

/-- The categories that the language can report at all. -/
def categories (registry : Registry) : List Category :=
  Category.all.filter fun category =>
    !(registry.kindsFor category).isEmpty || registry.table.refined.contains category

/-- What the language's rule makes of a node whose kind stands for a category. -/
def refine (registry : Registry) (node : Node) (source : List Char) (category : Category) :
    Option Category :=
  match registry.table.rule with
  | some rule => rule node source category
  | none => some category

def commentCount (registry : Registry) : Nat := (firstIds [] registry.comments).length

end Registry

end SyntaxSpans
