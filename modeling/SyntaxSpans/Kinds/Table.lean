import SyntaxSpans.Category
import SyntaxSpans.Kinds.Grammar
import SyntaxSpans.Text.Quoted
import SyntaxSpans.Tree.Node

set_option autoImplicit false

namespace SyntaxSpans

/-- Decides from a node's surroundings and text whether it counts as its category, as another one,
or not at all. -/
abbrev ContextRule := Node → List Char → Category → Option Category

/-- The kinds of a language. A category may have several names. Comments proper are extra nodes;
statement comments are structural kinds, some of whose nodes serve as comments. Refined categories
come only from the rule. -/
structure Table where
  language : String
  declarations : List (Category × String)
  comments : List String
  statementComments : List String
  refined : List Category
  rule : Option ContextRule

namespace Table

/-- The names that the table lists under a category, in its order. -/
def namesFor (table : Table) (category : Category) : List String :=
  if category = .comment then table.comments ++ table.statementComments
  else (table.declarations.filter (·.1 = category)).map (·.2)

private def bracketed (items : List String) : String := "[" ++ ", ".intercalate items ++ "]"

/-- The table on one line; of the rule only whether there is one. -/
def summary (table : Table) : String :=
  let field (name value : String) := name ++ ": " ++ value
  let names (list : List String) := bracketed (list.map Quoted.render)
  let declarations := bracketed <| table.declarations.map fun entry =>
    "(" ++ entry.1.title ++ ", " ++ Quoted.render entry.2 ++ ")"
  "KindTable \x7b " ++ ", ".intercalate [
    field "language" (Quoted.render table.language),
    field "declarations" declarations,
    field "comments" (names table.comments),
    field "statement_comments" (names table.statementComments),
    field "refined" (bracketed (table.refined.map Category.title)),
    field "refine" (toString table.rule.isSome)] ++ " \x7d"

end Table

end SyntaxSpans
