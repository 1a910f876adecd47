import SyntaxSpans.Tree.Basic

set_option autoImplicit false

namespace SyntaxSpans

structure Grammar where
  symbols : List (KindId × String)

/-- The numbers of all symbols with a name, ascending; none for a name the grammar lacks. -/
def Grammar.idsOf (grammar : Grammar) (name : String) : List KindId :=
  (grammar.symbols.filter fun entry => entry.2 == name).map (·.1)

theorem Grammar.mem_idsOf (grammar : Grammar) (name : String) (id : KindId) :
    id ∈ grammar.idsOf name ↔ (id, name) ∈ grammar.symbols := by
  simp [Grammar.idsOf]

end SyntaxSpans
