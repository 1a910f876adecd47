set_option autoImplicit false

/- Sets of characters as closed ranges of code points, ascending and apart. The sets of this library
are those of version 17 of Unicode. -/
namespace SyntaxSpans

abbrev Ranges := List (Nat × Nat)

def Ranges.has (ranges : Ranges) (char : Char) : Bool :=
  ranges.any fun range => range.1 ≤ char.toNat && char.toNat ≤ range.2

end SyntaxSpans
