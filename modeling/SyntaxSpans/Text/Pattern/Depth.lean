set_option autoImplicit false

namespace SyntaxSpans.Pattern

/-- The most levels that a pattern may have. -/
def depthLimit : Nat := 250

/-- The levels of parts that are taken together, which adds one unless there is a single part. -/
def together : List Nat → Nat
  | [] => 0
  | [depth] => depth
  | depths => depths.foldl max 0 + 1

end SyntaxSpans.Pattern
