import SyntaxSpans.Text.Split

set_option autoImplicit false

namespace SyntaxSpans.Path

/-- The parts that lead somewhere: nothing between two slashes, and a single dot, stay in place. -/
def components (path : String) : List (List Char) :=
  (splitAtEvery '/' path.toList).filter fun part => part != [] && part != ['.']

/-- The last component, unless it leads upward. -/
def fileName? (path : String) : Option (List Char) :=
  (components path).getLast?.filter (· != ['.', '.'])

/-- What follows the last dot of a file name; a dot in front begins no extension. -/
def extensionOf? (name : List Char) : Option String :=
  let tail := (name.reverse.takeWhile (· != '.')).reverse
  if tail.length + 1 < name.length then some (String.ofList tail) else none

def extension? (path : String) : Option String := (fileName? path).bind extensionOf?

end SyntaxSpans.Path
