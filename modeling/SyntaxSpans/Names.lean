set_option autoImplicit false

namespace SyntaxSpans

/-- A name no unit, language or failure policy has. The first two are read without regard to the
case of ASCII letters and are kept in lower case. -/
inductive UnknownName where
  | unit (folded : String)
  | language (folded : String)
  | policy (given : String)
  deriving DecidableEq

def UnknownName.message : UnknownName → String
  | unit folded => s!"unknown span unit '{folded}'; expected one of: chars, bytes, lines"
  | language folded =>
      s!"unsupported language '{folded}'; expected one of: csharp, java, python"
  | policy given => s!"unknown failure policy '{given}'"

/-- Lower case for ASCII letters; every other character stays. -/
def foldCase (name : String) : String := name.map Char.toLower

end SyntaxSpans
