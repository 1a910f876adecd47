import SyntaxSpans.Text.Ranges

set_option autoImplicit false

namespace SyntaxSpans.Blank

def ranges : Ranges :=
  [(0x9, 0xD), (0x20, 0x20), (0x85, 0x85), (0xA0, 0xA0), (0x1680, 0x1680), (0x2000, 0x200A),
    (0x2028, 0x2029), (0x202F, 0x202F), (0x205F, 0x205F), (0x3000, 0x3000)]

def holds (char : Char) : Bool := ranges.has char

def trim (text : List Char) : List Char :=
  ((text.dropWhile holds).reverse.dropWhile holds).reverse

end SyntaxSpans.Blank
