import SyntaxSpans.Text.Blank

set_option autoImplicit false

namespace SyntaxSpans.Pattern

/-- Whether blanks and remarks are passed over, and whether characters are those of all scripts or
single bytes of ASCII. -/
structure Mode where
  spaced : Bool := false
  unicode : Bool := true

namespace Mode

/-- A text from its first character on that is neither a blank nor part of a remark. A remark goes
from a number sign to the end of the line. -/
def unspaced (inRemark : Bool) : List Char → List Char
  | [] => []
  | char :: rest =>
      if inRemark then unspaced (char != '\n') rest
      else if char = '#' then unspaced true rest
      else if Blank.holds char then unspaced false rest
      else char :: rest

/-- A text without the blanks and remarks in front, where they are passed over. -/
def skip (mode : Mode) (text : List Char) : List Char :=
  if mode.spaced then unspaced false text else text

/-- The character that says what a dash in front of a text means. Of a remark only the sign and the
blanks behind it are passed over here. -/
def glance (mode : Mode) (text : List Char) : Option Char :=
  if !mode.spaced then text.head?
  else
    match text.dropWhile Blank.holds with
    | '#' :: remark => (remark.dropWhile Blank.holds).head?
    | shown => shown.head?

/-- Whether a switch is on after switches, of which those behind a dash turn off. -/
private def switched (switches : List Char) (switch : Char) (before : Bool) : Bool :=
  if (switches.takeWhile (· != '-')).contains switch then true
  else !switches.contains switch && before

def switch (mode : Mode) (switches : List Char) : Mode :=
  ⟨switched switches 'x' mode.spaced, switched switches 'u' mode.unicode⟩

end Mode

end SyntaxSpans.Pattern
