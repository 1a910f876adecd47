import SyntaxSpans.Text.Pattern.Mode

set_option autoImplicit false

/- What a backslash begins: a character by its number, a character with a letter of its own, a set
of characters or a place between two. Words have boundaries among bytes alone, since an automaton
that takes one byte at a time cannot tell those of all scripts. Sets that reach beyond ASCII have no
place among bytes, as they would match a part of a character. -/
namespace SyntaxSpans.Pattern

/-- What a piece of a pattern stands for: one character, one of many, or a place between two. -/
inductive Piece where
  | char (value : Char)
  | anyOf
  | place

private def isHexDigit (char : Char) : Bool :=
  char.isDigit || ('a' ≤ char && char ≤ 'f') || ('A' ≤ char && char ≤ 'F')

private def hexValue (char : Char) : Nat :=
  if char.isDigit then char.toNat - '0'.toNat else char.toLower.toNat - 'a'.toNat + 10

/-- The number that so many more hexadecimal digits make of a number, and what follows them. -/
def hexNumber? (mode : Mode) : Nat → Nat → List Char → Option (Nat × List Char)
  | 0, number, text => some (number, text)
  | count + 1, number, text =>
      match mode.skip text with
      | [] => none
      | digit :: rest =>
          if isHexDigit digit then hexNumber? mode count (number * 16 + hexValue digit) rest
          else none

/-- The character that so many hexadecimal digits name, and what follows them. -/
def numbered? (mode : Mode) (count : Nat) (text : List Char) : Option (Char × List Char) :=
  match hexNumber? mode count 0 text with
  | none => none
  | some (number, rest) =>
      if number.isValidChar then some (Char.ofNat number, rest) else none

/-- What stands for a character after a backslash, beside the character itself. -/
def letters : List (Char × Piece) :=
  [('a', .char '\x07'), ('f', .char '\x0c'), ('t', .char '\t'), ('n', .char '\n'),
    ('r', .char '\r'), ('v', .char '\x0b'), ('A', .place), ('z', .place), ('d', .anyOf),
    ('s', .anyOf), ('w', .anyOf)]

/-- The letters of sets that reach beyond ASCII. -/
def wideLetters : List Char := ['D', 'S', 'W']

def boundaries : List Char := ['b', 'B', '<', '>']

/-- The kinds of characters with a name of one letter. -/
def kindLetters : List Char := ['c', 'l', 'm', 'n', 'p', 's', 'z']

private def isSign (char : Char) : Bool := char.toNat < 0x80 && !char.isAlphanum

/-- The piece after a backslash, and what follows it. -/
def escaped? (mode : Mode) : List Char → Option (Piece × List Char)
  | [] => none
  | 'x' :: rest =>
      match numbered? mode 2 rest with
      | some (char, after) =>
          if mode.unicode ∨ char.toNat < 0x80 then some (.char char, after) else none
      | none => none
  | 'u' :: rest => (numbered? mode 4 rest).map fun found => (.char found.1, found.2)
  | 'U' :: rest => (numbered? mode 8 rest).map fun found => (.char found.1, found.2)
  | 'p' :: rest | 'P' :: rest =>
      match mode.skip rest with
      | kind :: after =>
          if mode.unicode ∧ kindLetters.contains kind.toLower then some (.anyOf, after) else none
      | [] => none
  | letter :: rest =>
      if boundaries.contains letter then if mode.unicode then none else some (.place, rest)
      else if wideLetters.contains letter then if mode.unicode then some (.anyOf, rest) else none
      else
        match letters.lookup letter with
        | some piece => some (piece, rest)
        | none => if isSign letter then some (.char letter, rest) else none

end SyntaxSpans.Pattern
