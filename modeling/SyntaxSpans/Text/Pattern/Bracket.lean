import SyntaxSpans.Text.Pattern.Depth
import SyntaxSpans.Text.Pattern.Escape

set_option autoImplicit false

namespace SyntaxSpans.Pattern

/-- Brackets that are open: whether nothing but dashes has come yet, how deep what stands before the
last operator goes, and how deep the members since then go. -/
structure Bracket where
  isFront : Bool := true
  operand : Option Nat := none
  members : List Nat := []

namespace Bracket

def add (bracket : Bracket) (depth : Nat) : Bracket :=
  { bracket with members := depth :: bracket.members }

/-- How deep the set goes that is in the brackets so far. -/
def depth (bracket : Bracket) : Nat :=
  let last := together bracket.members
  match bracket.operand with
  | none => last
  | some first => together [first, last]

/-- The brackets with an operator behind what they have. -/
def operate (bracket : Bracket) : Bracket :=
  { bracket with operand := some bracket.depth, members := [] }

/-- In front a dash stands for itself, and so does a closing bracket if it is the first. -/
def standsForItself (bracket : Bracket) (char : Char) : Bool :=
  bracket.isFront && (char == '-' || (char == ']' && bracket.members.isEmpty))

end Bracket

/-- What follows an opening bracket and the sign that reverses the set, if there is one. -/
def opened? (mode : Mode) (text : List Char) : Option (List Char) :=
  match mode.skip text with
  | '^' :: rest => if mode.unicode then some rest else none
  | rest => some rest

/-- What follows an operator, which is one of three signs twice: for what is in both of two sets, in
the first alone, or in one of them alone. -/
def operator? (text : List Char) : Option (List Char) :=
  match text with
  | '&' :: '&' :: rest | '-' :: '-' :: rest | '~' :: '~' :: rest => some rest
  | _ => none

def setNames : List String :=
  ["alnum", "alpha", "ascii", "blank", "cntrl", "digit", "graph", "lower", "print", "punct",
    "space", "upper", "word", "xdigit"]

/-- Whether a named set is reversed, and what follows its name. That stands between colons and up to
a bracket, with a sign in front of it if the set is reversed. -/
def namedSet? (text : List Char) : Option (Bool × List Char) :=
  let forms := setNames.flatMap fun name => [(s!":{name}:]", false), (s!":^{name}:]", true)]
  (forms.find? fun form => form.1.toList.isPrefixOf text).map fun form =>
    (form.2, text.drop form.1.length)

/-- The first piece between brackets, and what follows it. Among bytes it is one of ASCII. -/
def member? (mode : Mode) (text : List Char) : Option (Piece × List Char) :=
  let found :=
    match text with
    | [] => none
    | '\\' :: rest => escaped? mode rest
    | char :: rest => some (.char char, rest)
  match found with
  | none | some (.place, _) => none
  | some (.char value, rest) =>
      if mode.unicode ∨ value.toNat < 0x80 then some (.char value, rest) else none
  | some (.anyOf, rest) => some (.anyOf, rest)

/-- What follows the first piece or range between brackets. A range goes upward, from one character
to another; a dash before a closing bracket or a second dash begins none. -/
def item? (mode : Mode) (text : List Char) : Option (List Char) :=
  match member? mode text with
  | none => none
  | some (first, behind) =>
      match mode.skip behind with
      | '-' :: rest =>
          let next := mode.glance rest
          if next = some ']' ∨ next = some '-' then some ('-' :: rest)
          else
            match first, member? mode (mode.skip rest) with
            | .char low, some (.char high, after) => if low ≤ high then some after else none
            | _, _ => none
      | rest => some rest

end SyntaxSpans.Pattern
