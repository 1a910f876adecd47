import SyntaxSpans.Text.Pattern.Bracket
import SyntaxSpans.Text.Pattern.Group

set_option autoImplicit false

/- Regular expressions, as far as it takes to say which texts are well-formed. Counted repetitions
and other forms in braces have no place here, since a pattern stands between braces itself. -/
namespace SyntaxSpans.Pattern

/-- A part of a sequence: something that can be repeated, by how deep it goes, or switches. -/
inductive Part where
  | piece (depth : Nat)
  | switches

def Part.depth : Part → Nat
  | .piece depth => depth
  | .switches => 0

/-- A group that is open, or the pattern around all groups: the mode that holds, how deep the
choices before the last bar go, and the parts since then, the last one first. -/
structure Level where
  mode : Mode := {}
  choices : List Nat := []
  parts : List Part := []

namespace Level

def add (level : Level) (part : Part) : Level := { level with parts := part :: level.parts }

/-- How deep the choice goes that is being read. -/
def sequence (level : Level) : Nat := together (level.parts.map Part.depth)

def choose (level : Level) : Level :=
  { level with choices := level.sequence :: level.choices, parts := [] }

def depth (level : Level) : Nat := together (level.sequence :: level.choices)

def repeat? (level : Level) : Option Level :=
  match level.parts with
  | .piece depth :: parts => some { level with parts := .piece (depth + 1) :: parts }
  | _ => none

end Level

/-- How far a pattern has been read: the innermost group that is open, the groups around it, the
brackets that are open, from inside out, and the names that groups have. -/
structure Progress where
  level : Level := {}
  outer : List Level := []
  brackets : List Bracket := []
  names : List (List Char) := []

namespace Progress

def add (progress : Progress) (part : Part) : Progress :=
  { progress with level := progress.level.add part }

/-- The innermost group closed, if one is open. -/
def close? (progress : Progress) : Option Progress :=
  match progress.outer with
  | [] => none
  | around :: outer =>
      some { progress with level := around.add (.piece (progress.level.depth + 1)), outer }

/-- A group opened, whose name no other group has. -/
def open? (progress : Progress) (name : Option (List Char)) (mode : Mode) : Option Progress :=
  if name.any progress.names.contains then none
  else
    some { progress with
      level := { mode }
      outer := progress.level :: progress.outer
      names := name.toList ++ progress.names }

/-- A character between brackets, and what is left after it and those that belong to it. -/
def inside? (progress : Progress) (bracket : Bracket) (around : List Bracket) (char : Char)
    (rest : List Char) : Option (Progress × List Char) :=
  let mode := progress.level.mode
  let become (brackets : List Bracket) : Progress := { progress with brackets }
  let settled := { bracket with isFront := false }
  if bracket.standsForItself char then
    some (become ({ bracket.add 0 with isFront := char == '-' } :: around), rest)
  else if char = '[' then
    match namedSet? rest with
    | some (reversed, left) =>
        if reversed && !mode.unicode then none
        else some (become (settled.add 0 :: around), left)
    | none => (opened? mode rest).map fun left => (become ({} :: settled :: around), left)
  else if char = ']' then
    match around with
    | [] => some ((become []).add (.piece (bracket.depth + 1)), rest)
    | next :: others => some (become (next.add (bracket.depth + 1) :: others), rest)
  else
    match operator? (char :: rest) with
    | some left => some (become (settled.operate :: around), left)
    | none => (item? mode (char :: rest)).map fun left => (become (settled.add 0 :: around), left)

/-- A character outside of brackets, and what is left after it and those that belong to it. -/
def outside? (progress : Progress) (char : Char) (rest : List Char) :
    Option (Progress × List Char) :=
  let mode := progress.level.mode
  match char with
  | '(' =>
      match heading? mode rest with
      | none => none
      | some (.group name mode, left) => (progress.open? name mode).map fun next => (next, left)
      | some (.switches mode, left) =>
          some ({ progress with level := { progress.level.add .switches with mode } }, left)
  | ')' => progress.close?.map fun next => (next, rest)
  | '|' => some ({ progress with level := progress.level.choose }, rest)
  | '[' => (opened? mode rest).map fun left => ({ progress with brackets := [{}] }, left)
  | '?' | '*' | '+' =>
      progress.level.repeat?.map fun level =>
        ({ progress with level }, if rest.head? = some '?' then rest.tail else rest)
  | '\x7b' => none
  | '.' => if mode.unicode then some (progress.add (.piece 0), rest) else none
  | '\\' => (escaped? mode rest).map fun found => (progress.add (.piece 0), found.2)
  | _ => some (progress.add (.piece 0), rest)

def step? (progress : Progress) (char : Char) (rest : List Char) : Option (Progress × List Char) :=
  match progress.brackets with
  | [] => progress.outside? char rest
  | bracket :: around => progress.inside? bracket around char rest

/-- Whether everything is closed, and no deeper than it may be. -/
def isComplete (progress : Progress) : Bool :=
  progress.outer.isEmpty && progress.brackets.isEmpty && progress.level.depth ≤ depthLimit

/-- Whether a text completes a pattern in so many steps or fewer. -/
def reads : Nat → Progress → List Char → Bool
  | 0, _, _ => false
  | steps + 1, progress, text =>
      match progress.level.mode.skip text with
      | [] => progress.isComplete
      | char :: rest =>
          match progress.step? char rest with
          | none => false
          | some (next, left) => reads steps next left

end Progress

/-- Whether a text is a well-formed pattern. Every step but the last takes a character, so there are
steps enough. -/
def isWellFormed (text : List Char) : Bool := Progress.reads (text.length + 1) {} text

end SyntaxSpans.Pattern
