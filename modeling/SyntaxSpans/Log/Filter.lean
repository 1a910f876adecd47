import SyntaxSpans.Log.Rule
import SyntaxSpans.Text.Split

set_option autoImplicit false

namespace SyntaxSpans.Log

structure Filter where
  rules : List Rule

namespace Filter

/-- A filter as text: rules between commas, all of which have to be well-formed. -/
def parse? (text : String) : Option Filter :=
  let parts := (splitAtEvery ',' text.toList).filter fun part => !part.isEmpty
  (parts.mapM Rule.ofText?).map fun rules => ⟨rules.filterMap id⟩

def upTo (level : Level) : Filter := ⟨[{ address := [], rank := level.rank }]⟩

def ofVerbosity : Nat → Filter
  | 0 => upTo .warn
  | 1 => upTo .info
  | 2 => upTo .debug
  | _ => upTo .trace

/-- A filter that is set from outside wins over the count of requests, unless it is malformed. -/
def choose (setting : Option String) (verbosity : Nat) : Filter :=
  (setting.bind parse?).getD (ofVerbosity verbosity)

/-- The rule that decides on a note: the closest, the last of equal ones. -/
private def decide? (rules : List Rule) (note : Note) : Option Rule :=
  (rules.filter (·.isAbout note)).foldl (fun best rule =>
    match best with
    | none => some rule
    | some held => if rule.isCloser held then some rule else some held) none

def admits (filter : Filter) (note : Note) : Bool :=
  match decide? filter.rules note with
  | none => false
  | some rule => note.level.rank ≤ rule.rank

end Filter

def lines (filter : Filter) (events : List Event) : List String :=
  ((notes [] events).filter filter.admits).map Note.line

end SyntaxSpans.Log
