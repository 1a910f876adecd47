import SyntaxSpans.Kinds.Remarks
import SyntaxSpans.Language
import SyntaxSpans.Text.Quoted

set_option autoImplicit false

namespace SyntaxSpans.Log

/-- How much a note matters, most important first. -/
inductive Level where
  | error
  | warn
  | info
  | debug
  | trace
  deriving DecidableEq

namespace Level

def all : List Level := [error, warn, info, debug, trace]

def name : Level → String
  | error => "ERROR"
  | warn => "WARN"
  | info => "INFO"
  | debug => "DEBUG"
  | trace => "TRACE"

def rank : Level → Nat
  | error => 1
  | warn => 2
  | info => 3
  | debug => 4
  | trace => 5

end Level

/-- The part of the program that a note comes from. -/
inductive Topic where
  | registry
  | loading
  | run
  | selection
  deriving DecidableEq

def Topic.address : Topic → String
  | registry => "decl_spans::extractors::base::registry"
  | loading => "decl_spans::extractors::manager"
  | run => "decl_spans::driver"
  | selection => "decl_spans::selection"

structure Note where
  level : Level
  topic : Topic
  text : String

/-- Writes a control character that a terminal may obey by its number: bell, backspace, form feed,
escape and delete with two digits, and those of the second block in braces. -/
def disarm (char : Char) : List Char :=
  if ['\x07', '\x08', '\x0c'].contains char then
    ['\\', 'x', '0'] ++ Nat.toDigits 16 char.toNat
  else if char = '\x1b' ∨ char = '\x7f' then ['\\', 'x'] ++ Nat.toDigits 16 char.toNat
  else if 0x80 ≤ char.toNat ∧ char.toNat ≤ 0x9F then Quoted.byNumber char
  else [char]

def Note.line (note : Note) : String :=
  note.level.name ++ " " ++ String.ofList (note.text.toList.flatMap disarm)

inductive Event where
  | note (note : Note)
  | registryNeeded (language : Language)

namespace Event

def warn (topic : Topic) (text : String) : Event := note ⟨.warn, topic, text⟩

def info (topic : Topic) (text : String) : Event := note ⟨.info, topic, text⟩

def debug (topic : Topic) (text : String) : Event := note ⟨.debug, topic, text⟩

end Event

def registryNotes (language : Language) : List Note :=
  (Registry.remarks language.grammar language.registry.table).map fun remark =>
    ⟨if remark.isWarning then .warn else .debug, .registry, remark.message⟩

/-- The notes of a sequence of events. A language whose registry has been built adds nothing. -/
def notes (built : List Language) : List Event → List Note
  | [] => []
  | .note note :: rest => note :: notes built rest
  | .registryNeeded language :: rest =>
      if built.contains language then notes built rest
      else registryNotes language ++ notes (language :: built) rest

end SyntaxSpans.Log
