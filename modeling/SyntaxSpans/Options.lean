import SyntaxSpans.Fault
import SyntaxSpans.Language

set_option autoImplicit false

namespace SyntaxSpans

/-- What a run does about a file that cannot be read or parsed: stop there, or leave it out. -/
inductive FailurePolicy where
  | abort
  | skip
  deriving DecidableEq

namespace FailurePolicy

def all : List FailurePolicy := [abort, skip]

def name : FailurePolicy → String
  | abort => "abort"
  | skip => "skip"

/-- The policy of a name; these names are exact. -/
def ofName : String → Except UnknownName FailurePolicy
  | "abort" => .ok abort
  | "skip" => .ok skip
  | other => .error (.policy other)

end FailurePolicy

/-- `parallel` changes the way of working and not what comes out. `strict` takes a tree with errors
for a failure. A `language` holds for every file, whatever its name. -/
structure Options where
  unit : SpanUnit := .chars
  onError : FailurePolicy := .abort
  parallel : Bool := false
  strict : Bool := false
  language : Option Language := none
  deriving DecidableEq

namespace Options

def default : Options := {}

/-- The language of a file: the one set for all files, or the one that its name shows. -/
def languageFor (options : Options) (path : String) : Except Fault Language :=
  match options.language with
  | some language => .ok language
  | none =>
      match Language.detect? path with
      | some language => .ok language
      | none => .error (.unknownLanguage path)

end Options

end SyntaxSpans
