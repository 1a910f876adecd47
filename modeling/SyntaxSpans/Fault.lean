set_option autoImplicit false

namespace SyntaxSpans

/-- Why bytes could not be read or written. -/
inductive IoFault where
  | notFound
  | notDirectory
  | isDirectory
  | nameTooLong
  | nulInName
  | notText
  | other (text : String)
  deriving DecidableEq

def IoFault.message : IoFault → String
  | notFound => "No such file or directory (os error 2)"
  | notDirectory => "Not a directory (os error 20)"
  | isDirectory => "Is a directory (os error 21)"
  | nameTooLong => "File name too long (os error 36)"
  | nulInName => "file name contained an unexpected NUL byte"
  | notText => "stream did not contain valid UTF-8"
  | other text => text

inductive Fault where
  | usage (text : String)
  | selection (source reason : String)
  | unreadable (path : String) (cause : IoFault)
  | unparsable (path reason : String)
  | unknownLanguage (path : String)
  | unwritable (cause : IoFault)
  deriving DecidableEq

namespace Fault

def message : Fault → String
  | usage text => s!"usage: {text}"
  | selection source reason => s!"invalid declaration selection in {source}: {reason}"
  | unreadable path cause => s!"failed to read {path}: {cause.message}"
  | unparsable path reason => s!"failed to parse {path}: {reason}"
  | unknownLanguage path => s!"cannot determine language of {path}"
  | unwritable cause => s!"failed to write output: {cause.message}"

def cause? : Fault → Option IoFault
  | unreadable _ cause => some cause
  | unwritable cause => some cause
  | _ => none

/-- The message followed by its cause. The message names the cause already, so it is seen twice. -/
def detailed (fault : Fault) : String :=
  match fault.cause? with
  | some cause => s!"{fault.message}: {cause.message}"
  | none => fault.message

/-- Faults that concern a single input file; the others end the run under any policy. -/
def isPerFile : Fault → Bool
  | unreadable .. | unparsable .. | unknownLanguage .. => true
  | _ => false

/-- The same fault, said of a file, where parsing went wrong before the file was known. -/
def withPath (path : String) : Fault → Fault
  | unparsable _ reason => unparsable path reason
  | fault => fault

end Fault

end SyntaxSpans
