import SyntaxSpans.CommandLine.Arguments
import SyntaxSpans.Log.Filter
import SyntaxSpans.Run.Job
import SyntaxSpans.Selection.File

set_option autoImplicit false

namespace SyntaxSpans.CommandLine

structure Ending where
  exitCode : Nat
  output : Bytes
  complaints : List String
  events : List Log.Event

def versionText : String := "decl_spans 0.1.0\n"

/-- Help in this library's own wording. The text that an argument parser makes of the options is not
modelled, but only that asking for help ends the program well. -/
def helpText : String := "\n".intercalate
  ["Print the spans of declarations and comments in source files", "",
    "Usage: decl-spans [OPTIONS] <DECLARATIONS> [FILES]...", "",
    "Arguments:",
    "  <DECLARATIONS>           JSON list of category names; left out with --select",
    "  [FILES]...               Source files, in the order given", "",
    "Options:",
    "      --select <NAMES>       Category names between commas",
    "      --language <LANGUAGE>  Language of every file: csharp, java, python",
    "      --unit <UNIT>          Span coordinates: chars, bytes or lines",
    "      --keep-going           Skip files that cannot be read or parsed",
    "      --parallel             Load all files before writing",
    "      --strict               Take files with syntax errors for unparsable",
    "  -v, --verbose...           Say more",
    "  -h, --help                 Print help",
    "  -V, --version              Print version", ""]

/-- The selection that the arguments ask for, by name or in a file. -/
def Arguments.selection (files : Snapshot) (arguments : Arguments) : Except Fault Selection :=
  match arguments.select, arguments.positionals with
  | some names, _ => .ok (.ofNames names)
  | none, path :: _ => Selection.load files path
  | none, [] => .error (.usage "no declarations file given")

def abort (output : Bytes) (fault : Fault) (events : List Log.Event) : Ending :=
  ⟨1, output, [s!"error: {fault.detailed}"], events⟩

/-- What is said of the files that were left out. -/
def complaints (failures : List Failure) : List String :=
  s!"{failures.length} file(s) could not be processed:" ::
    failures.map fun failure => s!"  {failure.fault.message}"

def conclude (events : List Log.Event) (outcome : Outcome) : Ending :=
  let events := events ++ outcome.events
  match outcome.result with
  | .error fault => abort outcome.sink.taken fault events
  | .ok summary =>
      if summary.isSuccess then ⟨0, outcome.sink.taken, [], events⟩
      else ⟨1, outcome.sink.taken, complaints summary.failures, events⟩

/-- Does what has been asked for. That there are input files is checked before a selection is read
from its file. -/
def execute (world : World) (arguments : Arguments) : Ending :=
  let named := match arguments.select with
    | some names => (Selection.ofNames names).events
    | none => []
  if arguments.files.isEmpty then abort [] (.usage "no input files given") named
  else
    match arguments.selection world.files with
    | .error fault => abort [] fault []
    | .ok selection =>
        conclude selection.events (Job.run ⟨world, arguments.options, selection⟩ {} arguments.files)

def run (world : World) (given : List String) : Ending :=
  match Request.ofArguments given with
  | .help => ⟨0, Utf8.encode helpText.toList, [], []⟩
  | .version => ⟨0, Utf8.encode versionText.toList, [], []⟩
  | .refused refusal => ⟨1, [], [s!"error: {refusal.message}"], []⟩
  | .accepted arguments => execute world arguments

def verbosity (given : List String) : Nat :=
  match Request.ofArguments given with
  | .accepted arguments => arguments.verbosity
  | _ => 0

/-- The lines of the log that are shown. -/
def Ending.log (ending : Ending) (setting : Option String) (given : List String) : List String :=
  Log.lines (.choose setting (verbosity given)) ending.events

end SyntaxSpans.CommandLine
