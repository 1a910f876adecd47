import SyntaxSpans.Options
import SyntaxSpans.Text.Split

set_option autoImplicit false

namespace SyntaxSpans.CommandLine

/-- What the arguments say. The first positional names the file of the selection, unless names are
given by option. -/
structure Arguments where
  positionals : List String := []
  select : Option (List String) := none
  language : Option Language := none
  unit : Option SpanUnit := none
  keepGoing : Bool := false
  parallel : Bool := false
  strict : Bool := false
  verbosity : Nat := 0

inductive Refusal where
  | unknownOption (given : String)
  | unexpectedValue (option : String)
  | missingValue (option : String)
  | repeatedOption (option : String)
  | invalidValue (option reason : String)
  | emptyPath
  | missingDeclarations

/-- The reason for a refusal in this library's own wording. An argument parser words it otherwise,
and its texts are not modelled. -/
def Refusal.message : Refusal → String
  | unknownOption given => s!"unexpected argument '{given}'"
  | unexpectedValue option => s!"option '{option}' takes no value"
  | missingValue option => s!"option '{option}' needs a value"
  | repeatedOption option => s!"option '{option}' is given twice"
  | invalidValue option reason => s!"invalid value for '{option}': {reason}"
  | emptyPath => "a path may not be empty"
  | missingDeclarations => "no declarations file and no selection"

inductive Request where
  | help
  | version
  | refused (refusal : Refusal)
  | accepted (arguments : Arguments)

namespace Arguments

/-- The options that are either there or not. -/
inductive Switch where
  | keepGoing
  | parallel
  | strict
  | verbose
  | help
  | version

/-- The options that take a value. -/
inductive Setting where
  | select
  | language
  | unit

def switches : List (String × Switch) :=
  [("--keep-going", .keepGoing), ("--parallel", .parallel), ("--strict", .strict),
    ("--verbose", .verbose), ("--help", .help), ("--version", .version)]

def settings : List (String × Setting) :=
  [("--select", .select), ("--language", .language), ("--unit", .unit)]

def letters : List (Char × Switch) := [('v', .verbose), ('h', .help), ('V', .version)]

/-- The effect of a switch. Only the request to say more may be repeated. -/
def flip (arguments : Arguments) (option : String) : Switch → Except Request Arguments
  | .help => .error .help
  | .version => .error .version
  | .verbose => .ok { arguments with verbosity := arguments.verbosity + 1 }
  | .keepGoing =>
      if arguments.keepGoing then .error (.refused (.repeatedOption option))
      else .ok { arguments with keepGoing := true }
  | .parallel =>
      if arguments.parallel then .error (.refused (.repeatedOption option))
      else .ok { arguments with parallel := true }
  | .strict =>
      if arguments.strict then .error (.refused (.repeatedOption option))
      else .ok { arguments with strict := true }

/-- The effect of a setting. Names of several selections add up. -/
def set (arguments : Arguments) (option value : String) : Setting → Except Request Arguments
  | .select =>
      .ok { arguments with
        select := some (arguments.select.getD [] ++ splitText ',' value) }
  | .language =>
      if arguments.language.isSome then .error (.refused (.repeatedOption option))
      else
        match Language.ofName value with
        | .error unknown => .error (.refused (.invalidValue option unknown.message))
        | .ok language => .ok { arguments with language := some language }
  | .unit =>
      if arguments.unit.isSome then .error (.refused (.repeatedOption option))
      else
        match SpanUnit.ofName value with
        | .error unknown => .error (.refused (.invalidValue option unknown.message))
        | .ok unit => .ok { arguments with unit := some unit }

def position (arguments : Arguments) (path : String) : Except Request Arguments :=
  if path.isEmpty then .error (.refused .emptyPath)
  else .ok { arguments with positionals := arguments.positionals ++ [path] }

/-- Letters behind one dash. -/
def cluster (arguments : Arguments) : List Char → Except Request Arguments
  | [] => .ok arguments
  | letter :: rest =>
      let option := String.ofList ['-', letter]
      match letters.lookup letter with
      | none => .error (.refused (.unknownOption option))
      | some switch =>
          match arguments.flip option switch with
          | .error request => .error request
          | .ok next => next.cluster rest

/-- An argument by its looks. A single dash is a path, two dashes alone make paths of all that
follows, and an option is cut at its first equals sign. -/
inductive Look where
  | path
  | onlyPaths
  | letters (letters : List Char)
  | option (name : String) (value : Option String)

def Look.of (argument : String) : Look :=
  match argument.toList with
  | ['-', '-'] => .onlyPaths
  | '-' :: '-' :: rest =>
      let name := rest.takeWhile (· != '=')
      .option (String.ofList ('-' :: '-' :: name)) <|
        match rest.drop name.length with
        | [] => none
        | _ :: value => some (String.ofList value)
  | '-' :: letter :: rest => .letters (letter :: rest)
  | _ => .path

def Look.isPath : Look → Bool
  | path => true
  | _ => false

/-- All that follows is positional. -/
def positionAll (arguments : Arguments) : List String → Except Request Arguments
  | [] => .ok arguments
  | path :: rest =>
      match arguments.position path with
      | .error request => .error request
      | .ok next => next.positionAll rest

/-- Reads arguments one by one. A setting takes its value from behind an equals sign or, if there is
none, from the next argument, which then has to look like a path. -/
def readAll (arguments : Arguments) : List String → Except Request Arguments
  | [] => .ok arguments
  | argument :: rest =>
      match Look.of argument with
      | .path =>
          match arguments.position argument with
          | .error request => .error request
          | .ok next => next.readAll rest
      | .onlyPaths => arguments.positionAll rest
      | .letters letters =>
          match arguments.cluster letters with
          | .error request => .error request
          | .ok next => next.readAll rest
      | .option option given =>
          match settings.lookup option, given with
          | some setting, some value =>
              match arguments.set option value setting with
              | .error request => .error request
              | .ok next => next.readAll rest
          | some setting, none =>
              match rest with
              | [] => .error (.refused (.missingValue option))
              | value :: rest =>
                  if (Look.of value).isPath then
                    match arguments.set option value setting with
                    | .error request => .error request
                    | .ok next => next.readAll rest
                  else .error (.refused (.missingValue option))
          | none, _ =>
              match switches.lookup option with
              | none => .error (.refused (.unknownOption option))
              | some switch =>
                  if given.isSome then .error (.refused (.unexpectedValue option))
                  else
                    match arguments.flip option switch with
                    | .error request => .error request
                    | .ok next => next.readAll rest

def options (arguments : Arguments) : Options where
  unit := arguments.unit.getD .chars
  onError := if arguments.keepGoing then .skip else .abort
  parallel := arguments.parallel
  strict := arguments.strict
  language := arguments.language

/-- The input files: all positionals if names are selected by option, and all but the first
otherwise. -/
def files (arguments : Arguments) : List String :=
  if arguments.select.isSome then arguments.positionals else arguments.positionals.drop 1

end Arguments

/-- What the arguments ask for. Without names by option there has to be a positional. -/
def Request.ofArguments (given : List String) : Request :=
  match Arguments.readAll {} given with
  | .error request => request
  | .ok arguments =>
      if arguments.positionals.isEmpty && arguments.select.isNone then .refused .missingDeclarations
      else .accepted arguments

end SyntaxSpans.CommandLine
