import SyntaxSpans.Files.Snapshot
import SyntaxSpans.Log.Logged
import SyntaxSpans.Options
import SyntaxSpans.Report

set_option autoImplicit false

namespace SyntaxSpans

/-- Makes a tree of a text in a language. It recovers from errors, so it hardly ever returns
nothing. -/
abbrev Parser := Language → List Char → Option Parse

/-- What a run finds around it. -/
structure World where
  files : Snapshot
  parser : Parser

/-- A text that has been parsed. Spans count from its beginning. -/
structure Source where
  path : String
  language : Language
  text : List Char
  parse : Parse

namespace Source

/-- Parses a text after dropping its mark. -/
def ofText (parser : Parser) (options : Options) (path : String) (language : Language)
    (text : List Char) : Logged (Except Fault Source) :=
  let content := Utf8.dropMark text
  match parser language content with
  | none => .quiet (.error (.unparsable path s!"{language.name} parser returned no tree"))
  | some parse =>
      if options.strict && parse.hasErrors then
        .quiet (.error (.unparsable path "source contains syntax errors"))
      else
        ⟨.ok ⟨path, language, content, parse⟩,
          [.debug .loading
            s!"Parsed {language.name} file: {path} ({Utf8.size content} bytes)"]⟩

/-- The text of a file. Bytes that are no text are replaced, which is worth a warning. -/
def readText (files : Snapshot) (path : String) : Logged (Except Fault (List Char)) :=
  match files path with
  | .error cause => .quiet (.error (.unreadable path cause))
  | .ok bytes =>
      ⟨.ok (Utf8.decode bytes),
        if Utf8.isWellFormed bytes then []
        else [.warn .loading s!"{path} is not valid UTF-8; decoding lossily"]⟩

def load (world : World) (options : Options) (path : String) : Logged (Except Fault Source) :=
  (Logged.quiet (options.languageFor path)).andThen fun language =>
    (readText world.files path).andThen (ofText world.parser options path language)

def records (source : Source) (selection : Selection) (unit : SpanUnit) : List Record :=
  (Extractor.create source.language.registry selection source.text unit).extract source.parse.root

def extractText (parser : Parser) (options : Options) (selection : Selection) (path : String)
    (language : Language) (text : List Char) : Logged (Except Fault (List Record)) :=
  (ofText parser options path language text).andThen fun source =>
    .quiet (.ok (source.records selection options.unit))

def extractFile (world : World) (options : Options) (selection : Selection) (path : String) :
    Logged (Except Fault (List Record)) :=
  (Logged.quiet (options.languageFor path)).andThen fun language =>
    (readText world.files path).andThen
      (extractText world.parser options selection path language)

end Source

end SyntaxSpans
