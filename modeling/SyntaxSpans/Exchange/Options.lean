import SyntaxSpans.Json.Structure
import SyntaxSpans.Options

set_option autoImplicit false

namespace SyntaxSpans.Options

def units : List (String × SpanUnit) := SpanUnit.all.map fun unit => (unit.name, unit)

def policies : List (String × FailurePolicy) :=
  FailurePolicy.all.map fun policy => (policy.name, policy)

def languages : List (String × Language) :=
  Language.all.map fun language => (language.name, language)

def shape : Json.Shape Options Options where
  fields :=
    [⟨"unit", (Json.Reader.choice units).map fun value known => { known with unit := value }⟩,
      ⟨"on_error", (Json.Reader.choice policies).map fun value known =>
        { known with onError := value }⟩,
      ⟨"parallel", Json.Reader.boolean.map fun value known => { known with parallel := value }⟩,
      ⟨"strict", Json.Reader.boolean.map fun value known => { known with strict := value }⟩,
      ⟨"language", (Json.Reader.choice languages).optional.map fun value known =>
        { known with language := value }⟩]
  start := default
  finish := .ok

def ofJson (text : String) : Except Json.Failure Options := shape.read text

private def quoted (name : String) : String := "\"" ++ name ++ "\""

def json (options : Options) : String :=
  let language := match options.language with
    | none => "null"
    | some language => quoted language.name
  "\x7b\"unit\":" ++ quoted options.unit.name ++ ",\"on_error\":" ++ quoted options.onError.name ++
    ",\"parallel\":" ++ toString options.parallel ++ ",\"strict\":" ++ toString options.strict ++
    ",\"language\":" ++ language ++ "\x7d"

end SyntaxSpans.Options
