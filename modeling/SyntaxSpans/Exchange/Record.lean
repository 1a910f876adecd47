import SyntaxSpans.Json.Structure
import SyntaxSpans.Report

set_option autoImplicit false

namespace SyntaxSpans.Record

/-- A record of which only some fields are known. -/
structure Partial where
  category : Option Category := none
  start : Option Nat := none
  stop : Option Nat := none

def Partial.complete (known : Partial) : Except Json.Problem Record :=
  match known.category, known.start, known.stop with
  | none, _, _ => .error (.missingField "category")
  | _, none, _ => .error (.missingField "start")
  | _, _, none => .error (.missingField "end")
  | some category, some start, some stop => .ok ⟨category, start, stop⟩

def categories : List (String × Category) :=
  Category.all.map fun category => (category.name, category)

def shape : Json.Shape Partial Record where
  fields :=
    [⟨"category", (Json.Reader.choice categories).map fun value known =>
        { known with category := some value }⟩,
      ⟨"start", Json.Reader.natural.map fun value known => { known with start := some value }⟩,
      ⟨"end", Json.Reader.natural.map fun value known => { known with stop := some value }⟩]
  start := {}
  finish := Partial.complete

def ofJson (text : String) : Except Json.Failure Record := shape.read text

def json (record : Record) : String :=
  "\x7b\"category\":\"" ++ record.category.name ++ "\",\"start\":" ++ toString record.start ++
    ",\"end\":" ++ toString record.stop ++ "\x7d"

end SyntaxSpans.Record
