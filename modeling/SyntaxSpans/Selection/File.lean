import SyntaxSpans.Files.Snapshot
import SyntaxSpans.Json.Structure
import SyntaxSpans.Selection

set_option autoImplicit false

namespace SyntaxSpans.Selection

/-- The selection in a document; the source only serves to name it in a fault. -/
def ofJson (source : String) (text : List Char) : Except Fault Selection :=
  match Json.document (Json.list Json.Reader.text) text with
  | .error failure => .error (.selection source (failure.message text))
  | .ok names => .ok (ofNames (names.map String.ofList))

def load (files : Snapshot) (path : String) : Except Fault Selection :=
  match files.readText path with
  | .error cause => .error (.selection path cause.message)
  | .ok text => ofJson path text

end SyntaxSpans.Selection
