import SyntaxSpans.Fault
import SyntaxSpans.Text.Utf8

set_option autoImplicit false

namespace SyntaxSpans

abbrev Snapshot := String → Except IoFault Bytes

/-- A file that has to be well-formed text. -/
def Snapshot.readText (files : Snapshot) (path : String) : Except IoFault (List Char) :=
  match files path with
  | .error cause => .error cause
  | .ok bytes =>
      match Utf8.decode? bytes with
      | some text => .ok text
      | none => .error .notText

end SyntaxSpans
