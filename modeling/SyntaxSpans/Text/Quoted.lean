import SyntaxSpans.Text.Unseen

set_option autoImplicit false

namespace SyntaxSpans.Quoted

def letter? : Char → Option Char
  | '"' => some '"'
  | '\\' => some '\\'
  | '\n' => some 'n'
  | '\r' => some 'r'
  | '\t' => some 't'
  | '\x00' => some '0'
  | _ => none

def byNumber (char : Char) : List Char :=
  ['\\', 'u', '\x7b'] ++ Nat.toDigits 16 char.toNat ++ ['\x7d']

/-- One character: after a backslash where a letter stands for it, by number if it is not seen, and
as it is otherwise. -/
def escape (char : Char) : List Char :=
  match letter? char with
  | some letter => ['\\', letter]
  | none => if Unseen.holds char then byNumber char else [char]

def render (text : String) : String :=
  String.ofList (['"'] ++ text.toList.flatMap escape ++ ['"'])

/-- Several texts, each in quotes, between brackets. -/
def renderList (texts : List String) : String :=
  "[" ++ ", ".intercalate (texts.map render) ++ "]"

end SyntaxSpans.Quoted
