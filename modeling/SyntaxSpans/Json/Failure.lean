import SyntaxSpans.Json.Number
import SyntaxSpans.Text.Quoted
import SyntaxSpans.Text.Utf8

set_option autoImplicit false

/- Why a document is refused, and where. A failure holds the text that was still to be read; its
place is found by measuring that text against the whole document. -/
namespace SyntaxSpans.Json

/-- What stands in a document where something else was expected. -/
inductive Found where
  | null
  | boolean (value : Bool)
  | number (value : Number)
  | text (value : List Char)
  | list
  | object

def Found.message : Found → String
  | null => "null"
  | boolean value => s!"boolean `{value}`"
  | number (.natural value) => s!"integer `{value}`"
  | number (.negative value) => s!"integer `-{value}`"
  | number (.float value) => s!"floating point `{Number.floatText value}`"
  | text value => s!"string {Quoted.render (String.ofList value)}"
  | list => "sequence"
  | object => "map"

/-- The three ways in which a document can fail: it ends too early, it is no JSON, or it says
something that has no meaning here. -/
inductive Verdict where
  | truncated
  | malformed
  | unfit
  deriving DecidableEq

inductive Problem where
  | unfinishedValue
  | unfinishedList
  | unfinishedObject
  | unfinishedString
  | expectedValue
  | expectedWord
  | expectedColon
  | expectedListEnd
  | expectedObjectEnd
  | trailingComma
  | trailingText
  | keyNotText
  | controlCharacter
  | invalidEscape
  | loneSurrogate
  | unfinishedSurrogate
  | invalidNumber
  | numberOutOfRange
  | unexpected (found : Found) (expected : String)
  | unknownName (name : List Char)
  | repeatedField (name : String)
  | missingField (name : String)

namespace Problem

def message : Problem → String
  | unfinishedValue => "EOF while parsing a value"
  | unfinishedList => "EOF while parsing a list"
  | unfinishedObject => "EOF while parsing an object"
  | unfinishedString => "EOF while parsing a string"
  | expectedValue => "expected value"
  | expectedWord => "expected ident"
  | expectedColon => "expected `:`"
  | expectedListEnd => "expected `,` or `]`"
  | expectedObjectEnd => "expected `,` or `\x7d`"
  | trailingComma => "trailing comma"
  | trailingText => "trailing characters"
  | keyNotText => "key must be a string"
  | controlCharacter =>
      "control character (\\u0000-\\u001F) found while parsing a string"
  | invalidEscape => "invalid escape"
  | loneSurrogate => "lone leading surrogate in hex escape"
  | unfinishedSurrogate => "unexpected end of hex escape"
  | invalidNumber => "invalid number"
  | numberOutOfRange => "number out of range"
  | unexpected found expected => s!"invalid type: {found.message}, expected {expected}"
  | unknownName name => s!"unknown variant `{String.ofList name}`"
  | repeatedField name => s!"duplicate field `{name}`"
  | missingField name => s!"missing field `{name}`"

def verdict : Problem → Verdict
  | unfinishedValue | unfinishedList | unfinishedObject | unfinishedString => .truncated
  | unexpected .. | unknownName .. | repeatedField .. | missingField .. => .unfit
  | _ => .malformed

end Problem

/-- A problem, the text from which on nothing has been read, and how many bytes of that text belong
to the problem. -/
structure Failure where
  problem : Problem
  rest : List Char
  ahead : Nat

namespace Failure

/-- Found by reading up to here. -/
def after (problem : Problem) (rest : List Char) : Failure := ⟨problem, rest, 0⟩

/-- Found by looking at the next byte, if there is one. -/
def upon (problem : Problem) (rest : List Char) : Failure :=
  ⟨problem, rest, if rest.isEmpty then 0 else 1⟩

def offset (document : List Char) (failure : Failure) : Nat :=
  Utf8.size document - Utf8.size failure.rest + failure.ahead

end Failure

/-- The line, from one, and the column in bytes after so many bytes, counted on from a given place.
-/
def placeAfter (line column : Nat) : Nat → List Char → Nat × Nat
  | _, [] => (line, column)
  | bytes, char :: rest =>
      if bytes < char.utf8Size then (line, column + bytes)
      else if char = '\n' then placeAfter (line + 1) 0 (bytes - 1) rest
      else placeAfter line (column + char.utf8Size) (bytes - char.utf8Size) rest

def Failure.message (document : List Char) (failure : Failure) : String :=
  let place := placeAfter 1 0 (failure.offset document) document
  s!"{failure.problem.message} at line {place.1} column {place.2}"

end SyntaxSpans.Json
