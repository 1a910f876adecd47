import SyntaxSpans.Bisect
import SyntaxSpans.Names
import SyntaxSpans.Text.Utf16
import SyntaxSpans.Text.Utf8

set_option autoImplicit false

/- Byte spans and the units they are reported in. Character offsets count 16-bit units; lines are
numbered from one and a span of lines includes both ends. An offset inside a character counts as the
offset of the next one. -/
namespace SyntaxSpans

/-- A half-open stretch of bytes. -/
structure Span where
  start : Nat
  stop : Nat
  deriving DecidableEq

namespace Span

/-- The length in bytes; a reversed span has none. -/
def length (span : Span) : Nat := span.stop - span.start

def isEmpty (span : Span) : Bool := span.length == 0

end Span

inductive SpanUnit where
  | chars
  | bytes
  | lines
  deriving DecidableEq

namespace SpanUnit

def all : List SpanUnit := [chars, bytes, lines]

def name : SpanUnit → String
  | chars => "chars"
  | bytes => "bytes"
  | lines => "lines"

/-- The unit of a name in any case of letters; `characters` is a second name of `chars`. -/
def ofName (name : String) : Except UnknownName SpanUnit :=
  match foldCase name with
  | "chars" | "characters" => .ok chars
  | "bytes" => .ok bytes
  | "lines" => .ok lines
  | folded => .error (.unit folded)

end SpanUnit

def isAscii (text : List Char) : Bool := text.all fun char => char.toNat < 0x80

/-- Where each character starts, in bytes and in 16-bit units, counted on from the given offsets. -/
def charStarts (byte unit : Nat) : List Char → List (Nat × Nat)
  | [] => []
  | char :: rest =>
      (byte, unit) :: charStarts (byte + char.utf8Size) (unit + Utf16.width char) rest

/-- The byte after each newline, counted on from the given offset. -/
def newlineEnds (byte : Nat) : List Char → List Nat
  | [] => []
  | char :: rest =>
      let next := byte + char.utf8Size
      if char = '\n' then next :: newlineEnds next rest else newlineEnds next rest

/-- What is needed to turn byte offsets of one text into other units. The table of characters is
left out where bytes and units agree. -/
structure OffsetIndex where
  chars : Option (Array (Nat × Nat))
  units : Nat
  lines : Array Nat

namespace OffsetIndex

def ofText (text : List Char) : OffsetIndex where
  chars := if isAscii text then none else some (charStarts 0 0 text).toArray
  units := Utf16.size text
  lines := (0 :: newlineEnds 0 text).toArray

/-- An index without tables, for a report in bytes. -/
def withoutTables (text : List Char) : OffsetIndex where
  chars := none
  units := Utf8.size text
  lines := #[]

/-- The 16-bit units of the characters that start before a byte, looked up in the table. Past the
last character it is the length of the text. -/
def unitsBefore (starts : Array (Nat × Nat)) (total byte : Nat) : Nat :=
  match starts[bisect (fun entry => entry.1 < byte) starts]? with
  | some entry => entry.2
  | none => total

/-- The character offset of a byte. -/
def charOffset (index : OffsetIndex) (byte : Nat) : Nat :=
  match index.chars with
  | none => byte
  | some starts => unitsBefore starts index.units byte

/-- The number of the line that holds a byte. -/
def lineOf (index : OffsetIndex) (byte : Nat) : Nat :=
  bisect (fun start => start ≤ byte) index.lines

/-- A span in another unit. The last line of a span is the line of its last byte, and an empty span
lies in the line of its start. -/
def convert (index : OffsetIndex) (span : Span) : SpanUnit → Nat × Nat
  | .bytes => (span.start, span.stop)
  | .chars => (index.charOffset span.start, index.charOffset span.stop)
  | .lines =>
      let last := if span.isEmpty then span.start else span.stop - 1
      (index.lineOf span.start, index.lineOf last)

end OffsetIndex

/-- What is left of a text after so many bytes, if that is the boundary of a character. -/
def dropBytes : Nat → List Char → Option (List Char)
  | 0, text => some text
  | _ + 1, [] => none
  | bytes + 1, char :: rest =>
      if char.utf8Size ≤ bytes + 1 then dropBytes (bytes + 1 - char.utf8Size) rest else none

/-- The first characters that fill so many bytes, if they fill them exactly. -/
def takeBytes : Nat → List Char → Option (List Char)
  | 0, _ => some []
  | _ + 1, [] => none
  | bytes + 1, char :: rest =>
      if char.utf8Size ≤ bytes + 1 then
        (takeBytes (bytes + 1 - char.utf8Size) rest).map (char :: ·)
      else none

/-- The characters of a span, if its ends are in order and both are boundaries of characters. -/
def slice? (text : List Char) (span : Span) : Option (List Char) :=
  if span.start ≤ span.stop then
    (dropBytes span.start text).bind (takeBytes span.length)
  else none

end SyntaxSpans
