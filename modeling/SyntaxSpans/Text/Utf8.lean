set_option autoImplicit false

/- Bytes and the characters they stand for. Encoding is the standard one. Reading never fails: each
maximal run of bytes that begins a character and is then broken off, and each byte that begins
none, is read as one replacement character. -/
namespace SyntaxSpans

abbrev Bytes := List UInt8

namespace Utf8

def encode (text : List Char) : Bytes := text.flatMap String.utf8EncodeChar

def size (text : List Char) : Nat := text.foldr (fun char rest => char.utf8Size + rest) 0

/-- What stands for bytes that encode nothing. -/
def replacement : Char := '\uFFFD'

/-- Where a reader stands: between characters, or inside one that still owes bytes. `low` and
`high` bound the next byte and `value` holds the bits read so far. -/
inductive Place where
  | between
  | inside (owed low high value : Nat)

/-- The first byte of a character, read between characters. Two bytes can hold 0x80 and more, three
0x800 and more outside the surrogates, four 0x10000 up to 0x10FFFF; the narrower bounds on the
second byte keep each character to its shortest form. -/
def lead (byte : Nat) : List Char × Place :=
  if byte ≤ 0x7F then ([Char.ofNat byte], .between)
  else if byte < 0xC2 then ([replacement], .between)
  else if byte ≤ 0xDF then ([], .inside 0 0x80 0xBF (byte - 0xC0))
  else if byte = 0xE0 then ([], .inside 1 0xA0 0xBF 0)
  else if byte = 0xED then ([], .inside 1 0x80 0x9F 0xD)
  else if byte ≤ 0xEF then ([], .inside 1 0x80 0xBF (byte - 0xE0))
  else if byte = 0xF0 then ([], .inside 2 0x90 0xBF 0)
  else if byte ≤ 0xF3 then ([], .inside 2 0x80 0xBF (byte - 0xF0))
  else if byte = 0xF4 then ([], .inside 2 0x80 0x8F 4)
  else ([replacement], .between)

/-- One more byte: what it completes, and the place after it. A byte that cannot go on with an
unfinished character ends that run and is read afresh. -/
def step : Place → Nat → List Char × Place
  | .between, byte => lead byte
  | .inside owed low high value, byte =>
      if low ≤ byte ∧ byte ≤ high then
        match owed with
        | 0 => ([Char.ofNat (value * 64 + (byte - 0x80))], .between)
        | rest + 1 => ([], .inside rest 0x80 0xBF (value * 64 + (byte - 0x80)))
      else (replacement :: (lead byte).1, (lead byte).2)

def finish : Place → List Char
  | .between => []
  | .inside _ _ _ _ => [replacement]

def decodeFrom : Place → Bytes → List Char
  | place, [] => finish place
  | place, byte :: rest =>
      let next := step place byte.toNat
      next.1 ++ decodeFrom next.2 rest

/-- The characters of the bytes, broken runs replaced. -/
def decode (bytes : Bytes) : List Char := decodeFrom .between bytes

/-- Well-formed bytes are the encoding of what is read from them. -/
def isWellFormed (bytes : Bytes) : Bool := encode (decode bytes) == bytes

/-- The text of well-formed bytes. -/
def decode? (bytes : Bytes) : Option (List Char) :=
  if isWellFormed bytes then some (decode bytes) else none

/-- A text without the byte-order mark in front of it; a second mark stays. -/
def dropMark : List Char → List Char
  | [] => []
  | first :: rest => if first = '\uFEFF' then rest else first :: rest

theorem encode_nil : encode [] = [] := rfl

theorem encode_cons (char : Char) (rest : List Char) :
    encode (char :: rest) = String.utf8EncodeChar char ++ encode rest := rfl

theorem encode_append (front back : List Char) :
    encode (front ++ back) = encode front ++ encode back := by
  simp only [encode, List.flatMap_append]

end Utf8

end SyntaxSpans
