set_option autoImplicit false

namespace SyntaxSpans.Utf16

/-- The units of one character; above the first plane, a leading and a trailing surrogate. -/
def encodeChar (char : Char) : List UInt16 :=
  if char.toNat < 0x10000 then [UInt16.ofNat char.toNat]
  else
    [UInt16.ofNat (0xD800 + (char.toNat - 0x10000) / 0x400),
      UInt16.ofNat (0xDC00 + (char.toNat - 0x10000) % 0x400)]

def encode (text : List Char) : List UInt16 := text.flatMap encodeChar

def width (char : Char) : Nat := if char.toNat < 0x10000 then 1 else 2

def size (text : List Char) : Nat := text.foldr (fun char rest => width char + rest) 0

theorem length_encodeChar (char : Char) : (encodeChar char).length = width char := by
  unfold encodeChar width
  split <;> rfl

theorem length_encode (text : List Char) : (encode text).length = size text := by
  induction text with
  | nil => rfl
  | cons char rest ih =>
      simp only [encode, size, List.flatMap_cons, List.length_append, List.foldr_cons,
        length_encodeChar] at ih ⊢
      rw [ih]

end SyntaxSpans.Utf16
