import SyntaxSpans.Text.Offsets

set_option autoImplicit false

namespace SyntaxSpans

namespace Utf8

theorem size_nil : size [] = 0 := rfl

theorem size_cons (char : Char) (rest : List Char) :
    size (char :: rest) = char.utf8Size + size rest := rfl

theorem size_append (front back : List Char) : size (front ++ back) = size front + size back := by
  induction front with
  | nil => rw [List.nil_append, size_nil, Nat.zero_add]
  | cons char front ih => rw [List.cons_append, size_cons, size_cons, ih, Nat.add_assoc]

theorem length_encode (text : List Char) : (encode text).length = size text := by
  induction text with
  | nil => rfl
  | cons char rest ih =>
      rw [size_cons, ← ih, encode_cons, List.length_append, String.length_utf8EncodeChar]

theorem eq_nil_of_size {text : List Char} (empty : size text = 0) : text = [] := by
  cases text with
  | nil => rfl
  | cons char rest =>
      have positive := char.utf8Size_pos
      rw [size_cons] at empty
      omega

end Utf8

theorem single_of_isAscii {char : Char} {rest : List Char}
    (ascii : isAscii (char :: rest) = true) :
    char.utf8Size = 1 ∧ Utf16.width char = 1 ∧ isAscii rest = true := by
  rw [isAscii, List.all_cons, Bool.and_eq_true, decide_eq_true_eq] at ascii
  obtain ⟨small, others⟩ := ascii
  have byte : char.toNat ≤ 0x7F := by omega
  exact ⟨Char.utf8Size_eq_one_iff.mpr byte, if_pos (by omega), others⟩

namespace Utf16

theorem size_nil : size [] = 0 := rfl

theorem size_cons (char : Char) (rest : List Char) :
    size (char :: rest) = width char + size rest := rfl

theorem size_append (front back : List Char) : size (front ++ back) = size front + size back := by
  induction front with
  | nil => rw [List.nil_append, size_nil, Nat.zero_add]
  | cons char front ih => rw [List.cons_append, size_cons, size_cons, ih, Nat.add_assoc]

theorem encode_append (front back : List Char) :
    encode (front ++ back) = encode front ++ encode back := by
  simp only [encode, List.flatMap_append]

theorem width_pos (char : Char) : 0 < width char := by
  unfold width
  split <;> decide

theorem width_le_utf8Size (char : Char) : width char ≤ char.utf8Size := by
  have positive := char.utf8Size_pos
  unfold width
  split
  · exact positive
  · rename_i beyond
    have several : char.utf8Size ≠ 1 := fun single => by
      have small : char.toNat ≤ 0x7F := Char.utf8Size_eq_one_iff.mp single
      omega
    omega

theorem size_le (text : List Char) : size text ≤ Utf8.size text := by
  induction text with
  | nil => exact Nat.le_refl _
  | cons char rest ih =>
      have := width_le_utf8Size char
      rw [size_cons, Utf8.size_cons]
      omega

theorem size_pos {text : List Char} (filled : text ≠ []) : 0 < size text := by
  cases text with
  | nil => exact absurd rfl filled
  | cons char rest =>
      have := width_pos char
      rw [size_cons]
      omega

theorem size_of_isAscii {text : List Char} (ascii : isAscii text = true) :
    size text = Utf8.size text := by
  induction text with
  | nil => rfl
  | cons char rest ih =>
      obtain ⟨byte, unit, others⟩ := single_of_isAscii ascii
      rw [size_cons, Utf8.size_cons, byte, unit, ih others]

end Utf16

end SyntaxSpans
