import SyntaxSpans.Proofs.Text.Sizes
import SyntaxSpans.Proofs.Text.Tables

set_option autoImplicit false

namespace SyntaxSpans

/-- The characters that start before a byte. -/
def startingBefore : Nat → List Char → List Char
  | 0, _ => []
  | _ + 1, [] => []
  | bytes + 1, char :: rest => char :: startingBefore (bytes + 1 - char.utf8Size) rest

theorem startingBefore_nil (bytes : Nat) : startingBefore bytes [] = [] := by
  cases bytes with
  | zero => rfl
  | succ bytes => rfl

theorem startingBefore_cons {bytes : Nat} (some : 0 < bytes) (char : Char) (rest : List Char) :
    startingBefore bytes (char :: rest) =
      char :: startingBefore (bytes - char.utf8Size) rest := by
  cases bytes with
  | zero => omega
  | succ bytes => rfl

theorem size_startingBefore_mono (text : List Char) {first second : Nat}
    (ordered : first ≤ second) :
    Utf16.size (startingBefore first text) ≤ Utf16.size (startingBefore second text) := by
  induction text generalizing first second with
  | nil =>
      simp only [startingBefore_nil, Nat.le_refl]
  | cons char rest ih =>
      by_cases some : 0 < first
      · have onward := ih (Nat.sub_le_sub_right ordered char.utf8Size)
        rw [startingBefore_cons some, startingBefore_cons (Nat.lt_of_lt_of_le some ordered),
          Utf16.size_cons, Utf16.size_cons]
        exact Nat.add_le_add_left onward _
      · have none : first = 0 := by omega
        rw [none, startingBefore, Utf16.size_nil]
        exact Nat.zero_le _

/-- In a text of single bytes as many units come before a byte as there are bytes, up to the end. -/
theorem size_startingBefore_of_isAscii {text : List Char} (ascii : isAscii text = true)
    (bytes : Nat) : Utf16.size (startingBefore bytes text) = min bytes (Utf8.size text) := by
  induction text generalizing bytes with
  | nil => rw [startingBefore_nil, Utf16.size_nil, Utf8.size_nil, Nat.min_zero]
  | cons char rest ih =>
      obtain ⟨byte, unit, others⟩ := single_of_isAscii ascii
      by_cases some : 0 < bytes
      · rw [startingBefore_cons some, Utf16.size_cons, Utf8.size_cons, byte, unit, ih others]
        omega
      · have none : bytes = 0 := by omega
        rw [none, startingBefore, Utf16.size_nil, Nat.zero_min]

namespace OffsetIndex

/-- An entry before the byte is passed over, and the first that is not has the answer. -/
theorem unitsBefore_charStarts_cons (byte unit total stop : Nat) (char : Char)
    (rest : List Char) :
    unitsBefore (charStarts byte unit (char :: rest)).toArray total stop =
      if byte < stop then
        unitsBefore (charStarts (byte + char.utf8Size) (unit + Utf16.width char) rest).toArray
          total stop
      else unit := by
  unfold unitsBefore
  rw [bisect_eq_countP (partitioned_charStarts _ _ _ _),
    bisect_eq_countP (partitioned_charStarts _ _ _ _), List.getElem?_toArray,
    List.getElem?_toArray, charStarts, List.countP_cons]
  by_cases passed : byte < stop
  · simp only [passed, decide_true, ↓reduceIte, List.getElem?_cons_succ]
  · have none : ((charStarts (byte + char.utf8Size) (unit + Utf16.width char) rest).countP
        fun entry => entry.1 < stop) = 0 := by
      rw [List.countP_eq_zero]
      intro entry member
      have later := le_of_mem_charStarts member
      rw [decide_eq_true_eq]
      omega
    simp only [passed, decide_false, Bool.false_eq_true, ↓reduceIte, none, Nat.add_zero,
      List.getElem?_cons_zero]

/-- The table answers with the units of the characters that start before a byte, wherever the text
is counted from. -/
theorem unitsBefore_charStarts (byte unit stop : Nat) (text : List Char) :
    unitsBefore (charStarts byte unit text).toArray (unit + Utf16.size text) stop =
      unit + Utf16.size (startingBefore (stop - byte) text) := by
  induction text generalizing byte unit with
  | nil =>
      rw [startingBefore_nil]
      simp [charStarts, unitsBefore]
  | cons char rest ih =>
      rw [unitsBefore_charStarts_cons]
      by_cases passed : byte < stop
      · have onward := ih (byte + char.utf8Size) (unit + Utf16.width char)
        rw [if_pos passed, startingBefore_cons (Nat.sub_pos_of_lt passed), Utf16.size_cons,
          Utf16.size_cons, ← Nat.add_assoc, onward, Nat.sub_sub, Nat.add_assoc]
      · have none : stop - byte = 0 := by omega
        rw [if_neg passed, none, startingBefore, Utf16.size_nil, Nat.add_zero]

theorem unitsBefore_eq_size (text : List Char) (byte : Nat) :
    unitsBefore (charStarts 0 0 text).toArray (Utf16.size text) byte =
      Utf16.size (startingBefore byte text) := by
  have counted := unitsBefore_charStarts 0 0 byte text
  rwa [Nat.zero_add, Nat.zero_add, Nat.sub_zero] at counted

theorem charOffset_of_isAscii {text : List Char} (ascii : isAscii text = true) (byte : Nat) :
    (ofText text).charOffset byte = byte := by
  simp only [charOffset, ofText, ascii, ↓reduceIte]

theorem charOffset_of_not_isAscii {text : List Char} (wide : isAscii text = false) (byte : Nat) :
    (ofText text).charOffset byte =
      unitsBefore (charStarts 0 0 text).toArray (Utf16.size text) byte := by
  simp only [charOffset, ofText, wide, Bool.false_eq_true, ↓reduceIte]

/-- The table counts the units of the characters that start before a byte. Where a text has the
table, that is the offset of the byte; in a text of single bytes the offset is the byte itself, and
it is what the table would answer up to the end of the text and not past it. -/
theorem charOffset_eq_unitsBefore_iff (text : List Char) (byte : Nat) :
    let tabled := unitsBefore (charStarts 0 0 text).toArray (Utf16.size text) byte
    tabled = Utf16.size (startingBefore byte text) ∧
    (ofText text).charOffset byte = (if isAscii text then byte else tabled) ∧
    ((ofText text).charOffset byte = tabled ↔
      isAscii text = false ∨ byte ≤ (Utf8.encode text).length) := by
  dsimp only
  refine ⟨unitsBefore_eq_size text byte, ?_⟩
  cases ascii : isAscii text with
  | true =>
      rw [charOffset_of_isAscii ascii, unitsBefore_eq_size, size_startingBefore_of_isAscii ascii,
        Utf8.length_encode]
      refine ⟨rfl, ?_⟩
      simp only [Bool.true_eq_false, false_or]
      omega
  | false =>
      rw [charOffset_of_not_isAscii ascii]
      simp only [Bool.false_eq_true, ↓reduceIte, true_or]
      trivial

/-- Past the end of a text of single bytes the offset grows with the byte, though the table would
stay at the three units of the text, as it does for a text with another character in it. -/
theorem charOffset_grows_past_ascii :
    isAscii ['a', 'b', 'c'] = true ∧
    (ofText ['a', 'b', 'c']).charOffset 7 = 7 ∧
    unitsBefore (charStarts 0 0 ['a', 'b', 'c']).toArray (Utf16.size ['a', 'b', 'c']) 7 = 3 ∧
    (ofText ['a', 'b', 'é']).charOffset 7 = 3 := by
  refine ⟨by decide, charOffset_of_isAscii (by decide) 7, ?_, ?_⟩
  · rw [unitsBefore_eq_size]
    decide
  · rw [charOffset_of_not_isAscii (by decide), unitsBefore_eq_size]
    decide

end OffsetIndex

end SyntaxSpans
