import SyntaxSpans.Proofs.Text.OffsetOrder

set_option autoImplicit false

/- Lines as counts of bytes. In the encoding of a text the byte of a newline stands for newlines
alone, so the line of an offset is told by the bytes before it, and a span of lines by the bytes of
the span. The last byte of a span is in its line, so a newline there opens no further one. -/
namespace SyntaxSpans

namespace Utf8

def newline : UInt8 := 0x0A

/-- A byte below 0x80 stands for the character of that number and is part of no other. -/
theorem toNat_of_mem_utf8EncodeChar {char : Char} {byte : UInt8}
    (member : byte ∈ String.utf8EncodeChar char) (small : byte.toNat < 0x80) :
    char.toNat = byte.toNat := by
  have number : char.toNat = char.val.toNat := rfl
  unfold String.utf8EncodeChar at member
  dsimp only at member
  split at member
  · rename_i single
    rw [List.mem_singleton] at member
    subst member
    rw [UInt8.toNat_ofNat'] at small ⊢
    omega
  · -- Every byte of a longer encoding is marked as such.
    have marked : 0x80 ≤ byte.toNat := by
      repeat' split at member
      all_goals
        simp only [List.mem_cons, List.not_mem_nil, or_false] at member
        rcases member with rfl | rfl | rfl | rfl <;> rw [UInt8.toNat_ofNat'] <;> omega
    omega

theorem utf8EncodeChar_newline : String.utf8EncodeChar '\n' = [newline] := by
  decide

theorem newline_not_mem_utf8EncodeChar {char : Char} (other : char ≠ '\n') :
    newline ∉ String.utf8EncodeChar char := by
  intro member
  apply other
  have number : char.toNat = newline.toNat :=
    toNat_of_mem_utf8EncodeChar member (by decide)
  exact Char.toNat_inj.mp number

/-- Among the first bytes of a text there is one newline if the text begins with one, and those of
the rest. -/
theorem count_take_encode_cons (char : Char) (rest : List Char) (bytes : Nat) :
    ((encode (char :: rest)).take bytes).count newline =
      (if char = '\n' ∧ 0 < bytes then 1 else 0) +
        ((encode rest).take (bytes - char.utf8Size)).count newline := by
  rw [encode_cons, List.take_append, List.count_append, String.length_utf8EncodeChar]
  congr 1
  by_cases here : char = '\n'
  · subst here
    rw [utf8EncodeChar_newline]
    cases bytes with
    | zero => rfl
    | succ bytes =>
        rw [List.take_of_length_le (by simp), if_pos ⟨rfl, Nat.succ_pos _⟩]
        rfl
  · rw [if_neg (fun both => here both.1), List.count_eq_zero]
    intro member
    exact newline_not_mem_utf8EncodeChar here (List.mem_of_mem_take member)

end Utf8

/-- The newlines that end at a byte or before it are the newline bytes below it. -/
theorem countP_newlineEnds (byte stop : Nat) (text : List Char) :
    ((newlineEnds byte text).countP fun close => close ≤ stop) =
      ((Utf8.encode text).take (stop - byte)).count Utf8.newline := by
  induction text generalizing byte with
  | nil => simp [newlineEnds, Utf8.encode_nil]
  | cons char rest ih =>
      have onward := ih (byte + char.utf8Size)
      rw [newlineEnds, Utf8.count_take_encode_cons, Nat.sub_sub, ← onward]
      by_cases here : char = '\n'
      · subst here
        have single : '\n'.utf8Size = 1 := by decide
        simp only [↓reduceIte, List.countP_cons, single, decide_eq_true_eq, true_and,
          Nat.add_comm _ (List.countP _ _)]
        congr 1
        split <;> split <;> omega
      · simp only [here, ↓reduceIte, false_and, Nat.zero_add]

namespace OffsetIndex

variable (text : List Char)

/-- The line of a byte is one more than the newline bytes before it. -/
theorem lineOf_eq_count (byte : Nat) :
    (ofText text).lineOf byte = 1 + ((Utf8.encode text).take byte).count Utf8.newline := by
  rw [lineOf_eq, countP_newlineEnds, Nat.sub_zero]

theorem lineOf_le (byte : Nat) :
    (ofText text).lineOf byte ≤ 1 + (Utf8.encode text).count Utf8.newline := by
  have part := (List.take_sublist byte (Utf8.encode text)).count_le Utf8.newline
  rw [lineOf_eq_count]
  omega

theorem lineOf_add {first second : Nat} (ordered : first ≤ second) :
    (ofText text).lineOf second =
      (ofText text).lineOf first +
        ((Utf8.encode text).extract first second).count Utf8.newline := by
  have parts : (Utf8.encode text).take second =
      (Utf8.encode text).take first ++ (Utf8.encode text).extract first second := by
    rw [List.extract_eq_take_drop, ← List.take_add, Nat.add_sub_cancel' ordered]
  rw [lineOf_eq_count, lineOf_eq_count, parts, List.count_append, Nat.add_assoc]

theorem convert_lines_fst (span : Span) :
    ((ofText text).convert span .lines).1 = (ofText text).lineOf span.start := rfl

theorem convert_lines_snd (span : Span) :
    ((ofText text).convert span .lines).2 = (ofText text).lineOf span.lastByte := rfl

end OffsetIndex

/-- The line of a byte is one more than the newline bytes below it. The lines of any span are lines
of the text, in order: a span with bytes begins as many lines before it ends as there are newline
bytes in it, the last byte left out, and a span without bytes lies in one line. The last byte is
asked for only where there is one. -/
theorem OffsetIndex.convert_lines_exact (text : List Char) :
    (∀ byte, (ofText text).lineOf byte =
      1 + ((Utf8.encode text).take byte).count Utf8.newline) ∧
    ∀ span : Span,
      let lines := (ofText text).convert span .lines
      1 ≤ lines.1 ∧ lines.1 ≤ lines.2 ∧ lines.2 ≤ 1 + (Utf8.encode text).count Utf8.newline ∧
      (span.start < span.stop →
        lines.2 - lines.1 =
          ((Utf8.encode text).extract span.start (span.stop - 1)).count Utf8.newline) ∧
      (span.stop ≤ span.start → lines.1 = lines.2) ∧
      (span.isEmpty = false → span.stop - 1 + 1 = span.stop) := by
  refine ⟨lineOf_eq_count text, fun span => ?_⟩
  dsimp only
  rw [convert_lines_fst, convert_lines_snd, span.lastByte_eq_max]
  refine ⟨?_, lineOf_mono text (Nat.le_max_left _ _), lineOf_le text _, ?_, ?_, ?_⟩
  · rw [lineOf_eq_count]
    omega
  · intro filled
    have ordered : span.start ≤ span.stop - 1 := Nat.le_sub_one_of_lt filled
    rw [Nat.max_eq_right ordered, lineOf_add text ordered, Nat.add_sub_cancel_left]
  · intro empty
    rw [Nat.max_eq_left (Nat.le_trans (Nat.sub_le _ _) empty)]
  · intro some
    have filled : ¬ span.stop ≤ span.start := by
      rw [← Span.isEmpty_iff, some]
      exact Bool.false_ne_true
    omega

/-- A character of two bytes, and newlines of which two stand side by side. -/
def brokenText : List Char := ['é', '\n', 'b', '\n', '\n']

/-- A span from inside the first character through the first newline of the pair covers two lines,
since the newline at its end opens none. A reversed span past the end lies in the last line. -/
theorem OffsetIndex.convert_lines_exact_brokenText :
    (1 < 5 ∧ (⟨1, 5⟩ : Span).isEmpty = false ∧ 5 - 1 + 1 = 5 ∧
      let lines := (ofText brokenText).convert ⟨1, 5⟩ .lines
      lines.2 - lines.1 = 1) ∧
    (4 ≤ 9 ∧
      let lines := (ofText brokenText).convert ⟨9, 4⟩ .lines
      lines.1 = lines.2) := by
  obtain ⟨-, spans⟩ := convert_lines_exact brokenText
  obtain ⟨-, -, -, filled, -, last⟩ := spans ⟨1, 5⟩
  obtain ⟨-, -, -, -, empty, -⟩ := spans ⟨9, 4⟩
  refine ⟨⟨by decide, by decide, last (by decide), ?_⟩, by decide, empty (by decide)⟩
  have bytes : ((Utf8.encode brokenText).extract 1 (5 - 1)).count Utf8.newline = 1 := by decide
  exact (filled (by decide)).trans bytes

end SyntaxSpans
