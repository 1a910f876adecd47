import SyntaxSpans.Proofs.Text.Units

set_option autoImplicit false

namespace SyntaxSpans

namespace OffsetIndex

theorem lineOf_eq (text : List Char) (byte : Nat) :
    (ofText text).lineOf byte = 1 + (newlineEnds 0 text).countP fun start => start ≤ byte := by
  have parted : Partitioned (fun start => decide (start ≤ byte)) (ofText text).lines := by
    apply partitioned_of_ascending (lineStarts_ascending text)
    intro first second earlier holds
    simp only [decide_eq_true_eq] at holds ⊢
    omega
  have count := bisect_eq_countP parted
  simp only [ofText, List.countP_cons, Nat.zero_le, decide_true, ↓reduceIte] at count
  simp only [lineOf, ofText, count]
  omega

theorem lineOf_mono (text : List Char) {first second : Nat} (ordered : first ≤ second) :
    (ofText text).lineOf first ≤ (ofText text).lineOf second := by
  have fewer := List.countP_mono_left (l := newlineEnds 0 text)
    (p := fun start => decide (start ≤ first)) (q := fun start => decide (start ≤ second))
    (fun start _ holds => by simp only [decide_eq_true_eq] at holds ⊢; omega)
  rw [lineOf_eq, lineOf_eq]
  omega

theorem charOffset_mono (text : List Char) {first second : Nat} (ordered : first ≤ second) :
    (ofText text).charOffset first ≤ (ofText text).charOffset second := by
  cases ascii : isAscii text with
  | true => rwa [charOffset_of_isAscii ascii, charOffset_of_isAscii ascii]
  | false =>
      rw [charOffset_of_not_isAscii ascii, charOffset_of_not_isAscii ascii, unitsBefore_eq_size,
        unitsBefore_eq_size]
      exact size_startingBefore_mono text ordered

end OffsetIndex

namespace Span

/-- A span that comes before another in document order: it starts no later, and it holds the other
or ends before the other starts. -/
def Precedes (first second : Span) : Prop :=
  first.start ≤ second.start ∧ (second.stop ≤ first.stop ∨ first.stop ≤ second.start)

/-- The byte whose line is the last one of a span. -/
def lastByte (span : Span) : Nat := if span.isEmpty then span.start else span.stop - 1

theorem isEmpty_iff (span : Span) : span.isEmpty = true ↔ span.stop ≤ span.start := by
  rw [isEmpty, length, beq_iff_eq]
  omega

/-- A span has a byte before its stop unless it stops no later than it starts. -/
theorem lastByte_eq_max (span : Span) : span.lastByte = max span.start (span.stop - 1) := by
  unfold lastByte
  split
  · rename_i empty
    have := span.isEmpty_iff.mp empty
    omega
  · rename_i filled
    rw [isEmpty_iff] at filled
    omega

/-- An empty span at the end of another is beside it and not in it, since its line may be a later
one than that of the last byte. -/
theorem Precedes.lastByte {first second : Span} (precedes : first.Precedes second) :
    second.lastByte ≤ first.lastByte ∨ first.lastByte ≤ second.start := by
  obtain ⟨starts, inside | beside⟩ := precedes
  · rw [lastByte_eq_max, lastByte_eq_max]
    omega
  · refine .inr ?_
    rw [lastByte_eq_max]
    omega

end Span

/-- Conversion keeps spans in document order, whatever the unit. -/
theorem OffsetIndex.convert_precedes (text : List Char) (unit : SpanUnit) {first second : Span}
    (precedes : first.Precedes second) :
    let converted := fun span => (ofText text).convert span unit
    Span.Precedes ⟨(converted first).1, (converted first).2⟩
      ⟨(converted second).1, (converted second).2⟩ := by
  obtain ⟨starts, stops⟩ := id precedes
  cases unit with
  | bytes => exact precedes
  | chars =>
      exact ⟨charOffset_mono text starts, stops.imp (charOffset_mono text) (charOffset_mono text)⟩
  | lines =>
      have lasts := precedes.lastByte
      exact ⟨lineOf_mono text starts, lasts.imp (lineOf_mono text) (lineOf_mono text)⟩

end SyntaxSpans
