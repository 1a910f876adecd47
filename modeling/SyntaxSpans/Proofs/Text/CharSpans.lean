import SyntaxSpans.Proofs.Text.OffsetOrder

set_option autoImplicit false

namespace SyntaxSpans

/-- A byte at which a character starts or the text ends. -/
def IsBoundary (text : List Char) (byte : Nat) : Prop :=
  ∃ front back, text = front ++ back ∧ Utf8.size front = byte

theorem extract_append_append {α : Type} (front middle back : List α) :
    (front ++ (middle ++ back)).extract front.length (front ++ middle).length = middle := by
  rw [List.extract_eq_take_drop, List.drop_left, List.length_append, Nat.add_sub_cancel_left,
    List.take_left]

/-- Two boundaries cut a text in three. -/
theorem IsBoundary.split {text : List Char} {first second : Nat} (start : IsBoundary text first)
    (stop : IsBoundary text second) (ordered : first ≤ second) :
    ∃ front middle back, text = front ++ (middle ++ back) ∧ Utf8.size front = first ∧
      Utf8.size (front ++ middle) = second := by
  obtain ⟨front, rest, whole, bytes⟩ := start
  obtain ⟨longer, back, whole', bytes'⟩ := stop
  rcases List.append_eq_append_iff.mp (whole.symm.trans whole') with
    ⟨middle, rfl, rfl⟩ | ⟨middle, rfl, rfl⟩
  · exact ⟨front, middle, back, whole, bytes, bytes'⟩
  · -- The other way round: the boundaries are in order, so nothing is between them.
    rw [Utf8.size_append] at bytes
    have nothing : middle = [] := Utf8.eq_nil_of_size (by omega)
    subst nothing
    rw [Utf8.size_nil, Nat.add_zero] at bytes
    exact ⟨longer, [], rest, whole', bytes, by rw [List.append_nil]; exact bytes'⟩

theorem dropBytes_cons (bytes : Nat) (char : Char) (rest : List Char) :
    dropBytes (char.utf8Size + bytes) (char :: rest) = dropBytes bytes rest := by
  have positive := char.utf8Size_pos
  obtain ⟨fewer, total⟩ : ∃ fewer, char.utf8Size + bytes = fewer + 1 :=
    ⟨char.utf8Size + bytes - 1, by omega⟩
  rw [total, dropBytes, if_pos (by omega), ← total, Nat.add_sub_cancel_left]

theorem takeBytes_cons (bytes : Nat) (char : Char) (rest : List Char) :
    takeBytes (char.utf8Size + bytes) (char :: rest) = (takeBytes bytes rest).map (char :: ·) := by
  have positive := char.utf8Size_pos
  obtain ⟨fewer, total⟩ : ∃ fewer, char.utf8Size + bytes = fewer + 1 :=
    ⟨char.utf8Size + bytes - 1, by omega⟩
  rw [total, takeBytes, if_pos (by omega), ← total, Nat.add_sub_cancel_left]

theorem dropBytes_append (front back : List Char) :
    dropBytes (Utf8.size front) (front ++ back) = some back := by
  induction front with
  | nil => rw [Utf8.size_nil, List.nil_append, dropBytes]
  | cons char front ih => rw [Utf8.size_cons, List.cons_append, dropBytes_cons, ih]

theorem takeBytes_append (front back : List Char) :
    takeBytes (Utf8.size front) (front ++ back) = some front := by
  induction front with
  | nil => rw [Utf8.size_nil, List.nil_append, takeBytes]
  | cons char front ih =>
      rw [Utf8.size_cons, List.cons_append, takeBytes_cons, ih, Option.map_some]

theorem slice?_append (front middle back : List Char) :
    slice? (front ++ (middle ++ back)) ⟨Utf8.size front, Utf8.size (front ++ middle)⟩ =
      some middle := by
  unfold slice? Span.length
  dsimp only
  rw [Utf8.size_append, if_pos (Nat.le_add_right _ _), dropBytes_append, Option.bind_some,
    Nat.add_sub_cancel_left, takeBytes_append]

theorem append_of_dropBytes {bytes : Nat} {text back : List Char}
    (dropped : dropBytes bytes text = some back) :
    ∃ front, text = front ++ back ∧ Utf8.size front = bytes := by
  fun_induction dropBytes bytes text with
  | case1 text =>
      cases dropped
      exact ⟨[], rfl, Utf8.size_nil⟩
  | case2 => cases dropped
  | case3 bytes char rest fits ih =>
      obtain ⟨front, rfl, size⟩ := ih dropped
      refine ⟨char :: front, rfl, ?_⟩
      rw [Utf8.size_cons, size]
      omega
  | case4 => cases dropped

theorem append_of_takeBytes {bytes : Nat} {text piece : List Char}
    (taken : takeBytes bytes text = some piece) :
    ∃ back, text = piece ++ back ∧ Utf8.size piece = bytes := by
  fun_induction takeBytes bytes text generalizing piece with
  | case1 text =>
      cases taken
      exact ⟨text, rfl, Utf8.size_nil⟩
  | case2 => cases taken
  | case3 bytes char rest fits ih =>
      obtain ⟨others, found, rfl⟩ := Option.map_eq_some_iff.mp taken
      obtain ⟨back, rfl, size⟩ := ih found
      refine ⟨back, rfl, ?_⟩
      rw [Utf8.size_cons, size]
      omega
  | case4 => cases taken

theorem encode_of_slice? {text piece : List Char} {span : Span}
    (found : slice? text span = some piece) :
    Utf8.encode piece = (Utf8.encode text).extract span.start span.stop := by
  obtain ⟨low, high⟩ := span
  unfold slice? Span.length at found
  split at found
  · rename_i ordered
    dsimp only at ordered found ⊢
    obtain ⟨later, dropped, taken⟩ := Option.bind_eq_some_iff.mp found
    obtain ⟨front, rfl, start⟩ := append_of_dropBytes dropped
    obtain ⟨back, rfl, size⟩ := append_of_takeBytes taken
    have stop : (Utf8.encode front ++ Utf8.encode piece).length = high := by
      rw [← Utf8.encode_append, Utf8.length_encode, Utf8.size_append]
      omega
    rw [← start, ← Utf8.length_encode, ← stop, Utf8.encode_append, Utf8.encode_append,
      extract_append_append]
  · cases found

theorem startingBefore_append (front back : List Char) :
    startingBefore (Utf8.size front) (front ++ back) = front := by
  induction front with
  | nil => rw [Utf8.size_nil, startingBefore]
  | cons char front ih =>
      have positive := char.utf8Size_pos
      rw [List.cons_append, Utf8.size_cons, startingBefore_cons (by omega),
        Nat.add_sub_cancel_left, ih]

namespace OffsetIndex

theorem charOffset_append (front back : List Char) :
    (ofText (front ++ back)).charOffset (Utf8.size front) = Utf16.size front := by
  cases ascii : isAscii (front ++ back) with
  | true =>
      rw [charOffset_of_isAscii ascii]
      rw [isAscii, List.all_append, Bool.and_eq_true] at ascii
      exact (Utf16.size_of_isAscii ascii.1).symm
  | false =>
      rw [charOffset_of_not_isAscii ascii, unitsBefore_eq_size, startingBefore_append]

section Boundaries

variable {text : List Char} {first second byte : Nat}

/-- Between two boundaries there is a character, and it has units. -/
theorem charOffset_lt (start : IsBoundary text first) (stop : IsBoundary text second)
    (ordered : first < second) :
    (ofText text).charOffset first < (ofText text).charOffset second := by
  obtain ⟨front, middle, back, rfl, rfl, rfl⟩ := start.split stop (Nat.le_of_lt ordered)
  have filled : middle ≠ [] := by
    rintro rfl
    rw [List.append_nil] at ordered
    exact Nat.lt_irrefl _ ordered
  have units := Utf16.size_pos filled
  rw [charOffset_append, ← List.append_assoc, charOffset_append, Utf16.size_append]
  omega

theorem charOffset_le (boundary : IsBoundary text byte) :
    (ofText text).charOffset byte ≤ byte := by
  obtain ⟨front, back, rfl, rfl⟩ := boundary
  rw [charOffset_append]
  exact Utf16.size_le front

theorem charOffset_injective (start : IsBoundary text first) (stop : IsBoundary text second)
    (same : (ofText text).charOffset first = (ofText text).charOffset second) :
    first = second := by
  rcases Nat.lt_trichotomy first second with before | equal | after
  · have := charOffset_lt start stop before
    omega
  · exact equal
  · have := charOffset_lt stop start after
    omega

/-- The bytes and the units of a span between boundaries are those of its characters. -/
theorem encode_slice? {span : Span} (ordered : span.start ≤ span.stop)
    (start : IsBoundary text span.start) (stop : IsBoundary text span.stop) :
    ∃ piece, slice? text span = some piece ∧
      Utf8.encode piece = (Utf8.encode text).extract span.start span.stop ∧
      Utf16.encode piece = (Utf16.encode text).extract ((ofText text).charOffset span.start)
        ((ofText text).charOffset span.stop) := by
  obtain ⟨low, high⟩ := span
  obtain ⟨front, middle, back, rfl, rfl, rfl⟩ := start.split stop ordered
  refine ⟨middle, slice?_append front middle back, ?_, ?_⟩
  · rw [Utf8.encode_append, Utf8.encode_append, ← Utf8.length_encode, ← Utf8.length_encode,
      Utf8.encode_append, extract_append_append]
  · have later := charOffset_append (front ++ middle) back
    rw [List.append_assoc] at later
    rw [charOffset_append, later, Utf16.encode_append, Utf16.encode_append,
      ← Utf16.length_encode, ← Utf16.length_encode, Utf16.encode_append, extract_append_append]

theorem charOffset_le_length (boundary : IsBoundary text byte) :
    (ofText text).charOffset byte ≤ (Utf16.encode text).length := by
  obtain ⟨front, back, rfl, rfl⟩ := boundary
  rw [charOffset_append, Utf16.length_encode, Utf16.size_append]
  exact Nat.le_add_right _ _

end Boundaries

/-- A span between boundaries of characters, converted to 16-bit units, addresses exactly the units
of its characters. Later boundaries have greater offsets and no offset is beyond its byte, so spans
between boundaries that differ still do so after conversion. -/
theorem convert_chars_addresses (text : List Char) :
    (∀ span : Span, span.start ≤ span.stop → IsBoundary text span.start →
      IsBoundary text span.stop →
        ∃ piece, slice? text span = some piece ∧
          Utf8.encode piece = (Utf8.encode text).extract span.start span.stop ∧
          let place := (ofText text).convert span .chars
          place.1 ≤ place.2 ∧ place.2 ≤ (Utf16.encode text).length ∧
            (Utf16.encode text).extract place.1 place.2 = Utf16.encode piece) ∧
    (∀ first second, IsBoundary text first → IsBoundary text second → first < second →
      (ofText text).charOffset first < (ofText text).charOffset second) ∧
    (∀ byte, IsBoundary text byte → (ofText text).charOffset byte ≤ byte) ∧
    ∀ span other : Span, IsBoundary text span.start → IsBoundary text span.stop →
      IsBoundary text other.start → IsBoundary text other.stop →
        (ofText text).convert span .chars = (ofText text).convert other .chars → span = other := by
  refine ⟨fun span ordered start stop => ?_, fun _ _ => charOffset_lt, fun _ => charOffset_le, ?_⟩
  · obtain ⟨piece, found, bytes, units⟩ := encode_slice? ordered start stop
    exact ⟨piece, found, bytes, charOffset_mono text ordered, charOffset_le_length stop, units.symm⟩
  · rintro ⟨low, high⟩ ⟨low', high'⟩ start stop start' stop' same
    obtain ⟨starts, stops⟩ := Prod.mk.inj same
    rw [Span.mk.injEq]
    exact ⟨charOffset_injective start start' starts, charOffset_injective stop stop' stops⟩

def mixed : List Char := ['a', 'é', '€', '😀', 'b']

theorem convert_chars_addresses_mixed :
    IsBoundary mixed 1 ∧ IsBoundary mixed 10 ∧
    (∃ piece, slice? mixed ⟨1, 10⟩ = some piece ∧
      let place := (ofText mixed).convert ⟨1, 10⟩ .chars
      place.1 ≤ place.2 ∧ place.2 ≤ 6 ∧
        (Utf16.encode mixed).extract place.1 place.2 = Utf16.encode piece) ∧
    (ofText mixed).charOffset 1 < (ofText mixed).charOffset 10 ∧
    (ofText mixed).charOffset 10 ≤ 10 := by
  have start : IsBoundary mixed 1 := ⟨['a'], ['é', '€', '😀', 'b'], rfl, by decide⟩
  have stop : IsBoundary mixed 10 := ⟨['a', 'é', '€', '😀'], ['b'], rfl, by decide⟩
  obtain ⟨addressed, later, small, -⟩ := convert_chars_addresses mixed
  obtain ⟨piece, found, -, ordered, inside, units⟩ := addressed ⟨1, 10⟩ (by decide) start stop
  exact ⟨start, stop, ⟨piece, found, ordered, inside, units⟩,
    later 1 10 start stop (by decide), small 10 stop⟩

end OffsetIndex

end SyntaxSpans
