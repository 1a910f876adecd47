import SyntaxSpans.Proofs.Text.Decoding
import SyntaxSpans.Run.Job

set_option autoImplicit false

namespace SyntaxSpans

/-- Texts that are each ended come apart at the ends, with nothing behind the last one. -/
theorem splitAtEvery_ended {separator : Char} {texts : List (List Char)}
    (absent : ∀ text ∈ texts, separator ∉ text) :
    splitAtEvery separator (texts.flatMap fun text => text ++ [separator]) = texts ++ [[]] := by
  induction texts with
  | nil => rfl
  | cons text rest ih =>
      have own : separator ∉ text := absent text List.mem_cons_self
      have onward := ih fun other member => absent other (List.mem_cons_of_mem _ member)
      rw [List.flatMap_cons, List.append_assoc, List.singleton_append, splitAtEvery_append own,
        onward, List.cons_append]

theorem not_mem_toDigits {char : Char} (other : char.isDigit = false) (number : Nat) :
    char ∉ Nat.toDigits 10 number := by
  intro member
  have digit : char.isDigit = true :=
    Nat.isDigit_of_mem_toDigits (by decide) (by decide) member
  exact ne_true_of_eq_false other digit

theorem toDigits_injective {first second : Nat}
    (same : Nat.toDigits 10 first = Nat.toDigits 10 second) : first = second := by
  have read : Nat.ofDigitChars 10 (Nat.toDigits 10 first) 0 = first :=
    Nat.ofDigitChars_ten_toDigits
  rw [← read, same, Nat.ofDigitChars_ten_toDigits]

theorem Category.not_mem_name {char : Char} (other : char.isLower = false) (category : Category) :
    char ∉ category.name.toList := by
  have letters : category.name.toList.all Char.isLower = true := by
    cases category <;> rfl
  intro member
  exact ne_true_of_eq_false other (List.all_eq_true.mp letters char member)

namespace Record

/-- What stands before, between and behind the two dashes of a line. -/
def pieces (record : Record) : List (List Char) :=
  [record.category.name.toList ++ [' '], ' ' :: '[' :: Nat.toDigits 10 record.start,
    Nat.toDigits 10 record.stop ++ [']']]

theorem toList_line (record : Record) :
    record.line.toList =
      (record.category.name.toList ++ [' ']) ++
        '-' :: ((' ' :: '[' :: Nat.toDigits 10 record.start) ++
          '-' :: (Nat.toDigits 10 record.stop ++ [']'])) := by
  simp [line, toString]

theorem splitAtEvery_line (record : Record) :
    splitAtEvery '-' record.line.toList = record.pieces := by
  have name : '-' ∉ record.category.name.toList ++ [' '] := by
    simp [Category.not_mem_name (show '-'.isLower = false by decide)]
  have start : '-' ∉ ' ' :: '[' :: Nat.toDigits 10 record.start := by
    simp [not_mem_toDigits (show '-'.isDigit = false by decide)]
  have stop : '-' ∉ Nat.toDigits 10 record.stop ++ [']'] := by
    simp [not_mem_toDigits (show '-'.isDigit = false by decide)]
  rw [toList_line, splitAtEvery_append name, splitAtEvery_append start,
    splitAtEvery_of_not_mem stop]
  rfl

/-- The pieces of a line tell the record. -/
theorem eq_of_pieces {first second : Record} (same : first.pieces = second.pieces) :
    first = second := by
  obtain ⟨category, start, stop⟩ := first
  obtain ⟨category', start', stop'⟩ := second
  simp only [pieces, List.cons.injEq, List.append_cancel_right_eq, String.toList_inj, true_and,
    and_true] at same
  obtain ⟨names, starts, stops⟩ := same
  rw [Category.name_injective names, toDigits_injective starts, toDigits_injective stops]

theorem line_injective {first second : Record} (same : first.line = second.line) :
    first = second := by
  apply eq_of_pieces
  rw [← splitAtEvery_line, ← splitAtEvery_line, same]

theorem newline_not_mem_line (record : Record) : '\n' ∉ record.line.toList := by
  rw [toList_line]
  simp [Category.not_mem_name (show '\n'.isLower = false by decide),
    not_mem_toDigits (show '\n'.isDigit = false by decide)]

end Record

namespace Job

/-- Several lines are the encoding of texts that are each ended by a newline. -/
theorem flatten_lines (texts : List String) :
    (texts.map line).flatten =
      Utf8.encode ((texts.map String.toList).flatMap fun text => text ++ ['\n']) := by
  induction texts with
  | nil => rfl
  | cons text rest ih =>
      rw [List.map_cons, List.flatten_cons, ih, List.map_cons, List.flatMap_cons,
        Utf8.encode_append]
      rfl

/-- Read and cut at its newlines, what is written for some texts is the texts again. -/
theorem splitAtEvery_decode_lines {texts : List String}
    (absent : ∀ text ∈ texts, '\n' ∉ text.toList) :
    splitAtEvery '\n' (Utf8.decode (texts.map line).flatten) =
      texts.map String.toList ++ [[]] := by
  have uncut : ∀ text ∈ texts.map String.toList, '\n' ∉ text := by
    intro chars member
    obtain ⟨text, listed, rfl⟩ := List.mem_map.mp member
    exact absent text listed
  calc
    splitAtEvery '\n' (Utf8.decode (texts.map line).flatten)
      = splitAtEvery '\n' ((texts.map String.toList).flatMap fun text => text ++ ['\n']) := by
        rw [flatten_lines, Utf8.decode_encode]
    _ = texts.map String.toList ++ [[]] := splitAtEvery_ended uncut

theorem flatten_lines_injective {first second : List String}
    (absent : ∀ text ∈ first, '\n' ∉ text.toList) (absent' : ∀ text ∈ second, '\n' ∉ text.toList)
    (same : (first.map line).flatten = (second.map line).flatten) : first = second := by
  have texts : first.map String.toList ++ [[]] = second.map String.toList ++ [[]] := by
    rw [← splitAtEvery_decode_lines absent, ← splitAtEvery_decode_lines absent', same]
  exact (List.map_inj_right fun _ _ => String.toList_inj.mp).mp (List.append_cancel_right texts)

/-- No line of a record has a newline in it, and the lines that two blocks have behind their first
are the same bytes only for the same records, as many of them, in the same order. -/
theorem block_tells_records :
    (∀ record : Record, '\n' ∉ record.line.toList) ∧
    ∀ (source other : Source) (first second : List Record),
      (block source first).tail.flatten = (block other second).tail.flatten ↔ first = second := by
  have absent : ∀ records : List Record, ∀ text ∈ records.map Record.line, '\n' ∉ text.toList := by
    intro records text member
    obtain ⟨record, -, rfl⟩ := List.mem_map.mp member
    exact record.newline_not_mem_line
  have written : ∀ (source : Source) (records : List Record),
      (block source records).tail = (records.map Record.line).map line := by
    intro source records
    rw [List.map_map]
    rfl
  refine ⟨Record.newline_not_mem_line, fun source other first second => ?_⟩
  rw [written, written]
  constructor
  · intro same
    have lines : first.map Record.line = second.map Record.line :=
      flatten_lines_injective (absent first) (absent second) same
    exact (List.map_inj_right fun _ _ => Record.line_injective).mp lines
  · rintro rfl
    rfl

end Job

end SyntaxSpans
