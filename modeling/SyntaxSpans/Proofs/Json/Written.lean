import SyntaxSpans.Proofs.Json.Consumption

set_option autoImplicit false

namespace SyntaxSpans.Json

section Numbers

variable {digits rest : List Char} {limit : Nat}

theorem le_ofDigitChars (digits : List Char) (start : Nat) :
    start ≤ Nat.ofDigitChars 10 digits start := by
  induction digits generalizing start with
  | nil => exact Nat.le_refl _
  | cons digit digits ih =>
      rw [Nat.ofDigitChars_cons]
      exact Nat.le_trans (by omega) (ih _)

/-- Digits are all taken into a number that stays below the limit. -/
theorem accumulate_append {start : Nat} (each : ∀ char ∈ digits, char.isDigit = true)
    (small : Nat.ofDigitChars 10 digits start < limit) (stop : NoDigit rest) :
    accumulate limit start (digits ++ rest) = (Nat.ofDigitChars 10 digits start, rest) := by
  induction digits generalizing start with
  | nil =>
      cases rest with
      | nil => rfl
      | cons char others =>
          rw [List.nil_append, accumulate]
          simp only [stop char rfl, Bool.false_and, Bool.false_eq_true, ↓reduceIte]
          rfl
  | cons digit digits ih =>
      have next : start * 10 + (digit.toNat - 0x30) = 10 * start + (digit.toNat - '0'.toNat) := by
        rw [Nat.mul_comm]
        rfl
      rw [Nat.ofDigitChars_cons] at small ⊢
      have below := Nat.lt_of_le_of_lt (le_ofDigitChars digits _) small
      rw [List.cons_append, accumulate]
      simp only [each digit List.mem_cons_self, Bool.true_and, decide_eq_true_eq, next, below,
        ↓reduceIte]
      exact ih (fun char among => each char (List.mem_cons_of_mem _ among)) small

theorem WritesWhole.each (whole : WritesWhole digits) : ∀ char ∈ digits, char.isDigit = true := by
  cases whole with
  | zero => exact List.forall_mem_singleton.mpr rfl
  | digits digit _ more => exact List.forall_mem_cons.mpr ⟨digit, more⟩

/-- A zero in front stands alone. -/
theorem WritesWhole.lone {first : Char} {others : List Char} (whole : WritesWhole (first :: others))
    (stop : NoDigit rest) : ¬(first = '0' ∧ countDigits (others ++ rest) ≠ 0) := by
  rintro ⟨zero, some⟩
  cases whole with
  | zero => exact some (countDigits_of_noDigit stop)
  | digits _ notZero _ => exact notZero zero

/-- A whole number that a machine word can hold is read from its digits. -/
theorem WritesWhole.number (whole : WritesWhole digits)
    (fits : Nat.ofDigitChars 10 digits 0 < significandLimit) (ends : EndsNumber rest) :
    number (digits ++ rest) = .ok (.natural (Nat.ofDigitChars 10 digits 0), rest) := by
  have taken := accumulate_append whole.each fits ends.noDigit
  have each := whole.each
  cases digits with
  | nil => cases whole
  | cons first others =>
      have digit : first.isDigit = true := each first List.mem_cons_self
      have unsigned : Json.number (first :: (others ++ rest)) =
          Json.unsigned false (first :: (others ++ rest)) := by
        rw [Json.number]
        rintro _ ⟨⟩
        cases digit
      rw [List.cons_append] at taken ⊢
      rw [unsigned, Json.unsigned, if_neg (by simp [digit]), if_neg (whole.lone ends.noDigit)]
      simp only [taken, dropDigits_of_noDigit ends.noDigit, countDigits_of_noDigit ends.noDigit]
      split
      · exact absurd (ends _ rfl) (by decide)
      · exact absurd (ends _ rfl) (by decide)
      · exact absurd (ends _ rfl) (by decide)
      · rfl

theorem toDigits_start {value : Nat} (positive : 0 < value) :
    ∃ first others, Nat.toDigits 10 value = first :: others ∧ first ≠ '0' := by
  induction value using Nat.strongRecOn with
  | ind value ih =>
      rw [Nat.toDigits_eq_if (by decide)]
      split
      · rename_i small
        have digit : ∀ value < 10, 0 < value → value.digitChar ≠ '0' := by decide
        exact ⟨_, [], rfl, digit value small positive⟩
      · rename_i large
        obtain ⟨first, others, same, notZero⟩ := ih (value / 10) (by omega) (by omega)
        exact ⟨first, _, by rw [same, List.cons_append], notZero⟩

theorem writesWhole_toDigits (value : Nat) : WritesWhole (Nat.toDigits 10 value) := by
  cases Nat.eq_zero_or_pos value with
  | inl zero =>
      rw [zero]
      exact .zero
  | inr positive =>
      have each : ∀ char ∈ Nat.toDigits 10 value, char.isDigit = true :=
        fun char => Nat.isDigit_of_mem_toDigits (by decide) (by decide)
      obtain ⟨first, others, same, notZero⟩ := toDigits_start positive
      rw [same, List.forall_mem_cons] at each
      rw [same]
      exact .digits each.1 notZero each.2

end Numbers

namespace Reader

variable {α β : Type} {reader : Reader α} {written : List Char} {value : α}

/-- A reader takes a value as it is written, whatever is blank in front of it and whatever ends it. -/
def Reads (reader : Reader α) (written : List Char) (value : α) : Prop :=
  ∀ ⦃gap rest : List Char⦄, Blanks gap → EndsNumber rest →
    reader.run (gap ++ (written ++ rest)) = .ok (value, rest)

theorem Reads.map (reads : reader.Reads written value) (change : α → β) :
    (reader.map change).Reads written (change value) := by
  intro gap rest blank ends
  exact map_eq_ok_iff.mpr ⟨value, reads blank ends, rfl⟩

theorem boolean_reads (value : Bool) : boolean.Reads (toString value).toList value := by
  intro gap rest blank ends
  cases value with
  | false =>
      have start : dropBlanks (gap ++ ('f' :: 'a' :: 'l' :: 's' :: 'e' :: rest)) = _ :=
        dropBlanks_append_cons blank (by decide) _
      show boolean.run (gap ++ ('f' :: 'a' :: 'l' :: 's' :: 'e' :: rest)) = _
      simp only [boolean, start]
      rfl
  | true =>
      have start : dropBlanks (gap ++ ('t' :: 'r' :: 'u' :: 'e' :: rest)) = _ :=
        dropBlanks_append_cons blank (by decide) _
      show boolean.run (gap ++ ('t' :: 'r' :: 'u' :: 'e' :: rest)) = _
      simp only [boolean, start]
      rfl

theorem natural_reads {number : Nat} (fits : number < Nat.pow 2 64) :
    natural.Reads (Nat.toDigits 10 number) number := by
  intro gap rest blank ends
  have whole := writesWhole_toDigits number
  have size : Nat.ofDigitChars 10 (Nat.toDigits 10 number) 0 = number :=
    Nat.ofDigitChars_ten_toDigits
  have read := whole.number (by rwa [size]) ends
  have each := whole.each
  rw [size] at read
  cases digits : Nat.toDigits 10 number with
  | nil => exact absurd digits Nat.toDigits_ne_nil
  | cons first others =>
      rw [digits] at read each
      have digit : first.isDigit = true := each first List.mem_cons_self
      have visible : isBlank first = false := isBlank_of_opensValue (by rw [opensValue, digit]; rfl)
      have start := dropBlanks_append_cons blank visible (others ++ rest)
      rw [List.cons_append] at read ⊢
      simp only [natural, start, digit, or_true, ↓reduceIte, read]

theorem optional_reads_none (reader : Reader α) :
    reader.optional.Reads ['n', 'u', 'l', 'l'] none := by
  intro gap rest blank ends
  have start : dropBlanks (gap ++ ('n' :: 'u' :: 'l' :: 'l' :: rest)) = _ :=
    dropBlanks_append_cons blank (by decide) _
  show reader.optional.run (gap ++ ('n' :: 'u' :: 'l' :: 'l' :: rest)) = _
  simp only [optional, start]
  rfl

/-- A value that is there is read as such if it does not begin like `null`. -/
theorem Reads.optional {first : Char} {others : List Char}
    (reads : reader.Reads (first :: others) value) (visible : isBlank first = false)
    (other : first ≠ 'n') : reader.optional.Reads (first :: others) (some value) := by
  intro gap rest blank ends
  have start := dropBlanks_append_cons blank visible (others ++ rest)
  have read := reads.map some (List.forall_mem_nil _) ends
  rw [List.nil_append, List.cons_append] at read
  rw [List.cons_append]
  simp only [Reader.optional, start]
  split
  · rename_i same
    exact absurd (List.cons.inj same).1 other
  · exact read

theorem choice_reads {choices : List (String × α)} {spelling : List Char} {name : String}
    (spelled : Spells spelling name.toList) (known : choices.lookup name = some value) :
    (choice choices).Reads ('"' :: (spelling ++ ['"'])) value := by
  intro gap rest blank ends
  have start := dropBlanks_append_cons blank (show isBlank '"' = false by decide)
    (spelling ++ '"' :: rest)
  rw [List.cons_append, List.append_assoc, List.singleton_append]
  simp only [choice, start]
  rw [spelled.string]
  show chosen choices (name.toList, rest) = .ok (value, rest)
  simp only [chosen, String.ofList_toList, known]

end Reader

section Values

def quotedName (name : String) : List Char := '"' :: (name.toList ++ ['"'])

theorem writesValue_quotedName {name : String} (plain : name.toList.all isPlain = true) :
    WritesValue (quotedName name) :=
  .scalar (.string (Spells.ofPlain plain).writes)

theorem writesValue_toDigits (number : Nat) : WritesValue (Nat.toDigits 10 number) := by
  have written := @WritesNumber.parts [] _ [] [] (by decide)
    (writesWhole_toDigits number) .without .without
  rw [List.nil_append, List.append_nil, List.append_nil] at written
  exact .scalar (.number written)

theorem writesValue_toString (value : Bool) : WritesValue (toString value).toList := by
  cases value with
  | false => exact .scalar (.word (by decide))
  | true => exact .scalar (.word (by decide))

theorem choice_reads_quotedName {α : Type} {choices : List (String × α)} {name : String} {value : α}
    (plain : name.toList.all isPlain = true) (known : choices.lookup name = some value) :
    (Reader.choice choices).Reads (quotedName name) value :=
  Reader.choice_reads (.ofPlain plain) known

theorem toList_toString (number : Nat) : (toString number).toList = Nat.toDigits 10 number := by
  simp [toString]

end Values

end SyntaxSpans.Json
