import SyntaxSpans.Json.Structure
import SyntaxSpans.Proofs.Json.Skipping

set_option autoImplicit false

namespace SyntaxSpans.Json

section Strings

variable {text rest left chars : List Char} {char : Char}

theorem eq_of_bridge {signs : List Char} (read : bridge signs text = .ok rest) :
    text = signs ++ rest := by
  fun_induction bridge signs text with
  | case1 text =>
      cases read
      rfl
  | case2 => cases read
  | case3 signs char text ih => rw [ih read, List.cons_append]
  | case4 => cases read

/-- Where the text is of no interest reading goes as far, or up to the second half of a character. -/
def Reaches (left rest : List Char) : Prop :=
  left = rest ∨ ∃ second low, left = '\\' :: 'u' :: second ∧ numbered false second = .ok (low, rest)

theorem reaches_of_numbered (read : numbered true text = .ok (char, rest)) :
    ∃ other left, numbered false text = .ok (other, left) ∧ Reaches left rest := by
  unfold numbered at read
  split at read
  · cases read
  · rename_i unit middle first
    refine ⟨_, _, numbered_alone first, ?_⟩
    simp only [Bool.not_true, Bool.false_eq_true, ↓reduceIte] at read
    split at read
    · cases read
    · split at read
      · split at read
        · cases read
        · rename_i second bridged
          split at read
          · cases read
          · rename_i low last other
            split at read
            · injection read with same
              injection same with _ same
              rw [← same]
              exact .inr ⟨second, _, eq_of_bridge bridged, numbered_alone other⟩
            · cases read
      · cases read
        exact .inl rfl

theorem reaches_of_escape (read : escape true text = .ok (char, rest)) :
    ∃ other left, escape false text = .ok (other, left) ∧ Reaches left rest := by
  cases text with
  | nil => cases read
  | cons letter text =>
      simp only [escape] at read ⊢
      split at read
      · cases read
        exact ⟨_, _, rfl, .inl rfl⟩
      · split at read
        · rename_i numbers
          rw [if_pos numbers]
          exact reaches_of_numbered read
        · cases read

/-- A string that is read ends where it ends for skipping. -/
theorem string_alike (read : string true text = .ok (chars, rest)) :
    ∃ other, string false text = .ok (other, rest) := by
  fun_induction string true text generalizing chars with
  | case1 => cases read
  | case2 =>
      cases read
      exact ⟨[], string_quote _⟩
  | case3 => cases read
  | case4 => cases read
  | case5 text meant left found inner last whole other ih =>
      cases read
      obtain ⟨others, onward⟩ := ih whole
      obtain ⟨first, middle, escaped, rfl | ⟨second, low, rfl, numbers⟩⟩ := reaches_of_escape found
      · exact ⟨_, string_escape escaped onward⟩
      · exact ⟨_, string_escape escaped (string_escape numbers onward)⟩
  | case6 => cases read
  | case7 => cases read
  | case8 char text quoted plain printable inner last read' ih =>
      cases read
      obtain ⟨others, onward⟩ := ih read'
      exact ⟨_, string_plain (Nat.le_of_not_lt printable) quoted plain onward⟩

end Strings

section Numbers

variable {minus : Bool} {significand : Nat} {shift : Int} {text rest : List Char} {value : Number}

/-- Not a whole number that is kept whole. -/
def Number.IsFloat : Number → Prop
  | .float _ => True
  | _ => False

theorem isFloat_of_float (read : float minus significand shift text = .ok (value, rest)) :
    value.IsFloat := by
  unfold float at read
  split at read
  · cases read
  · cases read
    trivial

theorem isFloat_of_exponent (read : exponent minus significand shift text = .ok (value, rest)) :
    value.IsFloat := by
  unfold exponent at read
  simp only at read
  split at read
  · cases read
  · split at read
    · cases read
    · split at read
      · exact isFloat_of_float read
      · split at read
        · cases read
        · exact isFloat_of_float read

theorem isFloat_of_floatEnd (read : floatEnd minus significand shift text = .ok (value, rest)) :
    value.IsFloat := by
  unfold floatEnd at read
  split at read
  · exact isFloat_of_exponent read
  · exact isFloat_of_exponent read
  · exact isFloat_of_float read

theorem isFloat_of_fraction (read : fraction minus significand shift text = .ok (value, rest)) :
    value.IsFloat := by
  unfold fraction at read
  split at read
  · cases read
  · exact isFloat_of_floatEnd read

/-- Digits that are taken into a number are digits that are left out in skipping. -/
theorem dropDigits_accumulate (limit start : Nat) (text : List Char) :
    dropDigits (accumulate limit start text).2 = dropDigits text := by
  fun_induction accumulate limit start text with
  | case1 start => rfl
  | case2 start char rest next fits ih =>
      rw [Bool.and_eq_true] at fits
      rw [ih, dropDigits, dropDigits, List.dropWhile_cons_of_pos fits.1]
  | case3 start char rest next stops => rfl

theorem dropDigits_of_countDigits (none : countDigits text = 0) : dropDigits text = text := by
  rw [countDigits, List.length_eq_zero_iff] at none
  have whole := List.takeWhile_append_dropWhile (p := Char.isDigit) (l := text)
  rwa [none, List.nil_append] at whole

theorem skipFraction_of_plain (point : ∀ after, text = '.' :: after → False)
    (small : ∀ after, text = 'e' :: after → False) (large : ∀ after, text = 'E' :: after → False) :
    skipFraction text = .ok text := by
  rw [skipFraction, skipExponent]
  · exact small
  · exact large
  · exact point

theorem skipUnsigned_cons {char : Char} (digit : char.isDigit = true)
    (lone : char = '0' → countDigits text = 0) :
    skipUnsigned (char :: text) = skipFraction (dropDigits text) := by
  rw [skipUnsigned, if_neg (by simp [digit])]
  by_cases zero : char = '0'
  · rw [if_pos zero, if_pos (lone zero), dropDigits_of_countDigits (lone zero)]
  · rw [if_neg zero]

/-- What is no float is written in digits alone, so skipping goes as far. -/
theorem skipUnsigned_of_whole (read : unsigned minus text = .ok (value, rest))
    (whole : ¬value.IsFloat) :
    skipUnsigned text = .ok rest ∧ ∃ size, value = .ofWhole minus size := by
  unfold unsigned at read
  split at read
  · cases read
  · rename_i char others
    split at read
    · cases read
    · rename_i digit
      rw [Bool.not_eq_true, Bool.not_eq_false'] at digit
      split at read
      · cases read
      · rename_i lone
        have left : dropDigits (accumulate significandLimit 0 (char :: others)).2 =
            dropDigits others := by
          rw [dropDigits_accumulate]
          exact List.dropWhile_cons_of_pos digit
        simp only [left] at read
        rw [skipUnsigned_cons digit fun zero => Decidable.not_not.mp fun some => lone ⟨zero, some⟩]
        split at read
        · exact absurd (isFloat_of_fraction read) whole
        · exact absurd (isFloat_of_exponent read) whole
        · exact absurd (isFloat_of_exponent read) whole
        · rename_i noPoint noSmall noLarge
          split at read
          · cases read
            exact ⟨skipFraction_of_plain noPoint noSmall noLarge, _, rfl⟩
          · exact absurd (isFloat_of_float read) whole

theorem ofWhole_ne_natural (size other : Nat) : Number.ofWhole true size ≠ .natural other := by
  unfold Number.ofWhole
  rw [if_neg (by decide)]
  split
  · exact Number.noConfusion
  · exact Number.noConfusion

theorem skipScalar_of_natural {char : Char} {size : Nat}
    (read : number (char :: text) = .ok (.natural size, rest)) (digit : char = '-' ∨ char.isDigit) :
    skipScalar (char :: text) = .ok rest := by
  rcases digit with rfl | digit
  · obtain ⟨-, other, same⟩ := skipUnsigned_of_whole read (fun float => float)
    exact absurd same.symm (ofWhole_ne_natural other size)
  · rw [skipScalar_digit digit]
    rw [number] at read
    · exact (skipUnsigned_of_whole read fun float => float).1
    · rintro _ ⟨⟩
      cases digit

end Numbers

namespace Reader

variable {α β : Type}

/-- Where this reader finds a value, it goes as far as skipping does. -/
def SkipsAlike (reader : Reader α) : Prop :=
  ∀ ⦃text rest : List Char⦄ ⦃value : α⦄, reader.run text = .ok (value, rest) →
    skip text = .ok rest

theorem map_eq_ok_iff {reader : Reader α} {change : α → β} {text rest : List Char} {value : β} :
    (reader.map change).run text = .ok (value, rest) ↔
      ∃ first, reader.run text = .ok (first, rest) ∧ change first = value := by
  have unfolded : (reader.map change).run text =
      (reader.run text).map fun read => (change read.1, read.2) := rfl
  rw [unfolded]
  cases reader.run text with
  | error failure => simp [Except.map]
  | ok pair =>
      simp only [Except.map, Except.ok.injEq, Prod.ext_iff]
      constructor
      · rintro ⟨rfl, rfl⟩
        exact ⟨pair.1, ⟨rfl, rfl⟩, rfl⟩
      · rintro ⟨first, ⟨rfl, rfl⟩, rfl⟩
        exact ⟨rfl, rfl⟩

theorem SkipsAlike.map {reader : Reader α} (alike : reader.SkipsAlike) (change : α → β) :
    (reader.map change).SkipsAlike := by
  intro text rest value read
  obtain ⟨first, inner, -⟩ := map_eq_ok_iff.mp read
  exact alike inner

theorem boolean_skipsAlike : boolean.SkipsAlike := by
  intro text rest value read
  simp only [boolean] at read
  split at read
  · rename_i start
    exact skip_of_scalar start (by decide) (by decide) (yielding_eq_ok read)
  · rename_i start
    exact skip_of_scalar start (by decide) (by decide) (yielding_eq_ok read)
  · cases read

theorem natural_skipsAlike : natural.SkipsAlike := by
  intro text rest value read
  simp only [natural] at read
  split at read
  · cases read
  · rename_i char others start
    split at read
    · rename_i digit
      split at read
      · cases read
      · rename_i size left number
        cases read
        refine skip_of_scalar start ?_ ?_ (skipScalar_of_natural number digit)
        · rintro rfl
          revert digit
          decide
        · rintro rfl
          revert digit
          decide
      · cases read
    · cases read

theorem optional_skipsAlike {reader : Reader α} (alike : reader.SkipsAlike) :
    reader.optional.SkipsAlike := by
  intro text rest value read
  simp only [optional] at read
  split at read
  · rename_i start
    exact skip_of_scalar start (by decide) (by decide) (yielding_eq_ok read)
  · rw [← skip_dropBlanks]
    exact alike.map some read

theorem skip_of_keyed {text rest last : List Char} {name : List Char × List Char}
    (start : dropBlanks text = '\x7b' :: rest) (named : key (dropBlanks rest) = .ok name)
    (read : keyed name.2 = .ok last) : skip text = .ok last := by
  unfold key at named
  split at named
  · cases named
  · rename_i others quote
    obtain ⟨other, skipped⟩ := string_alike named
    unfold keyed at read
    split at read
    · cases read
    · rename_i after ended
      have item : skipItem .object [] rest = skipValue [.object] after := by
        apply skipItem_of_key
        rw [skipKey_of_start quote skipped, ended]
      have opened : dropBlanks text = Enclosure.object.opening :: rest := start
      rw [skip, skipValue_of_opening opened, skipOpened_of_start quote, if_neg (by decide), item]
      split at read
      · rename_i letters begun
        split at read
        · cases read
        · rename_i behind null
          rw [skipValue_of_scalar begun (by decide) (by decide) null]
          split at read
          · cases read
          · rename_i char closed close
            split at read
            · rename_i brace
              cases read
              rw [brace] at close
              rw [skipOnward_of_closing close, skipOnward_nil]
            · cases read
      · cases read
  · cases named

theorem choice_skipsAlike (choices : List (String × α)) : (choice choices).SkipsAlike := by
  intro text rest value read
  simp only [choice] at read
  split at read
  · rename_i first start
    obtain ⟨pair, name, known⟩ := (bind_eq_ok _ _ _).mp read
    obtain ⟨other, skipped⟩ := string_alike name
    rw [chosen_rest known]
    refine skip_of_scalar start (by decide) (by decide) ?_
    rw [skipScalar, skipped]
    rfl
  · rename_i first start
    split at read
    · cases read
    · rename_i name named
      split at read
      · cases read
      · rename_i meant left known
        rw [chosen_rest known] at read
        exact skip_of_keyed start named (yielding_eq_ok read)
  · cases read

end Reader

end SyntaxSpans.Json
