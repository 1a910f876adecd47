import SyntaxSpans.Json.Scan

set_option autoImplicit false

/- Values that are of no interest. They have to be well-formed, but numbers may have any size and
strings may hold halves of characters. What is open around the place is kept in a list, so nesting
may be as deep as it likes. -/
namespace SyntaxSpans.Json

/-- Something that has been opened and not yet closed. -/
inductive Enclosure where
  | list
  | object
  deriving DecidableEq

namespace Enclosure

def closing : Enclosure → Char
  | list => ']'
  | object => '\x7d'

def unfinished : Enclosure → Problem
  | list => .unfinishedList
  | object => .unfinishedObject

def unended : Enclosure → Problem
  | list => .expectedListEnd
  | object => .expectedObjectEnd

end Enclosure

def skipDigits : List Char → Except Failure (List Char)
  | [] => .error (.after .invalidNumber [])
  | char :: rest =>
      if char.isDigit then .ok (dropDigits rest) else .error ⟨.invalidNumber, char :: rest, 1⟩

def skipExponent (text : List Char) : Except Failure (List Char) :=
  match text with
  | 'e' :: rest | 'E' :: rest => skipDigits (exponentSign rest).2
  | _ => .ok text

def skipFraction (text : List Char) : Except Failure (List Char) :=
  match text with
  | '.' :: rest => skipDigits rest >>= skipExponent
  | _ => skipExponent text

def skipUnsigned : List Char → Except Failure (List Char)
  | [] => .error (.after .invalidNumber [])
  | char :: rest =>
      if !char.isDigit then .error ⟨.invalidNumber, char :: rest, 1⟩
      else if char = '0' then
        if countDigits rest = 0 then skipFraction rest else .error (.upon .invalidNumber rest)
      else skipFraction (dropDigits rest)

/-- Skips a value that holds no others. -/
def skipScalar : List Char → Except Failure (List Char)
  | [] => .error (.upon .unfinishedValue [])
  | 'n' :: rest => word ['u', 'l', 'l'] rest
  | 't' :: rest => word ['r', 'u', 'e'] rest
  | 'f' :: rest => word ['a', 'l', 's', 'e'] rest
  | '"' :: rest => (string false rest).map (·.2)
  | '-' :: rest => skipUnsigned rest
  | char :: rest =>
      if char.isDigit then skipUnsigned (char :: rest)
      else .error (.upon .expectedValue (char :: rest))

def colon (text : List Char) : Except Failure (List Char) :=
  match dropBlanks text with
  | [] => .error (.upon .unfinishedObject [])
  | char :: rest => if char = ':' then .ok rest else .error (.upon .expectedColon (char :: rest))

def skipKey (text : List Char) : Except Failure (List Char) :=
  match dropBlanks text with
  | [] => .error (.upon .unfinishedObject [])
  | char :: rest =>
      if char = '"' then (string false rest).map (·.2) >>= colon
      else .error (.upon .keyNotText (char :: rest))

theorem skipString_length {text rest : List Char}
    (read : (string false text).map (·.2) = .ok rest) : rest.length < text.length := by
  cases found : string false text with
  | error failure => rw [found] at read; cases read
  | ok pair =>
      rw [found] at read
      cases read
      exact string_length found

theorem skipDigits_length {text rest : List Char} (read : skipDigits text = .ok rest) :
    rest.length < text.length := by
  unfold skipDigits at read
  split at read
  · cases read
  · split at read
    · cases read
      exact Nat.lt_succ_of_le (dropDigits_length_le _)
    · cases read

theorem skipExponent_length_le {text rest : List Char} (read : skipExponent text = .ok rest) :
    rest.length ≤ text.length := by
  unfold skipExponent at read
  split at read
  · rename_i after
    have shorter := skipDigits_length read
    have signed := exponentSign_length_le after
    simp only [List.length_cons]
    omega
  · rename_i after
    have shorter := skipDigits_length read
    have signed := exponentSign_length_le after
    simp only [List.length_cons]
    omega
  · cases read
    exact Nat.le_refl _

theorem skipFraction_length_le {text rest : List Char} (read : skipFraction text = .ok rest) :
    rest.length ≤ text.length := by
  unfold skipFraction at read
  split at read
  · obtain ⟨middle, digits, exponent⟩ := (bind_eq_ok _ _ _).mp read
    have shorter := skipDigits_length digits
    have shortest := skipExponent_length_le exponent
    simp only [List.length_cons]
    omega
  · exact skipExponent_length_le read

theorem skipUnsigned_length {text rest : List Char} (read : skipUnsigned text = .ok rest) :
    rest.length < text.length := by
  unfold skipUnsigned at read
  split at read
  · cases read
  · rename_i char after
    split at read
    · cases read
    · split at read
      · split at read
        · exact Nat.lt_succ_of_le (skipFraction_length_le read)
        · cases read
      · have shorter := skipFraction_length_le read
        have digits := dropDigits_length_le after
        exact Nat.lt_succ_of_le (Nat.le_trans shorter digits)

theorem skipScalar_length {text rest : List Char} (read : skipScalar text = .ok rest) :
    rest.length < text.length := by
  unfold skipScalar at read
  split at read
  · cases read
  · exact Nat.lt_succ_of_le (word_length_le read)
  · exact Nat.lt_succ_of_le (word_length_le read)
  · exact Nat.lt_succ_of_le (word_length_le read)
  · exact Nat.lt_succ_of_lt (skipString_length read)
  · exact Nat.lt_succ_of_lt (skipUnsigned_length read)
  · split at read
    · exact skipUnsigned_length read
    · cases read

theorem colon_length {text rest : List Char} (read : colon text = .ok rest) :
    rest.length < text.length := by
  have blanks := dropBlanks_length_le text
  unfold colon at read
  split at read
  · cases read
  · rename_i char after start
    rw [start, List.length_cons] at blanks
    split at read
    · cases read
      exact blanks
    · cases read

theorem skipKey_length {text rest : List Char} (read : skipKey text = .ok rest) :
    rest.length < text.length := by
  have blanks := dropBlanks_length_le text
  unfold skipKey at read
  split at read
  · cases read
  · rename_i char after start
    rw [start, List.length_cons] at blanks
    split at read
    · obtain ⟨middle, key, ended⟩ := (bind_eq_ok _ _ _).mp read
      have shorter := skipString_length key
      have shortest := colon_length ended
      omega
    · cases read

theorem length_of_dropBlanks {text rest : List Char} {char : Char}
    (start : dropBlanks text = char :: rest) : rest.length < text.length := by
  have blanks := dropBlanks_length_le text
  rw [start, List.length_cons] at blanks
  exact blanks

mutual

/-- Skips a value and then whatever is open around it. -/
def skipValue (around : List Enclosure) (text : List Char) : Except Failure (List Char) :=
  match _start : dropBlanks text with
  | [] => .error (.upon .unfinishedValue [])
  | char :: rest =>
      if char = '[' then skipOpened .list around rest
      else if char = '\x7b' then skipOpened .object around rest
      else
        match _read : skipScalar (char :: rest) with
        | .error failure => .error failure
        | .ok left => skipOnward around left
termination_by (text.length, 0)
decreasing_by
  · exact Prod.Lex.left _ _ (length_of_dropBlanks _start)
  · exact Prod.Lex.left _ _ (length_of_dropBlanks _start)
  · have first := length_of_dropBlanks _start
    have second := skipScalar_length _read
    exact Prod.Lex.left _ _ (by simp only [List.length_cons] at second; omega)

/-- Goes on after a bracket has been opened. -/
def skipOpened (inner : Enclosure) (around : List Enclosure) (text : List Char) :
    Except Failure (List Char) :=
  match _start : dropBlanks text with
  | [] => .error (.upon inner.unfinished [])
  | char :: rest =>
      if char = inner.closing then skipOnward around rest else skipItem inner around text
termination_by (text.length, 2)
decreasing_by
  · exact Prod.Lex.left _ _ (length_of_dropBlanks _start)
  · exact Prod.Lex.right _ (by decide)

/-- Goes on where an item has to follow. -/
def skipItem (inner : Enclosure) (around : List Enclosure) (text : List Char) :
    Except Failure (List Char) :=
  match inner with
  | .list => skipValue (.list :: around) text
  | .object =>
      match _read : skipKey text with
      | .error failure => .error failure
      | .ok rest => skipValue (.object :: around) rest
termination_by (text.length, 1)
decreasing_by
  · exact Prod.Lex.right _ (by decide)
  · exact Prod.Lex.left _ _ (skipKey_length _read)

/-- Goes on after a value. -/
def skipOnward (around : List Enclosure) (text : List Char) : Except Failure (List Char) :=
  match around with
  | [] => .ok text
  | inner :: outer =>
      match _start : dropBlanks text with
      | [] => .error (.upon inner.unfinished [])
      | char :: rest =>
          if char = ',' then skipItem inner outer rest
          else if char = inner.closing then skipOnward outer rest
          else .error (.upon inner.unended (char :: rest))
termination_by (text.length, 0)
decreasing_by
  · exact Prod.Lex.left _ _ (length_of_dropBlanks _start)
  · exact Prod.Lex.left _ _ (length_of_dropBlanks _start)

end

mutual

theorem skipValue_length {around : List Enclosure} {text last : List Char}
    (read : skipValue around text = .ok last) : last.length < text.length := by
  rw [skipValue] at read
  split at read
  · cases read
  · rename_i char rest start
    have shorter := length_of_dropBlanks start
    split at read
    · exact Nat.lt_of_le_of_lt (skipOpened_length_le read) shorter
    · split at read
      · exact Nat.lt_of_le_of_lt (skipOpened_length_le read) shorter
      · split at read
        · cases read
        · rename_i left scalar
          have inside : left.length < rest.length + 1 := skipScalar_length scalar
          have onward := skipOnward_length_le read
          omega
termination_by (text.length, 0)
decreasing_by
  · exact Prod.Lex.left _ _ (by omega)
  · exact Prod.Lex.left _ _ shorter
  · exact Prod.Lex.left _ _ shorter

theorem skipOpened_length_le {inner : Enclosure} {around : List Enclosure} {text last : List Char}
    (read : skipOpened inner around text = .ok last) : last.length ≤ text.length := by
  rw [skipOpened] at read
  split at read
  · cases read
  · rename_i char rest start
    have shorter := length_of_dropBlanks start
    split at read
    · have onward := skipOnward_length_le read
      omega
    · exact Nat.le_of_lt (skipItem_length read)
termination_by (text.length, 2)
decreasing_by
  · exact Prod.Lex.right _ (by decide)
  · exact Prod.Lex.left _ _ shorter

theorem skipItem_length {inner : Enclosure} {around : List Enclosure} {text last : List Char}
    (read : skipItem inner around text = .ok last) : last.length < text.length := by
  rw [skipItem.eq_def] at read
  cases inner with
  | list => exact skipValue_length read
  | object =>
      simp only at read
      split at read
      · cases read
      · rename_i rest key
        have shorter := skipKey_length key
        exact Nat.lt_trans (skipValue_length read) shorter
termination_by (text.length, 1)
decreasing_by
  · exact Prod.Lex.right _ (by decide)
  · exact Prod.Lex.left _ _ shorter

theorem skipOnward_length_le {around : List Enclosure} {text last : List Char}
    (read : skipOnward around text = .ok last) : last.length ≤ text.length := by
  rw [skipOnward.eq_def] at read
  cases around with
  | nil =>
      cases read
      exact Nat.le_refl _
  | cons inner outer =>
      simp only at read
      split at read
      · cases read
      · rename_i char rest start
        have shorter := length_of_dropBlanks start
        split at read
        · have item := skipItem_length read
          omega
        · split at read
          · have onward := skipOnward_length_le read
            omega
          · cases read
termination_by (text.length, 0)
decreasing_by
  · exact Prod.Lex.left _ _ shorter
  · exact Prod.Lex.left _ _ shorter

end

/-- Skips the value in front. -/
def skip (text : List Char) : Except Failure (List Char) := skipValue [] text

theorem skip_length {text rest : List Char} (read : skip text = .ok rest) :
    rest.length < text.length := skipValue_length read

end SyntaxSpans.Json
