import SyntaxSpans.Text.Utf8
import Mathlib.Tactic.IntervalCases

set_option autoImplicit false

namespace SyntaxSpans.Utf8

section Encoding

variable {number : Nat}

theorem toNat_ofNat (valid : number.isValidChar) : (Char.ofNat number).val.toNat = number := by
  rw [Char.ofNat, dif_pos valid]
  rfl

theorem encode_single (small : number < 0x80) :
    String.utf8EncodeChar (Char.ofNat number) = [UInt8.ofNat number] := by
  have valid : number.isValidChar := .inl (by omega)
  unfold String.utf8EncodeChar
  dsimp only
  rw [toNat_ofNat valid, if_pos (by omega)]

theorem encode_double (large : 0x80 ≤ number) (small : number < 0x800) :
    String.utf8EncodeChar (Char.ofNat number) =
      [UInt8.ofNat (0xC0 + number / 64), UInt8.ofNat (0x80 + number % 64)] := by
  have valid : number.isValidChar := .inl (by omega)
  have first : number / 64 % 32 + 0xC0 = 0xC0 + number / 64 := by omega
  unfold String.utf8EncodeChar
  dsimp only
  rw [toNat_ofNat valid, if_neg (by omega), if_pos (by omega), first, Nat.add_comm 0x80]

theorem encode_triple (valid : number.isValidChar) (large : 0x800 ≤ number)
    (small : number < 0x10000) :
    String.utf8EncodeChar (Char.ofNat number) =
      [UInt8.ofNat (0xE0 + number / 4096), UInt8.ofNat (0x80 + number / 64 % 64),
        UInt8.ofNat (0x80 + number % 64)] := by
  have first : number / 4096 % 16 + 0xE0 = 0xE0 + number / 4096 := by omega
  unfold String.utf8EncodeChar
  dsimp only
  rw [toNat_ofNat valid, if_neg (by omega), if_neg (by omega), if_pos (by omega), first,
    Nat.add_comm 0x80, Nat.add_comm 0x80]

theorem encode_quadruple (valid : number.isValidChar) (large : 0x10000 ≤ number) :
    String.utf8EncodeChar (Char.ofNat number) =
      [UInt8.ofNat (0xF0 + number / 262144), UInt8.ofNat (0x80 + number / 4096 % 64),
        UInt8.ofNat (0x80 + number / 64 % 64), UInt8.ofNat (0x80 + number % 64)] := by
  have bound : number < 0x110000 := by
    rcases valid with low | high
    · omega
    · exact high.2
  have first : number / 262144 % 8 + 0xF0 = 0xF0 + number / 262144 := by omega
  unfold String.utf8EncodeChar
  dsimp only
  rw [toNat_ofNat valid, if_neg (by omega), if_neg (by omega), if_neg (by omega), first,
    Nat.add_comm 0x80, Nat.add_comm 0x80, Nat.add_comm 0x80]

theorem eq_ofNat {byte : UInt8} (same : byte.toNat = number) : byte = UInt8.ofNat number := by
  rw [← same, UInt8.ofNat_toNat]

theorem toNat_byte (small : number < 256) : (UInt8.ofNat number).toNat = number := by
  rw [UInt8.toNat_ofNat', Nat.mod_eq_of_lt small]

end Encoding

/-- Bytes that finish a character from where a reader stands, and its number. -/
inductive Finishes : Place → Bytes → Nat → Prop
  | last {low high value number : Nat} {byte : UInt8} (above : low ≤ byte.toNat)
      (below : byte.toNat ≤ high) (read : value * 64 + (byte.toNat - 0x80) = number) :
      Finishes (.inside 0 low high value) [byte] number
  | more {owed low high value number : Nat} {byte : UInt8} {rest : Bytes}
      (above : low ≤ byte.toNat) (below : byte.toNat ≤ high)
      (onward : Finishes (.inside owed 0x80 0xBF (value * 64 + (byte.toNat - 0x80))) rest number) :
      Finishes (.inside (owed + 1) low high value) (byte :: rest) number

/-- Bytes that are read as the character of a number. -/
inductive Spells : Bytes → Nat → Prop
  | single {byte : UInt8} (small : byte.toNat ≤ 0x7F) : Spells [byte] byte.toNat
  | longer {byte : UInt8} {place : Place} {rest : Bytes} {number : Nat}
      (opens : lead byte.toNat = ([], place)) (finishes : Finishes place rest number) :
      Spells (byte :: rest) number

section Reading

variable {place : Place} {bytes : Bytes} {number : Nat}

theorem Finishes.decodeFrom (finishes : Finishes place bytes number) (rest : Bytes) :
    decodeFrom place (bytes ++ rest) = Char.ofNat number :: decode rest := by
  induction finishes with
  | last above below read =>
      simp only [List.cons_append, List.nil_append, Utf8.decodeFrom, step, above, below, and_self,
        ↓reduceIte, read]
      rfl
  | more above below onward ih =>
      simp only [List.cons_append, Utf8.decodeFrom, step, above, below, and_self, ↓reduceIte,
        List.nil_append]
      exact ih

/-- Bytes that spell a character are read as it, whatever follows. -/
theorem Spells.decode (spells : Spells bytes number) (rest : Bytes) :
    decode (bytes ++ rest) = Char.ofNat number :: decode rest := by
  cases spells with
  | single small =>
      simp only [Utf8.decode, List.cons_append, List.nil_append, decodeFrom, step, lead, small,
        ↓reduceIte]
  | longer opens finishes =>
      have onward := finishes.decodeFrom rest
      simp only [Utf8.decode, List.cons_append, decodeFrom, step, opens, List.nil_append]
      exact onward

theorem finishes_or_replaces (owed low high value : Nat) (bytes : Bytes) :
    (∃ front rest number, bytes = front ++ rest ∧
      Finishes (.inside owed low high value) front number) ∨
    ∃ text, decodeFrom (.inside owed low high value) bytes = replacement :: text := by
  induction bytes generalizing owed low high value with
  | nil => exact .inr ⟨[], rfl⟩
  | cons byte rest ih =>
      by_cases fits : low ≤ byte.toNat ∧ byte.toNat ≤ high
      · cases owed with
        | zero => exact .inl ⟨[byte], rest, _, rfl, .last fits.1 fits.2 rfl⟩
        | succ owed =>
            rcases ih owed 0x80 0xBF (value * 64 + (byte.toNat - 0x80)) with
              ⟨front, last, number, rfl, finishes⟩ | ⟨text, broken⟩
            · exact .inl ⟨byte :: front, last, number, rfl, .more fits.1 fits.2 finishes⟩
            · refine .inr ⟨text, ?_⟩
              simp only [decodeFrom, step, fits, and_self, ↓reduceIte, List.nil_append]
              exact broken
      · refine .inr ⟨(lead byte.toNat).1 ++ decodeFrom (lead byte.toNat).2 rest, ?_⟩
        simp only [decodeFrom, step, fits, ↓reduceIte, List.cons_append]

/-- A first byte is read as a character at once, as a replacement at once, or as the beginning of a
longer character. -/
theorem lead_cases (byte : Nat) :
    byte ≤ 0x7F ∨ lead byte = ([replacement], .between) ∨
      ∃ owed low high value, lead byte = ([], .inside owed low high value) := by
  unfold lead
  by_cases small : byte ≤ 0x7F
  · exact .inl small
  · rw [if_neg small]
    right
    repeat' split
    all_goals first
      | exact .inl rfl
      | exact .inr ⟨_, _, _, _, rfl⟩

/-- Bytes begin with those of a character or with a replacement. -/
theorem spells_or_replaces (byte : UInt8) (bytes : Bytes) :
    (∃ front rest number, byte :: bytes = front ++ rest ∧ Spells front number) ∨
      ∃ text, decode (byte :: bytes) = replacement :: text := by
  rcases lead_cases byte.toNat with small | replaced | ⟨owed, low, high, value, opens⟩
  · exact .inl ⟨[byte], bytes, _, rfl, .single small⟩
  · refine .inr ⟨decodeFrom .between bytes, ?_⟩
    simp only [decode, decodeFrom, step, replaced, List.cons_append, List.nil_append]
  · rcases finishes_or_replaces owed low high value bytes with
      ⟨front, rest, number, rfl, finishes⟩ | ⟨text, broken⟩
    · exact .inl ⟨byte :: front, rest, number, rfl, .longer opens finishes⟩
    · refine .inr ⟨text, ?_⟩
      simp only [decode, decodeFrom, step, opens, List.nil_append]
      exact broken

end Reading

/-! ### Spelling and encoding -/

section Correspondence

variable {bytes : Bytes} {number : Nat}

/-- The first bytes of longer characters, and where a reader stands after each. -/
theorem lead_eq_nil_iff {byte : Nat} {place : Place} :
    lead byte = ([], place) ↔
      (∃ value, 2 ≤ value ∧ value < 32 ∧ byte = 0xC0 + value ∧
        place = .inside 0 0x80 0xBF value) ∨
      (∃ value, value < 16 ∧ byte = 0xE0 + value ∧
        place = .inside 1 (if value = 0 then 0xA0 else 0x80)
          (if value = 0xD then 0x9F else 0xBF) value) ∨
      (∃ value, value ≤ 4 ∧ byte = 0xF0 + value ∧
        place = .inside 2 (if value = 0 then 0x90 else 0x80)
          (if value = 4 then 0x8F else 0xBF) value) := by
  constructor
  · intro opens
    unfold lead at opens
    split at opens
    · cases opens
    split at opens
    · cases opens
    split at opens
    · cases opens
      exact .inl ⟨byte - 0xC0, by omega, by omega, by omega, rfl⟩
    split at opens
    · cases opens
      exact .inr (.inl ⟨0, by omega, by omega, rfl⟩)
    split at opens
    · cases opens
      exact .inr (.inl ⟨0xD, by omega, by omega, rfl⟩)
    split at opens
    · cases opens
      refine .inr (.inl ⟨byte - 0xE0, by omega, by omega, ?_⟩)
      rw [if_neg (by omega), if_neg (by omega)]
    split at opens
    · cases opens
      exact .inr (.inr ⟨0, by omega, by omega, rfl⟩)
    split at opens
    · cases opens
      refine .inr (.inr ⟨byte - 0xF0, by omega, by omega, ?_⟩)
      rw [if_neg (by omega), if_neg (by omega)]
    split at opens
    · cases opens
      exact .inr (.inr ⟨4, by omega, by omega, rfl⟩)
    · cases opens
  · rintro (⟨value, low, high, rfl, rfl⟩ | ⟨value, high, rfl, rfl⟩ | ⟨value, high, rfl, rfl⟩)
    · unfold lead
      rw [if_neg (by omega), if_neg (by omega), if_pos (by omega), Nat.add_sub_cancel_left]
    · interval_cases value <;> rfl
    · interval_cases value <;> rfl

theorem Spells.encode (spells : Spells bytes number) :
    number.isValidChar ∧ bytes = String.utf8EncodeChar (Char.ofNat number) := by
  cases spells with
  | single small =>
      refine ⟨.inl (by omega), ?_⟩
      rw [encode_single (by omega), ← eq_ofNat rfl]
  | @longer first _ _ _ opens finishes =>
      rcases lead_eq_nil_iff.mp opens with
        ⟨value, least, most, opening, rfl⟩ | ⟨value, most, opening, rfl⟩ |
          ⟨value, most, opening, rfl⟩
      case inl =>
        cases finishes with
        | @last _ _ _ _ second above below read =>
            refine ⟨.inl (by omega), ?_⟩
            rw [encode_double (by omega) (by omega), List.cons.injEq, List.cons.injEq]
            exact ⟨eq_ofNat (by omega), eq_ofNat (by omega), rfl⟩
      case inr.inl =>
        cases finishes with
        | @more _ _ _ _ _ second _ above below onward =>
            cases onward with
            | @last _ _ _ _ third lower upper read =>
                have start : 0x80 ≤ second.toNat ∧ second.toNat ≤ 0xBF := by
                  split at above <;> split at below <;> omega
                have large : 0x800 ≤ number := by split at above <;> omega
                have small : number < 0x10000 := by omega
                have valid : number.isValidChar := by
                  unfold Nat.isValidChar
                  split at below <;> omega
                refine ⟨valid, ?_⟩
                rw [encode_triple valid large small, List.cons.injEq, List.cons.injEq,
                  List.cons.injEq]
                exact ⟨eq_ofNat (by omega), eq_ofNat (by omega), eq_ofNat (by omega), rfl⟩
      case inr.inr =>
        cases finishes with
        | @more _ _ _ _ _ second _ above below onward =>
            cases onward with
            | @more _ _ _ _ _ third _ lower upper last =>
                cases last with
                | @last _ _ _ _ fourth bottom top read =>
                    have start : 0x80 ≤ second.toNat ∧ second.toNat ≤ 0xBF := by
                      split at above <;> split at below <;> omega
                    have large : 0x10000 ≤ number := by split at above <;> omega
                    have valid : number.isValidChar := by
                      refine .inr ⟨by omega, ?_⟩
                      split at below <;> omega
                    refine ⟨valid, ?_⟩
                    rw [encode_quadruple valid large, List.cons.injEq, List.cons.injEq,
                      List.cons.injEq, List.cons.injEq]
                    exact ⟨eq_ofNat (by omega), eq_ofNat (by omega), eq_ofNat (by omega),
                      eq_ofNat (by omega), rfl⟩

theorem spells_double (large : 0x80 ≤ number) (small : number < 0x800) :
    Spells (String.utf8EncodeChar (Char.ofNat number)) number := by
  rw [encode_double large small]
  have first := toNat_byte (show 0xC0 + number / 64 < 256 by omega)
  have second := toNat_byte (show 0x80 + number % 64 < 256 by omega)
  refine .longer (lead_eq_nil_iff.mpr (.inl ⟨number / 64, by omega, by omega, first, rfl⟩)) ?_
  refine .last ?_ ?_ ?_ <;> omega

theorem spells_triple (valid : number.isValidChar) (large : 0x800 ≤ number)
    (small : number < 0x10000) : Spells (String.utf8EncodeChar (Char.ofNat number)) number := by
  rw [encode_triple valid large small]
  unfold Nat.isValidChar at valid
  have first := toNat_byte (show 0xE0 + number / 4096 < 256 by omega)
  have second := toNat_byte (show 0x80 + number / 64 % 64 < 256 by omega)
  have third := toNat_byte (show 0x80 + number % 64 < 256 by omega)
  refine .longer (lead_eq_nil_iff.mpr (.inr (.inl ⟨number / 4096, by omega, first, rfl⟩))) ?_
  refine .more ?_ ?_ (.last ?_ ?_ ?_)
  · split <;> omega
  · split <;> omega
  all_goals omega

theorem spells_quadruple (valid : number.isValidChar) (large : 0x10000 ≤ number) :
    Spells (String.utf8EncodeChar (Char.ofNat number)) number := by
  rw [encode_quadruple valid large]
  unfold Nat.isValidChar at valid
  have first := toNat_byte (show 0xF0 + number / 262144 < 256 by omega)
  have second := toNat_byte (show 0x80 + number / 4096 % 64 < 256 by omega)
  have third := toNat_byte (show 0x80 + number / 64 % 64 < 256 by omega)
  have fourth := toNat_byte (show 0x80 + number % 64 < 256 by omega)
  refine .longer (lead_eq_nil_iff.mpr (.inr (.inr ⟨number / 262144, by omega, first, rfl⟩))) ?_
  refine .more ?_ ?_ (.more ?_ ?_ (.last ?_ ?_ ?_))
  · split <;> omega
  · split <;> omega
  all_goals omega

theorem spells_single (small : number < 0x80) :
    Spells (String.utf8EncodeChar (Char.ofNat number)) number := by
  rw [encode_single small]
  have byte := toNat_byte (show number < 256 by omega)
  have spelled := Spells.single (show (UInt8.ofNat number).toNat ≤ 0x7F by omega)
  rw [byte] at spelled
  exact spelled

theorem spells_encode (char : Char) : Spells (String.utf8EncodeChar char) char.toNat := by
  have valid : char.toNat.isValidChar := char.valid
  have written : Spells (String.utf8EncodeChar (Char.ofNat char.toNat)) char.toNat := by
    by_cases single : char.toNat < 0x80
    · exact spells_single single
    by_cases double : char.toNat < 0x800
    · exact spells_double (by omega) double
    by_cases triple : char.toNat < 0x10000
    · exact spells_triple valid (by omega) triple
    · exact spells_quadruple valid (by omega)
  rw [Char.ofNat_toNat] at written
  exact written

end Correspondence

/-! ### Reading what was written -/

theorem decode_char (char : Char) (rest : Bytes) :
    decode (String.utf8EncodeChar char ++ rest) = char :: decode rest := by
  rw [(spells_encode char).decode rest, Char.ofNat_toNat]

/-- Reading undoes writing. -/
theorem decode_encode (text : List Char) : decode (encode text) = text := by
  induction text with
  | nil => rfl
  | cons char rest ih => rw [encode_cons, decode_char, ih]

/-- Any character but the replacement is read from its own bytes only. -/
theorem decode_eq_cons {bytes : Bytes} {char : Char} {text : List Char}
    (read : decode bytes = char :: text) (sound : char ≠ replacement) :
    ∃ rest, bytes = String.utf8EncodeChar char ++ rest ∧ decode rest = text := by
  cases bytes with
  | nil => cases read
  | cons byte bytes =>
      rcases spells_or_replaces byte bytes with
        ⟨front, rest, number, whole, spells⟩ | ⟨others, replaced⟩
      · have onward := spells.decode rest
        rw [← whole, read, List.cons.injEq] at onward
        refine ⟨rest, ?_, onward.2.symm⟩
        rw [whole, onward.1, ← spells.encode.2]
      · rw [read, List.cons.injEq] at replaced
        exact absurd replaced.1 sound

/-- Well-formed bytes are the encodings. -/
theorem isWellFormed_iff (bytes : Bytes) :
    isWellFormed bytes = true ↔ ∃ text, bytes = encode text := by
  unfold isWellFormed
  rw [beq_iff_eq]
  constructor
  · intro same
    exact ⟨decode bytes, same.symm⟩
  · rintro ⟨text, rfl⟩
    rw [decode_encode]

/-- Bytes have a text exactly if they are its encoding. -/
theorem decode?_eq_some_iff (bytes : Bytes) (text : List Char) :
    decode? bytes = some text ↔ bytes = encode text := by
  unfold decode?
  constructor
  · intro read
    split at read
    · rename_i sound
      obtain ⟨written, rfl⟩ := (isWellFormed_iff bytes).mp sound
      rw [decode_encode, Option.some.injEq] at read
      rw [read]
    · cases read
  · rintro rfl
    rw [if_pos ((isWellFormed_iff _).mpr ⟨text, rfl⟩), decode_encode]

/-! ### The mark in front -/

def markBytes : Bytes := [0xEF, 0xBB, 0xBF]

/-- How many bytes the mark in front takes: three if it is there. -/
def markSize (bytes : Bytes) : Nat := if markBytes.isPrefixOf bytes then markBytes.length else 0

theorem markBytes_eq : markBytes = String.utf8EncodeChar '\uFEFF' := by decide

/-- A text begins with a mark exactly if its bytes do, so it comes to the same whether the mark is
dropped before reading or after. -/
theorem dropMark_decode (bytes : Bytes) :
    dropMark (decode bytes) = decode (bytes.drop (markSize bytes)) := by
  unfold markSize
  split
  · rename_i marked
    obtain ⟨rest, rfl⟩ := List.isPrefixOf_iff_prefix.mp marked
    rw [List.drop_left, markBytes_eq, decode_char]
    rfl
  · rename_i plain
    rw [List.drop_zero]
    cases read : decode bytes with
    | nil => rfl
    | cons char text =>
        refine if_neg ?_
        rintro rfl
        obtain ⟨rest, rfl, _⟩ := decode_eq_cons read (by decide)
        refine plain (List.isPrefixOf_iff_prefix.mpr ?_)
        rw [markBytes_eq]
        exact List.prefix_append _ _

end SyntaxSpans.Utf8
