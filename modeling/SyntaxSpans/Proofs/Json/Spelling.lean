import SyntaxSpans.Json.Structure
import SyntaxSpans.Text.Utf16

set_option autoImplicit false

namespace SyntaxSpans.Json

/-- The letters that may follow a backslash, and the character each stands for. -/
def shortEscapes : List (Char × Char) :=
  [('"', '"'), ('\\', '\\'), ('/', '/'), ('b', '\x08'), ('f', '\x0c'), ('n', '\n'), ('r', '\r'),
    ('t', '\t')]

/-- A hexadecimal digit and its value; letters are small or capital. -/
def IsHexDigit (digit : Char) (value : Nat) : Prop :=
  value < 16 ∧ (digit = Nat.digitChar value ∨ digit = (Nat.digitChar value).toUpper)

inductive SpellsUnit : List Char → UInt16 → Prop
  | digits {a b c d : Char} {i j k l : Nat} {unit : UInt16} (first : IsHexDigit a i)
      (second : IsHexDigit b j) (third : IsHexDigit c k) (fourth : IsHexDigit d l)
      (value : unit.toNat = ((i * 16 + j) * 16 + k) * 16 + l) : SpellsUnit [a, b, c, d] unit

/-- How a text may be written between quotes. -/
inductive Spells : List Char → List Char → Prop
  | nil : Spells [] []
  | plain {char : Char} {spelling content : List Char} (printable : 0x20 ≤ char.toNat)
      (notQuote : char ≠ '"') (notBackslash : char ≠ '\\') (rest : Spells spelling content) :
      Spells (char :: spelling) (char :: content)
  | short {letter char : Char} {spelling content : List Char}
      (known : (letter, char) ∈ shortEscapes) (rest : Spells spelling content) :
      Spells ('\\' :: letter :: spelling) (char :: content)
  | single {char : Char} {digits spelling content : List Char} {unit : UInt16}
      (units : Utf16.encodeChar char = [unit]) (spelled : SpellsUnit digits unit)
      (rest : Spells spelling content) :
      Spells ('\\' :: 'u' :: (digits ++ spelling)) (char :: content)
  | pair {char : Char} {digits others spelling content : List Char} {leading trailing : UInt16}
      (units : Utf16.encodeChar char = [leading, trailing]) (first : SpellsUnit digits leading)
      (second : SpellsUnit others trailing) (rest : Spells spelling content) :
      Spells ('\\' :: 'u' :: (digits ++ '\\' :: 'u' :: (others ++ spelling))) (char :: content)

def Blanks (text : List Char) : Prop := ∀ char ∈ text, char ∈ [' ', '\n', '\t', '\r']

instance (text : List Char) : Decidable (Blanks text) :=
  List.decidableBAll (fun char => char ∈ [' ', '\n', '\t', '\r']) text

/-- How a list of strings may go on after one of them. -/
inductive SpellsRest : List Char → List (List Char) → Prop
  | close {blanks : List Char} (blank : Blanks blanks) : SpellsRest (blanks ++ [']']) []
  | next {before after spelling content rest : List Char} {contents : List (List Char)}
      (blank : Blanks before) (blank' : Blanks after) (spelled : Spells spelling content)
      (others : SpellsRest rest contents) :
      SpellsRest (before ++ ',' :: (after ++ '"' :: (spelling ++ '"' :: rest)))
        (content :: contents)

/-- How a list of strings may be written. -/
inductive SpellsList : List Char → List (List Char) → Prop
  | empty {front inner back : List Char} (blank : Blanks front) (blank' : Blanks inner)
      (blank'' : Blanks back) : SpellsList (front ++ '[' :: (inner ++ ']' :: back)) []
  | filled {front inner spelling content rest back : List Char} {contents : List (List Char)}
      (blank : Blanks front) (blank' : Blanks inner) (spelled : Spells spelling content)
      (others : SpellsRest rest contents) (blank'' : Blanks back) :
      SpellsList (front ++ '[' :: (inner ++ '"' :: (spelling ++ '"' :: (rest ++ back))))
        (content :: contents)

def isPlain (char : Char) : Bool := 0x20 ≤ char.toNat && char != '"' && char != '\\'

/-- What needs no escape may be written as it is. -/
theorem Spells.ofPlain {text : List Char} (plain : text.all isPlain = true) : Spells text text := by
  induction text with
  | nil => exact .nil
  | cons char rest ih =>
      rw [List.all_cons, isPlain, Bool.and_eq_true, Bool.and_eq_true, Bool.and_eq_true,
        decide_eq_true_eq, bne_iff_ne, bne_iff_ne] at plain
      obtain ⟨⟨⟨printable, notQuote⟩, notBackslash⟩, others⟩ := plain
      exact .plain printable notQuote notBackslash (ih others)

section Numbers

variable {digits : List Char} {unit : UInt16} {number : Nat}

theorem hexDigit?_digitChar {value : Nat} (small : value < 16) :
    hexDigit? (Nat.digitChar value) = some value ∧
      hexDigit? (Nat.digitChar value).toUpper = some value := by
  revert small value
  decide

theorem IsHexDigit.value {digit : Char} {value : Nat} (spelled : IsHexDigit digit value) :
    hexDigit? digit = some value := by
  obtain ⟨small, rfl | rfl⟩ := spelled
  · exact (hexDigit?_digitChar small).1
  · exact (hexDigit?_digitChar small).2

theorem SpellsUnit.hexUnit (spelled : SpellsUnit digits unit) (rest : List Char) :
    hexUnit (digits ++ rest) = .ok (unit.toNat, rest) := by
  cases spelled with
  | @digits a b c d i j k l unit first second third fourth value =>
      have enough : ¬Utf8.size [a, b, c, d] < 4 := by
        have one := a.utf8Size_pos
        have two := b.utf8Size_pos
        have three := c.utf8Size_pos
        have four := d.utf8Size_pos
        simp only [Utf8.size, List.foldr_cons, List.foldr_nil]
        omega
      have read : hexValue? 0 [a, b, c, d] = some unit.toNat := by
        simp only [hexValue?, first.value, second.value, third.value, fourth.value, value,
          Nat.zero_mul, Nat.zero_add]
      unfold Json.hexUnit
      rw [show ([a, b, c, d] ++ rest).take 4 = [a, b, c, d] from rfl, if_neg enough]
      simp only [List.cons_append, List.nil_append, read]

theorem toNat_unit (small : number < 0x10000) : (UInt16.ofNat number).toNat = number := by
  rw [UInt16.toNat_ofNat', Nat.mod_eq_of_lt small]

/-- A character of one unit has the number of the unit, which is no surrogate. -/
theorem unit_of_encodeChar {char : Char} (units : Utf16.encodeChar char = [unit]) :
    unit.toNat = char.toNat ∧ isTrailing unit.toNat = false ∧ isLeading unit.toNat = false := by
  have valid : char.toNat < 0xD800 ∨ 0xDFFF < char.toNat ∧ char.toNat < 0x110000 := char.valid
  unfold Utf16.encodeChar at units
  split at units
  · rename_i small
    cases units
    rw [toNat_unit small]
    simp only [isTrailing, isLeading, Bool.and_eq_false_iff, decide_eq_false_iff_not, true_and]
    omega
  · cases units

theorem units_of_encodeChar {char : Char} {leading trailing : UInt16}
    (units : Utf16.encodeChar char = [leading, trailing]) :
    isTrailing leading.toNat = false ∧ isLeading leading.toNat = true ∧
      isTrailing trailing.toNat = true ∧
      0x10000 + (leading.toNat - 0xD800) * 0x400 + (trailing.toNat - 0xDC00) = char.toNat := by
  have valid : char.toNat < 0xD800 ∨ 0xDFFF < char.toNat ∧ char.toNat < 0x110000 := char.valid
  unfold Utf16.encodeChar at units
  split at units
  · cases units
  · rename_i large
    obtain ⟨rfl, rfl⟩ : _ ∧ _ := by simpa only [List.cons.injEq, and_true] using units
    rw [toNat_unit (by omega), toNat_unit (by omega)]
    simp only [isTrailing, isLeading, Bool.and_eq_false_iff, Bool.and_eq_true,
      decide_eq_false_iff_not, decide_eq_true_eq]
    omega

theorem numbered_single {char : Char} (units : Utf16.encodeChar char = [unit])
    (spelled : SpellsUnit digits unit) (rest : List Char) :
    numbered true (digits ++ rest) = .ok (char, rest) := by
  obtain ⟨same, notTrailing, notLeading⟩ := unit_of_encodeChar units
  unfold numbered
  rw [spelled.hexUnit]
  simp only [Bool.not_true, Bool.false_eq_true, ↓reduceIte, notTrailing, notLeading]
  rw [same, Char.ofNat_toNat]

theorem numbered_pair {char : Char} {others : List Char} {leading trailing : UInt16}
    (units : Utf16.encodeChar char = [leading, trailing]) (first : SpellsUnit digits leading)
    (second : SpellsUnit others trailing) (rest : List Char) :
    numbered true (digits ++ '\\' :: 'u' :: (others ++ rest)) = .ok (char, rest) := by
  obtain ⟨notTrailing, isLeading, isTrailing, same⟩ := units_of_encodeChar units
  unfold numbered
  rw [first.hexUnit]
  simp only [Bool.not_true, Bool.false_eq_true, ↓reduceIte, notTrailing, isLeading, bridge,
    second.hexUnit, isTrailing]
  rw [same, Char.ofNat_toNat]

end Numbers

section Strings

variable {strict : Bool} {text left content rest : List Char} {char : Char}

theorem string_quote (rest : List Char) : string strict ('"' :: rest) = .ok ([], rest) := by
  rw [string, if_pos rfl]

theorem string_plain (printable : 0x20 ≤ char.toNat) (notQuote : char ≠ '"')
    (notBackslash : char ≠ '\\') (read : string strict text = .ok (content, rest)) :
    string strict (char :: text) = .ok (char :: content, rest) := by
  rw [string, if_neg notQuote, if_neg notBackslash, if_neg (Nat.not_lt.mpr printable), read]

theorem string_escape (meant : escape strict text = .ok (char, left))
    (read : string strict left = .ok (content, rest)) :
    string strict ('\\' :: text) = .ok (char :: content, rest) := by
  rw [string, if_neg (by decide), if_pos rfl]
  split
  · rename_i failure found
    rw [meant] at found
    cases found
  · rename_i first after found
    rw [meant] at found
    cases found
    rw [read]

theorem escape_short {letter : Char} (known : (letter, char) ∈ shortEscapes) (rest : List Char) :
    escape strict (letter :: rest) = .ok (char, rest) := by
  have meant : escaped? letter = some char := by
    have all : ∀ entry ∈ shortEscapes, escaped? entry.1 = some entry.2 := by decide
    exact all _ known
  simp only [escape, meant]

theorem escape_numbered (rest : List Char) : escape strict ('u' :: rest) = numbered strict rest := by
  rfl

/-- A string is read from any of its spellings, whatever follows the closing quote. -/
theorem Spells.string (spelled : Spells text content) (rest : List Char) :
    string true (text ++ '"' :: rest) = .ok (content, rest) := by
  induction spelled with
  | nil => exact string_quote rest
  | plain printable notQuote notBackslash _ ih =>
      exact string_plain printable notQuote notBackslash ih
  | short known _ ih => exact string_escape (escape_short known _) ih
  | single units spelled _ ih =>
      rw [List.cons_append, List.cons_append, List.append_assoc]
      refine string_escape ?_ ih
      rw [escape_numbered]
      exact numbered_single units spelled _
  | pair units first second _ ih =>
      simp only [List.cons_append, List.append_assoc]
      refine string_escape ?_ ih
      rw [escape_numbered]
      exact numbered_pair units first second _

end Strings

section Lists

variable {blanks : List Char}

theorem dropBlanks_append (blank : Blanks blanks) (rest : List Char) :
    dropBlanks (blanks ++ rest) = dropBlanks rest := by
  unfold dropBlanks
  rw [List.dropWhile_append_of_pos]
  intro char member
  have known : [' ', '\n', '\t', '\r'].all isBlank = true := by decide
  exact List.all_eq_true.mp known char (blank char member)

theorem dropBlanks_of_blanks (blank : Blanks blanks) : dropBlanks blanks = [] := by
  have dropped := dropBlanks_append blank []
  rwa [List.append_nil] at dropped

/-- Blanks end at the first character that is none. -/
theorem dropBlanks_append_cons (blank : Blanks blanks) {char : Char} (visible : isBlank char = false)
    (rest : List Char) : dropBlanks (blanks ++ char :: rest) = char :: rest := by
  rw [dropBlanks_append blank, dropBlanks, List.dropWhile_cons_of_neg]
  rw [visible]
  exact Bool.false_ne_true

theorem items_nil {α : Type} {reader : Reader α} {first : Bool} {text rest : List Char}
    (closed : nextItem first text = .ok (false, rest)) :
    items reader first text = .ok ([], rest) := by
  rw [items]
  split
  · rename_i failure next
    cases closed.symm.trans next
  · rename_i last next
    cases closed.symm.trans next
    rfl
  · rename_i item next
    cases closed.symm.trans next

theorem items_cons {α : Type} {reader : Reader α} {first : Bool} {text item rest last : List Char}
    {value : α} {values : List α} (opened : nextItem first text = .ok (true, item))
    (read : reader.run item = .ok (value, rest))
    (others : items reader false rest = .ok (values, last)) :
    items reader first text = .ok (value :: values, last) := by
  rw [items]
  split
  · rename_i failure next
    cases opened.symm.trans next
  · rename_i last next
    cases opened.symm.trans next
  · rename_i start next
    cases opened.symm.trans next
    split
    · rename_i failure found
      cases read.symm.trans found
    · rename_i known left found
      cases read.symm.trans found
      rw [others]

/-- A closing bracket ends a list, whether it has items or not. -/
theorem nextItem_close (first : Bool) (blank : Blanks blanks) (back : List Char) :
    nextItem first (blanks ++ ']' :: back) = .ok (false, back) := by
  rw [nextItem, dropBlanks_append_cons blank (by decide)]
  rfl

theorem nextItem_first (blank : Blanks blanks) (rest : List Char) :
    nextItem true (blanks ++ '"' :: rest) = .ok (true, '"' :: rest) := by
  rw [nextItem, dropBlanks_append_cons blank (by decide)]
  rfl

theorem nextItem_next {after : List Char} (blank : Blanks blanks) (blank' : Blanks after)
    (rest : List Char) :
    nextItem false (blanks ++ ',' :: (after ++ '"' :: rest)) = .ok (true, '"' :: rest) := by
  rw [nextItem, dropBlanks_append_cons blank (by decide)]
  have start := dropBlanks_append_cons blank' (show isBlank '"' = false by decide) rest
  simp only [start]
  rfl

theorem text_run {spelling content : List Char} (spelled : Spells spelling content)
    (rest : List Char) :
    Reader.text.run ('"' :: (spelling ++ '"' :: rest)) = .ok (content, rest) :=
  spelled.string rest

theorem SpellsRest.items {text : List Char} {contents : List (List Char)}
    (spelled : SpellsRest text contents) (back : List Char) :
    items Reader.text false (text ++ back) = .ok (contents, back) := by
  induction spelled with
  | close blank =>
      rw [List.append_assoc]
      exact items_nil (nextItem_close false blank back)
  | next blank blank' spelled _ ih =>
      simp only [List.append_assoc, List.cons_append]
      exact items_cons (nextItem_next blank blank' _) (text_run spelled _) ih

theorem list_of_items {α : Type} {reader : Reader α} {text rest : List Char} {values : List α}
    (blank : Blanks blanks) (read : items reader true text = .ok (values, rest)) :
    list reader (blanks ++ '[' :: text) = .ok (values, rest) := by
  rw [list, dropBlanks_append_cons blank (by decide)]
  exact read

theorem document_of_run {α : Type} {run : List Char → Except Failure (α × List Char)}
    {text rest : List Char} {value : α} (read : run text = .ok (value, rest))
    (blank : Blanks rest) : document run text = .ok value := by
  unfold document
  rw [read]
  dsimp only
  rw [dropBlanks_of_blanks blank]

/-- A list of strings is read from any of its spellings. -/
theorem SpellsList.document {text : List Char} {contents : List (List Char)}
    (spelled : SpellsList text contents) : document (list Reader.text) text = .ok contents := by
  cases spelled with
  | empty blank blank' blank'' =>
      refine document_of_run (list_of_items blank ?_) blank''
      exact items_nil (nextItem_close true blank' _)
  | filled blank blank' spelled others blank'' =>
      refine document_of_run (list_of_items blank ?_) blank''
      exact items_cons (nextItem_first blank' _) (text_run spelled _) (others.items _)

end Lists

end SyntaxSpans.Json
