import SyntaxSpans.Proofs.Json.Spelling

set_option autoImplicit false

/- Values as they may be written, and that a value of no interest is skipped exactly: what is left is
what follows it. Any number is in order, whatever its size, and so is any nesting; the units of a
string need not make up characters. -/
namespace SyntaxSpans.Json

section Strings

/-- How a string may be written whose characters do not matter. -/
inductive WritesString : List Char → Prop
  | nil : WritesString []
  | plain {char : Char} {spelling : List Char} (printable : 0x20 ≤ char.toNat)
      (notQuote : char ≠ '"') (notBackslash : char ≠ '\\') (rest : WritesString spelling) :
      WritesString (char :: spelling)
  | short {letter char : Char} {spelling : List Char} (known : (letter, char) ∈ shortEscapes)
      (rest : WritesString spelling) : WritesString ('\\' :: letter :: spelling)
  | unit {digits spelling : List Char} {unit : UInt16} (spelled : SpellsUnit digits unit)
      (rest : WritesString spelling) : WritesString ('\\' :: 'u' :: (digits ++ spelling))

/-- What spells a text is a string in any case. -/
theorem Spells.writes {spelling content : List Char} (spelled : Spells spelling content) :
    WritesString spelling := by
  induction spelled with
  | nil => exact .nil
  | plain printable notQuote notBackslash _ ih => exact .plain printable notQuote notBackslash ih
  | short known _ ih => exact .short known ih
  | single _ spelled _ ih => exact .unit spelled ih
  | pair _ first second _ ih => exact .unit first (.unit second ih)

/-- Where the text is of no interest, a unit stands alone. -/
theorem numbered_alone {text rest : List Char} {unit : Nat}
    (read : hexUnit text = .ok (unit, rest)) : numbered false text = .ok (Char.ofNat unit, rest) := by
  simp only [numbered, read, Bool.not_false, ↓reduceIte]

theorem WritesString.string {text : List Char} (written : WritesString text) (rest : List Char) :
    ∃ content, string false (text ++ '"' :: rest) = .ok (content, rest) := by
  induction written with
  | nil => exact ⟨[], string_quote rest⟩
  | plain printable notQuote notBackslash _ ih =>
      obtain ⟨content, read⟩ := ih
      exact ⟨_, string_plain printable notQuote notBackslash read⟩
  | short known _ ih =>
      obtain ⟨content, read⟩ := ih
      exact ⟨_, string_escape (escape_short known _) read⟩
  | unit spelled _ ih =>
      obtain ⟨content, read⟩ := ih
      rw [List.cons_append, List.cons_append, List.append_assoc]
      exact ⟨_, string_escape (numbered_alone (spelled.hexUnit _)) read⟩

theorem WritesString.skip {text : List Char} (written : WritesString text) (rest : List Char) :
    (Json.string false (text ++ '"' :: rest)).map (·.2) = .ok rest := by
  obtain ⟨content, read⟩ := written.string rest
  rw [read]
  rfl

end Strings

section Numbers

inductive IsDigits : List Char → Prop
  | digits {first : Char} {others : List Char} (digit : first.isDigit = true)
      (more : ∀ char ∈ others, char.isDigit = true) : IsDigits (first :: others)

/-- The whole part of a number; a zero in front stands alone. -/
inductive WritesWhole : List Char → Prop
  | zero : WritesWhole ['0']
  | digits {first : Char} {others : List Char} (digit : first.isDigit = true)
      (notZero : first ≠ '0') (more : ∀ char ∈ others, char.isDigit = true) :
      WritesWhole (first :: others)

inductive WritesFraction : List Char → Prop
  | without : WritesFraction []
  | point {digits : List Char} (written : IsDigits digits) : WritesFraction ('.' :: digits)

inductive WritesExponent : List Char → Prop
  | without : WritesExponent []
  | power {letter : Char} {sign digits : List Char} (known : letter ∈ ['e', 'E'])
      (signed : sign ∈ [[], ['+'], ['-']]) (written : IsDigits digits) :
      WritesExponent (letter :: (sign ++ digits))

/-- How a number may be written. -/
inductive WritesNumber : List Char → Prop
  | parts {sign whole fraction exponent : List Char} (signed : sign ∈ [[], ['-']])
      (written : WritesWhole whole) (after : WritesFraction fraction)
      (scaled : WritesExponent exponent) :
      WritesNumber (sign ++ (whole ++ (fraction ++ exponent)))

/-- Whether a character can stand behind the first digit of a number. A sign can stand only behind
the letter of an exponent. -/
def goesOn (char : Char) : Bool := char.isDigit || char == '.' || char == 'e' || char == 'E'

def NoDigit (rest : List Char) : Prop := ∀ char ∈ rest.head?, char.isDigit = false

/-- Nothing in front that a number could go on with. -/
def EndsNumber (rest : List Char) : Prop := ∀ char ∈ rest.head?, goesOn char = false

variable {text rest digits sign : List Char} {char : Char}

theorem EndsNumber.cons (other : goesOn char = false) : EndsNumber (char :: rest) := by
  intro first front
  cases front
  exact other

theorem EndsNumber.blanks {blanks : List Char} (blank : Blanks blanks) (ends : EndsNumber rest) :
    EndsNumber (blanks ++ rest) := by
  cases blanks with
  | nil => exact ends
  | cons first others =>
      have known : ∀ char ∈ [' ', '\n', '\t', '\r'], goesOn char = false := by
        simp only [List.forall_mem_cons]
        exact ⟨rfl, rfl, rfl, rfl, List.forall_mem_nil _⟩
      exact .cons (known first (blank first List.mem_cons_self))

theorem EndsNumber.noDigit (ends : EndsNumber rest) : NoDigit rest := by
  intro char front
  have other := ends char front
  simp only [goesOn, Bool.or_eq_false_iff] at other
  exact other.1.1.1

theorem dropDigits_append (digits : ∀ char ∈ text, char.isDigit = true) (rest : List Char) :
    dropDigits (text ++ rest) = dropDigits rest :=
  List.dropWhile_append_of_pos digits

theorem dropDigits_of_noDigit (stop : NoDigit rest) : dropDigits rest = rest := by
  cases rest with
  | nil => rfl
  | cons first others =>
      apply List.dropWhile_cons_of_neg
      rw [stop first rfl]
      exact Bool.false_ne_true

theorem countDigits_of_noDigit (stop : NoDigit rest) : countDigits rest = 0 := by
  cases rest with
  | nil => rfl
  | cons first others =>
      rw [countDigits, List.takeWhile_cons_of_neg, List.length_nil]
      rw [stop first rfl]
      exact Bool.false_ne_true

theorem IsDigits.skip (written : IsDigits digits) (stop : NoDigit rest) :
    skipDigits (digits ++ rest) = .ok rest := by
  cases written with
  | digits digit more =>
      rw [List.cons_append, skipDigits, if_pos digit, dropDigits_append more,
        dropDigits_of_noDigit stop]

theorem exponentSign_append (signed : sign ∈ [[], ['+'], ['-']]) (written : IsDigits digits)
    (rest : List Char) : (exponentSign (sign ++ (digits ++ rest))).2 = digits ++ rest := by
  simp only [List.mem_cons, List.not_mem_nil, or_false] at signed
  rcases signed with rfl | rfl | rfl
  · cases written with
    | digits digit more =>
        rw [List.nil_append, List.cons_append, exponentSign]
        · rintro _ ⟨⟩
          cases digit
        · rintro _ ⟨⟩
          cases digit
  · rfl
  · rfl

theorem WritesExponent.noDigit (written : WritesExponent text) (stop : NoDigit rest) :
    NoDigit (text ++ rest) := by
  cases written with
  | without => exact stop
  | power known _ _ =>
      rintro first ⟨⟩
      have letters : ∀ char ∈ ['e', 'E'], char.isDigit = false := by
        simp only [List.forall_mem_cons]
        exact ⟨rfl, rfl, List.forall_mem_nil _⟩
      exact letters _ known

theorem WritesFraction.noDigit (written : WritesFraction text) (stop : NoDigit rest) :
    NoDigit (text ++ rest) := by
  cases written with
  | without => exact stop
  | point _ =>
      rintro first ⟨⟩
      rfl

theorem skipExponent_of_ends (ends : EndsNumber rest) : skipExponent rest = .ok rest := by
  unfold skipExponent
  split
  · exact absurd (ends _ rfl) (by decide)
  · exact absurd (ends _ rfl) (by decide)
  · rfl

theorem WritesExponent.skip (written : WritesExponent text) (ends : EndsNumber rest) :
    skipExponent (text ++ rest) = .ok rest := by
  cases written with
  | without => exact skipExponent_of_ends ends
  | @power letter sign digits known signed written =>
      have skipped : skipDigits (exponentSign (sign ++ (digits ++ rest))).2 = .ok rest := by
        rw [exponentSign_append signed written]
        exact written.skip ends.noDigit
      simp only [List.mem_cons, List.not_mem_nil, or_false] at known
      rcases known with rfl | rfl
      · rw [List.cons_append, List.append_assoc, skipExponent, skipped]
      · rw [List.cons_append, List.append_assoc, skipExponent, skipped]

theorem WritesFraction.skip {exponent : List Char} (written : WritesFraction text)
    (scaled : WritesExponent exponent) (ends : EndsNumber rest) :
    skipFraction (text ++ (exponent ++ rest)) = .ok rest := by
  have onward := scaled.skip ends
  cases written with
  | without =>
      rw [List.nil_append, skipFraction, onward]
      intro after start
      cases scaled with
      | without => exact absurd (ends '.' (by rw [← List.nil_append rest, start]; rfl)) (by decide)
      | power known _ _ =>
          obtain ⟨rfl, -⟩ := List.cons.inj start
          exact absurd known (by decide)
  | point written =>
      rw [List.cons_append, skipFraction,
        written.skip (scaled.noDigit ends.noDigit)]
      exact onward

theorem WritesWhole.skip {fraction exponent : List Char} (written : WritesWhole text)
    (after : WritesFraction fraction) (scaled : WritesExponent exponent)
    (ends : EndsNumber rest) :
    skipUnsigned (text ++ (fraction ++ (exponent ++ rest))) = .ok rest := by
  have onward := after.skip scaled ends
  have stop : NoDigit (fraction ++ (exponent ++ rest)) :=
    after.noDigit (scaled.noDigit ends.noDigit)
  cases written with
  | zero =>
      rw [List.singleton_append, skipUnsigned, if_neg (by decide), if_pos rfl,
        if_pos (countDigits_of_noDigit stop), onward]
  | digits digit notZero more =>
      rw [List.cons_append, skipUnsigned, if_neg (by simp [digit]), if_neg notZero,
        dropDigits_append more, dropDigits_of_noDigit stop, onward]

theorem skipScalar_digit (digit : char.isDigit = true) (rest : List Char) :
    skipScalar (char :: rest) = skipUnsigned (char :: rest) := by
  rw [skipScalar, if_pos digit]
  all_goals
    rintro rfl
    cases digit

theorem WritesNumber.skip (written : WritesNumber text) (ends : EndsNumber rest) :
    skipScalar (text ++ rest) = .ok rest := by
  cases written with
  | parts signed whole after scaled =>
      have unsigned := whole.skip after scaled ends
      simp only [List.mem_cons, List.not_mem_nil, or_false] at signed
      simp only [List.append_assoc]
      rcases signed with rfl | rfl
      · rw [List.nil_append]
        cases whole with
        | zero => exact unsigned
        | digits digit _ _ =>
            rw [List.cons_append, skipScalar_digit digit]
            exact unsigned
      · exact unsigned

end Numbers

section Values

inductive WritesScalar : List Char → Prop
  | word {letters : List Char}
      (known : letters ∈ [['n', 'u', 'l', 'l'], ['t', 'r', 'u', 'e'], ['f', 'a', 'l', 's', 'e']]) :
      WritesScalar letters
  | number {text : List Char} (written : WritesNumber text) : WritesScalar text
  | string {spelling : List Char} (written : WritesString spelling) :
      WritesScalar ('"' :: (spelling ++ ['"']))

def Enclosure.opening : Enclosure → Char
  | list => '['
  | object => '\x7b'

/-- What stands in front of an item: nothing in a list, a key and its colon in an object. -/
inductive WritesLabel : Enclosure → List Char → Prop
  | place : WritesLabel .list []
  | key {before spelling after : List Char} (blank : Blanks before)
      (written : WritesString spelling) (blank' : Blanks after) :
      WritesLabel .object (before ++ '"' :: (spelling ++ '"' :: (after ++ [':'])))

mutual

/-- How a value may be written. -/
inductive WritesValue : List Char → Prop
  | scalar {text : List Char} (written : WritesScalar text) : WritesValue text
  | empty {blanks : List Char} (inner : Enclosure) (blank : Blanks blanks) :
      WritesValue (inner.opening :: (blanks ++ [inner.closing]))
  | filled {items : List Char} (inner : Enclosure) (written : WritesItems inner items) :
      WritesValue (inner.opening :: (items ++ [inner.closing]))

/-- How the items of a list, or the members of an object, may be written, if there are any. -/
inductive WritesItems : Enclosure → List Char → Prop
  | last {inner : Enclosure} {label before value after : List Char}
      (labelled : WritesLabel inner label) (blank : Blanks before) (written : WritesValue value)
      (blank' : Blanks after) : WritesItems inner (label ++ (before ++ (value ++ after)))
  | more {inner : Enclosure} {label before value after others : List Char}
      (labelled : WritesLabel inner label) (blank : Blanks before) (written : WritesValue value)
      (blank' : Blanks after) (rest : WritesItems inner others) :
      WritesItems inner (label ++ (before ++ (value ++ (after ++ ',' :: others))))

end

def opensValue (char : Char) : Bool :=
  char.isDigit || ['n', 't', 'f', '"', '-', '[', '\x7b'].contains char

variable {text value items label rest left : List Char} {char : Char} {inner : Enclosure}
  {around : List Enclosure}

theorem isBlank_of_opensValue (opens : opensValue char = true) : isBlank char = false := by
  apply Bool.eq_false_iff.mpr
  intro blank
  simp only [isBlank, Bool.or_eq_true, beq_iff_eq] at blank
  obtain ((rfl | rfl) | rfl) | rfl := blank <;> cases opens

theorem ne_closing_of_opensValue (opens : opensValue char = true) (inner : Enclosure) :
    char ≠ inner.closing := by
  rintro rfl
  cases inner <;> cases opens

theorem WritesScalar.start (written : WritesScalar text) :
    ∃ char others, text = char :: others ∧ opensValue char = true ∧ char ≠ '[' ∧ char ≠ '\x7b' := by
  cases written with
  | word known =>
      simp only [List.mem_cons, List.not_mem_nil, or_false] at known
      rcases known with rfl | rfl | rfl
      · exact ⟨_, _, rfl, by decide⟩
      · exact ⟨_, _, rfl, by decide⟩
      · exact ⟨_, _, rfl, by decide⟩
  | string _ => exact ⟨_, _, rfl, by decide⟩
  | number written =>
      obtain ⟨signed, whole, -, -⟩ := written
      simp only [List.mem_cons, List.not_mem_nil, or_false] at signed
      rcases signed with rfl | rfl
      · cases whole with
        | zero => exact ⟨_, _, rfl, by decide⟩
        | @digits first others digit _ _ =>
            refine ⟨first, _, rfl, ?_, ?_, ?_⟩
            · rw [opensValue, digit, Bool.true_or]
            · rintro rfl
              cases digit
            · rintro rfl
              cases digit
      · exact ⟨_, _, rfl, by decide⟩

theorem WritesValue.start (written : WritesValue value) :
    ∃ char others, value = char :: others ∧ opensValue char = true := by
  cases written with
  | scalar written =>
      obtain ⟨char, others, same, opens, -, -⟩ := written.start
      exact ⟨char, others, same, opens⟩
  | empty inner _ => exact ⟨_, _, rfl, by cases inner <;> rfl⟩
  | filled inner _ => exact ⟨_, _, rfl, by cases inner <;> rfl⟩

theorem WritesScalar.skip (written : WritesScalar text) (ends : EndsNumber rest) :
    skipScalar (text ++ rest) = .ok rest := by
  cases written with
  | word known =>
      simp only [List.mem_cons, List.not_mem_nil, or_false] at known
      rcases known with rfl | rfl | rfl <;> rfl
  | number written => exact written.skip ends
  | string written =>
      rw [List.cons_append, List.append_assoc]
      exact written.skip rest

theorem dropBlanks_of_visible (visible : isBlank char = false) (rest : List Char) :
    dropBlanks (char :: rest) = char :: rest :=
  dropBlanks_append_cons (List.forall_mem_nil _) visible rest

theorem dropBlanks_dropBlanks (text : List Char) : dropBlanks (dropBlanks text) = dropBlanks text := by
  induction text with
  | nil => rfl
  | cons first others ih =>
      cases visible : isBlank first with
      | true =>
          have dropped : dropBlanks (first :: others) = dropBlanks others :=
            List.dropWhile_cons_of_pos visible
          rw [dropped, ih]
      | false => rw [dropBlanks_of_visible visible, dropBlanks_of_visible visible]

theorem skipValue_of_start (start : dropBlanks text = char :: rest) :
    skipValue around text =
      if char = '[' then skipOpened .list around rest
      else if char = '\x7b' then skipOpened .object around rest
      else skipScalar (char :: rest) >>= skipOnward around := by
  rw [skipValue]
  split
  · rename_i found
    cases start.symm.trans found
  · rename_i found
    cases start.symm.trans found
    split
    · rfl
    · split
      · rfl
      · split
        · rename_i failed
          rw [failed]
          rfl
        · rename_i read
          rw [read]
          rfl

theorem skipOpened_of_start (start : dropBlanks text = char :: rest) :
    skipOpened inner around text =
      if char = inner.closing then skipOnward around rest else skipItem inner around text := by
  rw [skipOpened]
  split
  · rename_i found
    cases start.symm.trans found
  · rename_i found
    cases start.symm.trans found
    rfl

theorem skipOnward_nil (text : List Char) : skipOnward [] text = .ok text := by
  rw [skipOnward]

theorem skipOnward_of_start (start : dropBlanks text = char :: rest) :
    skipOnward (inner :: around) text =
      if char = ',' then skipItem inner around rest
      else if char = inner.closing then skipOnward around rest
      else .error (.upon inner.unended (char :: rest)) := by
  rw [skipOnward]
  split
  · rename_i found
    cases start.symm.trans found
  · rename_i found
    cases start.symm.trans found
    rfl

theorem skipValue_of_scalar (start : dropBlanks text = char :: rest) (list : char ≠ '[')
    (object : char ≠ '\x7b') (read : skipScalar (char :: rest) = .ok left) :
    skipValue around text = skipOnward around left := by
  rw [skipValue_of_start start, if_neg list, if_neg object, read]
  rfl

theorem skipValue_of_opening (start : dropBlanks text = inner.opening :: rest) :
    skipValue around text = skipOpened inner around rest := by
  rw [skipValue_of_start start]
  cases inner <;> rfl

theorem skipOnward_of_closing (start : dropBlanks text = inner.closing :: rest) :
    skipOnward (inner :: around) text = skipOnward around rest := by
  rw [skipOnward_of_start start, if_neg (by cases inner <;> decide), if_pos rfl]

theorem isBlank_opening (inner : Enclosure) : isBlank inner.opening = false := by
  cases inner <;> rfl

theorem isBlank_closing (inner : Enclosure) : isBlank inner.closing = false := by
  cases inner <;> rfl

theorem goesOn_closing (inner : Enclosure) : goesOn inner.closing = false := by
  cases inner <;> rfl

theorem colon_append {blanks : List Char} (blank : Blanks blanks) (rest : List Char) :
    colon (blanks ++ ':' :: rest) = .ok rest := by
  rw [colon, dropBlanks_append_cons blank (by decide)]
  exact if_pos rfl

theorem skipKey_of_start {content : List Char} (start : dropBlanks text = '"' :: rest)
    (read : Json.string false rest = .ok (content, left)) : skipKey text = colon left := by
  simp only [skipKey, start, ↓reduceIte, read]
  rfl

theorem skipItem_of_key (read : skipKey text = .ok rest) :
    skipItem .object around text = skipValue (.object :: around) rest := by
  rw [skipItem]
  split
  · rename_i failed
    cases read.symm.trans failed
  · rename_i found
    cases read.symm.trans found
    rfl

theorem WritesLabel.skip (labelled : WritesLabel inner label) (rest : List Char) :
    skipItem inner around (label ++ rest) = skipValue (inner :: around) rest := by
  cases labelled with
  | place => rw [skipItem, List.nil_append]
  | @key before spelling after blank written blank' =>
      have start := dropBlanks_append_cons blank (show isBlank '"' = false by decide)
        (spelling ++ '"' :: (after ++ ':' :: rest))
      obtain ⟨content, read⟩ := written.string (after ++ ':' :: rest)
      simp only [List.append_assoc, List.cons_append, List.nil_append]
      apply skipItem_of_key
      rw [skipKey_of_start start read, colon_append blank']

theorem skipValue_blanks {blanks : List Char} (blank : Blanks blanks) (text : List Char) :
    skipValue around (blanks ++ text) = skipValue around text := by
  rw [skipValue, skipValue, dropBlanks_append blank]

/-- The first character of an item closes nothing. -/
theorem start_of_item {before after : List Char} (labelled : WritesLabel inner label)
    (blank : Blanks before) (written : WritesValue value) :
    ∃ char others, dropBlanks (label ++ (before ++ (value ++ after))) = char :: others ∧
      char ≠ inner.closing := by
  cases labelled with
  | place =>
      obtain ⟨char, others, rfl, opens⟩ := written.start
      exact ⟨char, _, dropBlanks_append_cons blank (isBlank_of_opensValue opens) _,
        ne_closing_of_opensValue opens .list⟩
  | key blank _ _ =>
      rw [List.append_assoc]
      exact ⟨'"', _, dropBlanks_append_cons blank (by decide) _, by decide⟩

theorem WritesItems.start (written : WritesItems inner items) (rest : List Char) :
    ∃ char others, dropBlanks (items ++ rest) = char :: others ∧ char ≠ inner.closing := by
  cases written with
  | last labelled blank written _ =>
      simp only [List.append_assoc]
      exact start_of_item labelled blank written
  | more labelled blank written _ _ =>
      simp only [List.append_assoc]
      exact start_of_item labelled blank written

mutual

/-- Skipping a value leaves what follows it. -/
theorem WritesValue.skip {value : List Char} (written : WritesValue value)
    (around : List Enclosure) {rest : List Char} (ends : EndsNumber rest) :
    skipValue around (value ++ rest) = skipOnward around rest := by
  match written with
  | .scalar written =>
      have read := written.skip ends
      obtain ⟨char, others, rfl, opens, list, object⟩ := written.start
      refine skipValue_of_scalar ?_ list object read
      exact dropBlanks_of_visible (isBlank_of_opensValue opens) _
  | .empty inner blank =>
      have closed := dropBlanks_append_cons blank (isBlank_closing inner) rest
      rw [List.cons_append, List.append_assoc, List.singleton_append,
        skipValue_of_opening (dropBlanks_of_visible (isBlank_opening inner) _),
        skipOpened_of_start closed, if_pos rfl]
  | .filled inner written =>
      obtain ⟨char, others, start, item⟩ := written.start (inner.closing :: rest)
      rw [List.cons_append, List.append_assoc, List.singleton_append,
        skipValue_of_opening (dropBlanks_of_visible (isBlank_opening inner) _),
        skipOpened_of_start start, if_neg item]
      exact written.skip around rest

/-- Skipping the items of an enclosure leaves what follows its end. -/
theorem WritesItems.skip {inner : Enclosure} {items : List Char}
    (written : WritesItems inner items) (around : List Enclosure) (rest : List Char) :
    skipItem inner around (items ++ inner.closing :: rest) = skipOnward around rest := by
  match written with
  | @WritesItems.last _ label before value after labelled blank written blank' =>
      have ends : EndsNumber (after ++ inner.closing :: rest) :=
        .blanks blank' (.cons (goesOn_closing inner))
      have onward := written.skip (inner :: around) ends
      simp only [List.append_assoc]
      rw [labelled.skip, skipValue_blanks blank, onward]
      exact skipOnward_of_closing (dropBlanks_append_cons blank' (isBlank_closing inner) rest)
  | @WritesItems.more _ label before value after others labelled blank written blank' more =>
      have ends : EndsNumber (after ++ ',' :: (others ++ inner.closing :: rest)) :=
        .blanks blank' (.cons (by decide))
      have onward := written.skip (inner :: around) ends
      simp only [List.append_assoc, List.cons_append]
      rw [labelled.skip, skipValue_blanks blank, onward,
        skipOnward_of_start (dropBlanks_append_cons blank' (by decide) _), if_pos rfl]
      exact more.skip around rest

end

theorem skip_dropBlanks (text : List Char) : Json.skip (dropBlanks text) = Json.skip text := by
  rw [Json.skip, Json.skip, skipValue, skipValue, dropBlanks_dropBlanks]

theorem skip_of_scalar (start : dropBlanks text = char :: rest) (list : char ≠ '[')
    (object : char ≠ '\x7b') (read : skipScalar (char :: rest) = .ok left) :
    skip text = .ok left := by
  rw [skip, skipValue_of_scalar start list object read, skipOnward_nil]

theorem WritesValue.skip_append {before : List Char} (written : WritesValue value)
    (blank : Blanks before) (ends : EndsNumber rest) :
    Json.skip (before ++ (value ++ rest)) = .ok rest := by
  rw [Json.skip, skipValue_blanks blank, written.skip [] ends, skipOnward_nil]

end Values

end SyntaxSpans.Json
