import SyntaxSpans.Json.Skip

set_option autoImplicit false

namespace SyntaxSpans.Json

/-- Reads a value of one type. What is left is shorter than what there was. -/
structure Reader (α : Type) where
  run : List Char → Except Failure (α × List Char)
  shrinks : ∀ {text rest : List Char} {value : α}, run text = .ok (value, rest) →
    rest.length < text.length

/-- What is wrong with a value of another type. It is read as far as is needed to say what it is,
and what is wrong inside comes first. -/
def mismatch (expected : String) (text : List Char) : Failure :=
  let found (value : Found) : Except Failure (List Char) → Failure
    | .error failure => failure
    | .ok rest => .after (.unexpected value expected) rest
  match text with
  | [] => .upon .unfinishedValue []
  | 'n' :: rest => found .null (word ['u', 'l', 'l'] rest)
  | 't' :: rest => found (.boolean true) (word ['r', 'u', 'e'] rest)
  | 'f' :: rest => found (.boolean false) (word ['a', 'l', 's', 'e'] rest)
  | '[' :: _ => .after (.unexpected .list expected) text
  | '\x7b' :: _ => .after (.unexpected .object expected) text
  | '"' :: rest =>
      match string true rest with
      | .error failure => failure
      | .ok (value, left) => .after (.unexpected (.text value) expected) left
  | char :: _ =>
      if char = '-' ∨ char.isDigit then
        match number text with
        | .error failure => failure
        | .ok (value, left) => .after (.unexpected (.number value) expected) left
      else .upon .expectedValue text

def yielding {α : Type} (value : α) (rest : Except Failure (List Char)) :
    Except Failure (α × List Char) :=
  rest.map fun left => (value, left)

theorem yielding_eq_ok {α : Type} {value last : α} {read : Except Failure (List Char)}
    {rest : List Char} (success : yielding value read = .ok (last, rest)) : read = .ok rest := by
  cases read with
  | error failure => cases success
  | ok left =>
      cases success
      rfl

namespace Reader

variable {α β : Type}

def map (change : α → β) (reader : Reader α) : Reader β where
  run text := (reader.run text).map fun read => (change read.1, read.2)
  shrinks {text rest value} read := by
    cases inner : reader.run text with
    | error failure => rw [inner] at read; cases read
    | ok pair =>
        rw [inner] at read
        cases read
        exact reader.shrinks inner

private theorem before {text rest left : List Char} {char : Char}
    (start : dropBlanks text = char :: rest) (shorter : left.length ≤ rest.length) :
    left.length < text.length :=
  Nat.lt_of_le_of_lt shorter (length_of_dropBlanks start)

def text : Reader (List Char) where
  run text :=
    match dropBlanks text with
    | '"' :: rest => string true rest
    | other => .error (mismatch "a string" other)
  shrinks {text rest value} read := by
    split at read
    · rename_i first start
      exact before start (Nat.le_of_lt (string_length read))
    · cases read

def boolean : Reader Bool where
  run text :=
    match dropBlanks text with
    | 't' :: rest => yielding true (word ['r', 'u', 'e'] rest)
    | 'f' :: rest => yielding false (word ['a', 'l', 's', 'e'] rest)
    | other => .error (mismatch "a boolean" other)
  shrinks {text rest value} read := by
    split at read
    · rename_i first start
      exact before start (word_length_le (yielding_eq_ok read))
    · rename_i first start
      exact before start (word_length_le (yielding_eq_ok read))
    · cases read

/-- A whole number that fits into a machine word, written without point or exponent. -/
def natural : Reader Nat where
  run text :=
    match dropBlanks text with
    | [] => .error (.upon .unfinishedValue [])
    | char :: rest =>
        if char = '-' ∨ char.isDigit then
          match number (char :: rest) with
          | .error failure => .error failure
          | .ok (.natural value, left) => .ok (value, left)
          | .ok (value, left) => .error (.after (.unexpected (.number value) "a whole number") left)
        else .error (mismatch "a whole number" (char :: rest))
  shrinks {text rest value} read := by
    split at read
    · cases read
    · rename_i char first start
      split at read
      · split at read
        · cases read
        · rename_i size left number
          cases read
          exact before start (Nat.le_of_lt_succ (number_length number))
        · cases read
      · cases read

/-- Nothing, for `null`, or a value. -/
def optional (reader : Reader α) : Reader (Option α) where
  run text :=
    match dropBlanks text with
    | 'n' :: rest => yielding none (word ['u', 'l', 'l'] rest)
    | other => (reader.map some).run other
  shrinks {text rest value} read := by
    split at read
    · rename_i first start
      exact before start (word_length_le (yielding_eq_ok read))
    · exact Nat.lt_of_lt_of_le ((reader.map some).shrinks read) (dropBlanks_length_le text)

def key : List Char → Except Failure (List Char × List Char)
  | [] => .error (.upon .unfinishedValue [])
  | '"' :: rest => string true rest
  | other => .error (.upon .keyNotText other)

theorem key_length {text name rest : List Char} (read : key text = .ok (name, rest)) :
    rest.length < text.length := by
  unfold key at read
  split at read
  · cases read
  · exact Nat.lt_succ_of_lt (string_length read)
  · cases read

def chosen (choices : List (String × α)) (read : List Char × List Char) :
    Except Failure (α × List Char) :=
  match choices.lookup (String.ofList read.1) with
  | some value => .ok (value, read.2)
  | none => .error (.after (.unknownName read.1) read.2)

/-- What follows a name that stands as a key: a colon, `null` and the closing brace. -/
def keyed (rest : List Char) : Except Failure (List Char) :=
  match colon rest with
  | .error failure => .error failure
  | .ok after =>
      match dropBlanks after with
      | 'n' :: rest =>
          match word ['u', 'l', 'l'] rest with
          | .error failure => .error failure
          | .ok after =>
              match dropBlanks after with
              | [] => .error (.upon .unfinishedObject [])
              | char :: rest =>
                  if char = '\x7d' then .ok rest else .error (.upon .expectedValue (char :: rest))
      | other => .error (mismatch "unit" other)

theorem chosen_rest {choices : List (String × α)} {read : List Char × List Char} {value : α}
    {rest : List Char} (success : chosen choices read = .ok (value, rest)) : rest = read.2 := by
  unfold chosen at success
  split at success
  · cases success
    rfl
  · cases success

theorem keyed_length {text rest : List Char} (read : keyed text = .ok rest) :
    rest.length < text.length := by
  unfold keyed at read
  split at read
  · cases read
  · rename_i after opened
    have first := colon_length opened
    split at read
    · rename_i letters start
      have second := length_of_dropBlanks start
      split at read
      · cases read
      · rename_i ended null
        have third := word_length_le null
        split at read
        · cases read
        · rename_i char left close
          have fourth := length_of_dropBlanks close
          split at read
          · cases read
            omega
          · cases read
    · cases read

/-- One of several names, exactly as they are; also as the only key of an object that holds `null`.
-/
def choice (choices : List (String × α)) : Reader α where
  run text :=
    match dropBlanks text with
    | '"' :: rest => string true rest >>= chosen choices
    | '\x7b' :: rest =>
        match key (dropBlanks rest) with
        | .error failure => .error failure
        | .ok name =>
            match chosen choices name with
            | .error failure => .error failure
            | .ok (value, rest) => yielding value (keyed rest)
    | other => .error (.upon (if other.isEmpty then .unfinishedValue else .expectedValue) other)
  shrinks {text rest value} read := by
    split at read
    · rename_i first start
      obtain ⟨pair, name, known⟩ := (bind_eq_ok _ _ _).mp read
      have shorter := string_length name
      rw [chosen_rest known]
      exact before start (Nat.le_of_lt shorter)
    · rename_i first start
      split at read
      · cases read
      · rename_i name named
        have shorter := key_length named
        have blanks := dropBlanks_length_le first
        split at read
        · cases read
        · rename_i meant left known
          have shortest := keyed_length (yielding_eq_ok read)
          rw [chosen_rest known] at shortest
          exact before start (by omega)
    · cases read

end Reader

/-- Reads a whole document: one value and nothing but blanks around it. -/
def document {α : Type} (run : List Char → Except Failure (α × List Char)) (text : List Char) :
    Except Failure α :=
  match run text with
  | .error failure => .error failure
  | .ok (value, rest) =>
      match dropBlanks rest with
      | [] => .ok value
      | left => .error (.upon .trailingText left)

end SyntaxSpans.Json
