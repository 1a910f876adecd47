import SyntaxSpans.Json.Reader

set_option autoImplicit false

namespace SyntaxSpans.Json

/-- Whether another item follows in a list; if not, the list is closed. -/
def nextItem (first : Bool) (text : List Char) : Except Failure (Bool × List Char) :=
  match dropBlanks text with
  | [] => .error (.upon .unfinishedList [])
  | char :: rest =>
      if char = ']' then .ok (false, rest)
      else if first then .ok (true, char :: rest)
      else if char ≠ ',' then .error (.upon .expectedListEnd (char :: rest))
      else
        match dropBlanks rest with
        | [] => .error (.upon .unfinishedValue [])
        | char :: rest =>
            if char = ']' then .error (.upon .trailingComma (char :: rest))
            else .ok (true, char :: rest)

theorem nextItem_length_le {first more : Bool} {text rest : List Char}
    (read : nextItem first text = .ok (more, rest)) : rest.length ≤ text.length := by
  have blanks := dropBlanks_length_le text
  unfold nextItem at read
  split at read
  · cases read
  · rename_i char after start
    rw [start, List.length_cons] at blanks
    split at read
    · cases read
      omega
    · split at read
      · cases read
        exact blanks
      · split at read
        · cases read
        · have inner := dropBlanks_length_le after
          split at read
          · cases read
          · rename_i next left begun
            rw [begun, List.length_cons] at inner
            split at read
            · cases read
            · cases read
              simp only [List.length_cons]
              omega

def items {α : Type} (reader : Reader α) (first : Bool) (text : List Char) :
    Except Failure (List α × List Char) :=
  match _next : nextItem first text with
  | .error failure => .error failure
  | .ok (false, rest) => .ok ([], rest)
  | .ok (true, item) =>
      match _read : reader.run item with
      | .error failure => .error failure
      | .ok (value, rest) =>
          match items reader false rest with
          | .error failure => .error failure
          | .ok (values, last) => .ok (value :: values, last)
termination_by text.length
decreasing_by exact Nat.lt_of_lt_of_le (reader.shrinks _read) (nextItem_length_le _next)

def list {α : Type} (reader : Reader α) (text : List Char) : Except Failure (List α × List Char) :=
  match dropBlanks text with
  | '[' :: rest => items reader true rest
  | other => .error (mismatch "a sequence" other)

/-- The next key of an object; if there is none, the object is closed. -/
def nextKey (first : Bool) (text : List Char) : Except Failure (Option (List Char) × List Char) :=
  match dropBlanks text with
  | [] => .error (.upon .unfinishedObject [])
  | char :: rest =>
      if char = '\x7d' then .ok (none, rest)
      else if first then named (Reader.key (char :: rest))
      else if char ≠ ',' then .error (.upon .expectedObjectEnd (char :: rest))
      else
        match dropBlanks rest with
        | [] => .error (.upon .unfinishedValue [])
        | char :: rest =>
            if char = '\x7d' then .error (.upon .trailingComma (char :: rest))
            else named (Reader.key (char :: rest))
where
  /-- Says that there is a key. -/
  named (read : Except Failure (List Char × List Char)) :
      Except Failure (Option (List Char) × List Char) :=
    read.map fun found => (some found.1, found.2)

theorem nextKey_named_length {text name rest : List Char}
    (read : nextKey.named (Reader.key text) = .ok (some name, rest)) :
    rest.length < text.length := by
  unfold nextKey.named at read
  cases inner : Reader.key text with
  | error failure => rw [inner] at read; cases read
  | ok found =>
      rw [inner] at read
      cases read
      exact Reader.key_length inner

theorem nextKey_length {first : Bool} {text name rest : List Char}
    (read : nextKey first text = .ok (some name, rest)) : rest.length < text.length := by
  have blanks := dropBlanks_length_le text
  unfold nextKey at read
  split at read
  · cases read
  · rename_i char after start
    rw [start, List.length_cons] at blanks
    split at read
    · cases read
    · split at read
      · have shorter : rest.length < after.length + 1 := nextKey_named_length read
        omega
      · split at read
        · cases read
        · have inner := dropBlanks_length_le after
          split at read
          · cases read
          · rename_i next left begun
            rw [begun, List.length_cons] at inner
            split at read
            · cases read
            · have shorter : rest.length < left.length + 1 := nextKey_named_length read
              omega

/-- A field: its key and how its value changes what is known so far. -/
structure Field (σ : Type) where
  name : String
  reader : Reader (σ → σ)

/-- The fields of a structure, what is known before any of them is read, and what is made of it in
the end, when some may be missing. -/
structure Shape (σ α : Type) where
  fields : List (Field σ)
  start : σ
  finish : σ → Except Problem α

namespace Shape

variable {σ α : Type}

/-- Reads the value of a key. A key of no field is skipped with its value, and a field is not given
twice. -/
def member (fields : List (Field σ)) (seen : List String) (state : σ) (key : String)
    (text : List Char) : Except Failure ((List String × σ) × List Char) :=
  match fields.find? (·.name == key) with
  | none => yielding (seen, state) (colon text >>= skip)
  | some field =>
      if seen.contains key then .error (.after (.repeatedField key) text)
      else
        match colon text with
        | .error failure => .error failure
        | .ok after => ((field.reader.map fun set => (key :: seen, set state)).run after)

theorem member_length {fields : List (Field σ)} {seen : List String} {state : σ} {key : String}
    {text rest : List Char} {known : List String × σ}
    (read : member fields seen state key text = .ok (known, rest)) : rest.length < text.length := by
  unfold member at read
  split at read
  · obtain ⟨after, ended, skipped⟩ := (bind_eq_ok _ _ _).mp (yielding_eq_ok read)
    exact Nat.lt_trans (skip_length skipped) (colon_length ended)
  · split at read
    · cases read
    · split at read
      · cases read
      · rename_i after ended
        exact Nat.lt_trans (Reader.shrinks _ read) (colon_length ended)

def members (fields : List (Field σ)) (first : Bool) (seen : List String) (state : σ)
    (text : List Char) : Except Failure (σ × List Char) :=
  match _next : nextKey first text with
  | .error failure => .error failure
  | .ok (none, rest) => .ok (state, rest)
  | .ok (some key, after) =>
      match _read : member fields seen state (String.ofList key) after with
      | .error failure => .error failure
      | .ok ((seen, state), rest) => members fields false seen state rest
termination_by text.length
decreasing_by exact Nat.lt_trans (member_length _read) (nextKey_length _next)

/-- Closes a list that holds every field already. -/
def closeList (text : List Char) : Except Failure (List Char) :=
  match dropBlanks text with
  | [] => .error (.upon .unfinishedList [])
  | char :: rest => if char = ']' then .ok rest else .error (.upon .trailingText (char :: rest))

/-- Reads fields by place, as many as there are. -/
def places (first : Bool) (state : σ) : List (Field σ) → List Char →
    Except Failure (σ × List Char)
  | [], text => yielding state (closeList text)
  | field :: fields, text =>
      match nextItem first text with
      | .error failure => .error failure
      | .ok (false, rest) => .ok (state, rest)
      | .ok (true, item) =>
          match field.reader.run item with
          | .error failure => .error failure
          | .ok (set, rest) => places false (set state) fields rest

/-- Reads a structure in either form. -/
def run (shape : Shape σ α) (text : List Char) : Except Failure (α × List Char) :=
  let read :=
    match dropBlanks text with
    | '\x7b' :: rest => members shape.fields true [] shape.start rest
    | '[' :: rest => places true shape.start shape.fields rest
    | other => .error (mismatch "a structure" other)
  match read with
  | .error failure => .error failure
  | .ok (state, rest) =>
      match shape.finish state with
      | .error problem => .error (.after problem rest)
      | .ok value => .ok (value, rest)

def read (shape : Shape σ α) (text : String) : Except Failure α :=
  document shape.run text.toList

end Shape

end SyntaxSpans.Json
