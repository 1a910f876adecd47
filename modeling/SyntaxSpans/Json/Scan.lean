import SyntaxSpans.Json.Failure

set_option autoImplicit false

namespace SyntaxSpans.Json

def isBlank (char : Char) : Bool :=
  char == ' ' || char == '\n' || char == '\t' || char == '\r'

def dropBlanks (text : List Char) : List Char := text.dropWhile isBlank

theorem dropWhile_length_le (test : Char → Bool) (text : List Char) :
    (text.dropWhile test).length ≤ text.length := by
  induction text with
  | nil => exact Nat.le_refl _
  | cons char rest ih =>
      unfold List.dropWhile
      split
      · exact Nat.le_succ_of_le ih
      · exact Nat.le_refl _

theorem dropBlanks_length_le (text : List Char) : (dropBlanks text).length ≤ text.length :=
  dropWhile_length_le _ _

/-- Two readings in a row succeed exactly when both do. -/
theorem bind_eq_ok {ε α β : Type} (first : Except ε α) (next : α → Except ε β) (last : β) :
    (first >>= next) = .ok last ↔ ∃ value, first = .ok value ∧ next value = .ok last := by
  cases first with
  | error reason => simp only [bind, Except.bind, reduceCtorEq, false_and, exists_false]
  | ok value => simp only [bind, Except.bind, Except.ok.injEq, exists_eq_left']

def word : List Char → List Char → Except Failure (List Char)
  | [], text => .ok text
  | _ :: _, [] => .error (.after .unfinishedValue [])
  | letter :: letters, char :: rest =>
      if char = letter then word letters rest else .error ⟨.expectedWord, char :: rest, 1⟩

theorem word_length_le {letters text rest : List Char} (read : word letters text = .ok rest) :
    rest.length ≤ text.length := by
  fun_induction word letters text with
  | case1 text => cases read; exact Nat.le_refl _
  | case2 => cases read
  | case3 letters char text ih => exact Nat.le_succ_of_le (ih read)
  | case4 => cases read

def hexDigit? (char : Char) : Option Nat :=
  if char.isDigit then some (char.toNat - 0x30)
  else if 'a' ≤ char ∧ char ≤ 'f' then some (char.toNat - 0x57)
  else if 'A' ≤ char ∧ char ≤ 'F' then some (char.toNat - 0x37)
  else none

def hexValue? (value : Nat) : List Char → Option Nat
  | [] => some value
  | char :: rest =>
      match hexDigit? char with
      | some digit => hexValue? (value * 16 + digit) rest
      | none => none

/-- Reads four hexadecimal digits. A document with fewer than four bytes left is unfinished. -/
def hexUnit (text : List Char) : Except Failure (Nat × List Char) :=
  if Utf8.size (text.take 4) < 4 then .error (.after .unfinishedString [])
  else
    match text with
    | a :: b :: c :: d :: rest =>
        match hexValue? 0 [a, b, c, d] with
        | some unit => .ok (unit, rest)
        | none => .error ⟨.invalidEscape, text, 4⟩
    | _ => .error ⟨.invalidEscape, text, 4⟩

theorem hexUnit_length {text rest : List Char} {unit : Nat}
    (read : hexUnit text = .ok (unit, rest)) : rest.length < text.length := by
  unfold hexUnit at read
  split at read
  · cases read
  · split at read
    · split at read
      · cases read
        simp only [List.length_cons]
        omega
      · cases read
    · cases read

def isLeading (unit : Nat) : Bool := 0xD800 ≤ unit && unit ≤ 0xDBFF

def isTrailing (unit : Nat) : Bool := 0xDC00 ≤ unit && unit ≤ 0xDFFF

/-- Reads what has to stand between the two halves of a character. -/
def bridge : List Char → List Char → Except Failure (List Char)
  | [], text => .ok text
  | _ :: _, [] => .error (.after .unfinishedString [])
  | sign :: signs, char :: rest =>
      if char = sign then bridge signs rest else .error ⟨.unfinishedSurrogate, char :: rest, 1⟩

theorem bridge_length_le {signs text rest : List Char} (read : bridge signs text = .ok rest) :
    rest.length ≤ text.length := by
  fun_induction bridge signs text with
  | case1 text => cases read; exact Nat.le_refl _
  | case2 => cases read
  | case3 signs char text ih => exact Nat.le_succ_of_le (ih read)
  | case4 => cases read

/-- Reads a character given by number. A leading half needs a trailing one behind it. Where the text
is of no interest (`strict` is not set), a half may stand alone. -/
def numbered (strict : Bool) (text : List Char) : Except Failure (Char × List Char) :=
  match hexUnit text with
  | .error failure => .error failure
  | .ok (unit, rest) =>
      if !strict then .ok (Char.ofNat unit, rest)
      else if isTrailing unit then .error (.after .loneSurrogate rest)
      else if isLeading unit then
        match bridge ['\\', 'u'] rest with
        | .error failure => .error failure
        | .ok second =>
            match hexUnit second with
            | .error failure => .error failure
            | .ok (low, rest) =>
                if isTrailing low then
                  .ok (Char.ofNat (0x10000 + (unit - 0xD800) * 0x400 + (low - 0xDC00)), rest)
                else .error (.after .loneSurrogate rest)
      else .ok (Char.ofNat unit, rest)

def escaped? : Char → Option Char
  | '"' => some '"'
  | '\\' => some '\\'
  | '/' => some '/'
  | 'b' => some '\x08'
  | 'f' => some '\x0c'
  | 'n' => some '\n'
  | 'r' => some '\r'
  | 't' => some '\t'
  | _ => none

/-- Reads an escape after its backslash. -/
def escape (strict : Bool) : List Char → Except Failure (Char × List Char)
  | [] => .error (.after .unfinishedString [])
  | char :: rest =>
      match escaped? char with
      | some meant => .ok (meant, rest)
      | none =>
          if char = 'u' then numbered strict rest else .error ⟨.invalidEscape, char :: rest, 1⟩

theorem numbered_length {strict : Bool} {text rest : List Char} {char : Char}
    (read : numbered strict text = .ok (char, rest)) : rest.length < text.length := by
  unfold numbered at read
  split at read
  · cases read
  · rename_i unit middle first
    have shorter := hexUnit_length first
    split at read
    · cases read
      exact shorter
    · split at read
      · cases read
      · split at read
        · split at read
          · cases read
          · rename_i second bridged
            have between := bridge_length_le bridged
            split at read
            · cases read
            · rename_i low last other
              have shortest := hexUnit_length other
              split at read
              · injection read with same
                injection same with _ same
                subst same
                omega
              · cases read
        · cases read
          exact shorter

theorem escape_length {strict : Bool} {text rest : List Char} {char : Char}
    (read : escape strict text = .ok (char, rest)) : rest.length < text.length := by
  cases text with
  | nil => cases read
  | cons first left =>
      simp only [escape] at read
      split at read
      · rename_i meant known
        cases read
        exact Nat.lt_succ_self _
      · split at read
        · exact Nat.lt_succ_of_lt (numbered_length read)
        · cases read

/-- Reads a string after its opening quote. -/
def string (strict : Bool) (text : List Char) : Except Failure (List Char × List Char) :=
  match text with
  | [] => .error (.after .unfinishedString [])
  | char :: rest =>
      if char = '"' then .ok ([], rest)
      else if char = '\\' then
        match _found : escape strict rest with
        | .error failure => .error failure
        | .ok (meant, left) =>
            match string strict left with
            | .error failure => .error failure
            | .ok (chars, last) => .ok (meant :: chars, last)
      else if char.toNat < 0x20 then .error ⟨.controlCharacter, char :: rest, 1⟩
      else
        match string strict rest with
        | .error failure => .error failure
        | .ok (chars, last) => .ok (char :: chars, last)
termination_by text.length
decreasing_by
  · have := escape_length _found
    simp only [List.length_cons]
    omega
  · exact Nat.lt_succ_self _

theorem string_length {strict : Bool} {text chars rest : List Char}
    (read : string strict text = .ok (chars, rest)) : rest.length < text.length := by
  fun_induction string strict text generalizing chars with
  | case1 => cases read
  | case2 => cases read; exact Nat.lt_succ_self _
  | case3 => cases read
  | case4 => cases read
  | case5 text meant left found inner last whole other ih =>
      cases read
      have shorter := escape_length found
      have shortest := ih whole
      simp only [List.length_cons]
      omega
  | case6 => cases read
  | case7 => cases read
  | case8 char text quoted plain printable inner last read' ih =>
      cases read
      have shorter := ih read'
      simp only [List.length_cons]
      omega

/-- Reads digits into a number as long as it stays below a limit. -/
def accumulate (limit value : Nat) : List Char → Nat × List Char
  | [] => (value, [])
  | char :: rest =>
      let next := value * 10 + (char.toNat - 0x30)
      if char.isDigit && next < limit then accumulate limit next rest else (value, char :: rest)

theorem accumulate_length_le (limit value : Nat) (text : List Char) :
    (accumulate limit value text).2.length ≤ text.length := by
  fun_induction accumulate limit value text with
  | case1 value => exact Nat.le_refl _
  | case2 value char rest next fits ih => exact Nat.le_succ_of_le ih
  | case3 value char rest next stops => exact Nat.le_refl _

/-- Digits that did not fit are only counted. -/
def dropDigits (text : List Char) : List Char := text.dropWhile Char.isDigit

def countDigits (text : List Char) : Nat := (text.takeWhile Char.isDigit).length

theorem dropDigits_length_le (text : List Char) : (dropDigits text).length ≤ text.length :=
  dropWhile_length_le _ _

/-- The significand of a number takes what fits into a machine word, an exponent half as much. -/
def significandLimit : Nat := Nat.pow 2 64

def exponentLimit : Nat := Nat.pow 2 31

/-- The end of a float: the value, unless it is too large. -/
def float (minus : Bool) (significand : Nat) (exponent : Int) (rest : List Char) :
    Except Failure (Number × List Char) :=
  match Number.scale? significand exponent with
  | none => .error (.after .numberOutOfRange rest)
  | some size => .ok (.float (if minus then -size else size), rest)

/-- Reads the sign of an exponent; without one it is positive. -/
def exponentSign : List Char → Bool × List Char
  | '-' :: rest => (true, rest)
  | '+' :: rest => (false, rest)
  | text => (false, text)

/-- Reads an exponent after its letter. One that is too long to be held makes the number zero if it
is negative and refuses it otherwise, unless the number is zero in any case. -/
def exponent (minus : Bool) (significand : Nat) (shift : Int) (text : List Char) :
    Except Failure (Number × List Char) :=
  let sign := exponentSign text
  match sign.2 with
  | [] => .error (.after .unfinishedValue [])
  | char :: rest =>
      if !char.isDigit then .error ⟨.invalidNumber, char :: rest, 1⟩
      else
        let power := accumulate exponentLimit 0 (char :: rest)
        if countDigits power.2 = 0 then
          float minus significand (if sign.1 then shift - power.1 else shift + power.1) power.2
        else if significand ≠ 0 ∧ !sign.1 then
          .error (.after .numberOutOfRange (power.2.drop 1))
        else float minus 0 0 (dropDigits power.2)

def floatEnd (minus : Bool) (significand : Nat) (shift : Int) (text : List Char) :
    Except Failure (Number × List Char) :=
  match text with
  | 'e' :: rest | 'E' :: rest => exponent minus significand shift rest
  | _ => float minus significand shift text

/-- Reads the digits after a point. Those that do not fit are left out. -/
def fraction (minus : Bool) (significand : Nat) (shift : Int) (text : List Char) :
    Except Failure (Number × List Char) :=
  if countDigits text = 0 then
    .error (.upon (if text.isEmpty then .unfinishedValue else .invalidNumber) text)
  else
    let digits := accumulate significandLimit significand text
    floatEnd minus digits.1 (shift - (countDigits text - countDigits digits.2 : Nat))
      (dropDigits digits.2)

/-- Reads a number after its sign. A zero in front stands alone; whole digits that do not fit make
the number a float and scale it up. -/
def unsigned (minus : Bool) : List Char → Except Failure (Number × List Char)
  | [] => .error (.after .unfinishedValue [])
  | char :: rest =>
      if !char.isDigit then .error ⟨.invalidNumber, char :: rest, 1⟩
      else if char = '0' ∧ countDigits rest ≠ 0 then .error (.upon .invalidNumber rest)
      else
        let whole := accumulate significandLimit 0 (char :: rest)
        let shift : Int := countDigits whole.2
        match dropDigits whole.2 with
        | '.' :: after => fraction minus whole.1 shift after
        | 'e' :: after | 'E' :: after => exponent minus whole.1 shift after
        | after =>
            if shift = 0 then .ok (.ofWhole minus whole.1, after)
            else float minus whole.1 shift after

def number : List Char → Except Failure (Number × List Char)
  | '-' :: rest => unsigned true rest
  | text => unsigned false text

theorem float_rest {minus : Bool} {significand : Nat} {shift : Int} {text rest : List Char}
    {value : Number} (read : float minus significand shift text = .ok (value, rest)) :
    rest = text := by
  unfold float at read
  split at read
  · cases read
  · cases read
    rfl

theorem exponentSign_length_le (text : List Char) : (exponentSign text).2.length ≤ text.length := by
  unfold exponentSign
  split
  · exact Nat.le_succ _
  · exact Nat.le_succ _
  · exact Nat.le_refl _

theorem exponent_length_le {minus : Bool} {significand : Nat} {shift : Int} {text rest : List Char}
    {value : Number} (read : exponent minus significand shift text = .ok (value, rest)) :
    rest.length ≤ text.length := by
  have signed := exponentSign_length_le text
  unfold exponent at read
  simp only at read
  split at read
  · cases read
  · rename_i char after sign
    have digits := accumulate_length_le exponentLimit 0 (char :: after)
    have unread := dropDigits_length_le (accumulate exponentLimit 0 (char :: after)).2
    rw [sign] at signed
    split at read
    · cases read
    · split at read
      · rw [float_rest read]
        omega
      · split at read
        · cases read
        · rw [float_rest read]
          omega

theorem floatEnd_length_le {minus : Bool} {significand : Nat} {shift : Int} {text rest : List Char}
    {value : Number} (read : floatEnd minus significand shift text = .ok (value, rest)) :
    rest.length ≤ text.length := by
  unfold floatEnd at read
  split at read
  · exact Nat.le_succ_of_le (exponent_length_le read)
  · exact Nat.le_succ_of_le (exponent_length_le read)
  · exact Nat.le_of_eq (congrArg List.length (float_rest read))

theorem fraction_length_le {minus : Bool} {significand : Nat} {shift : Int} {text rest : List Char}
    {value : Number} (read : fraction minus significand shift text = .ok (value, rest)) :
    rest.length ≤ text.length := by
  unfold fraction at read
  split at read
  · cases read
  · have shorter := floatEnd_length_le read
    have unread := dropDigits_length_le (accumulate significandLimit significand text).2
    have digits := accumulate_length_le significandLimit significand text
    omega

theorem dropDigits_accumulate_length {limit value : Nat} {char : Char} {text : List Char}
    (digit : char.isDigit = true) :
    (dropDigits (accumulate limit value (char :: text)).2).length ≤ text.length := by
  unfold accumulate
  simp only
  split
  · have first := dropDigits_length_le
      (accumulate limit (value * 10 + (char.toNat - 0x30)) text).2
    have second := accumulate_length_le limit (value * 10 + (char.toNat - 0x30)) text
    omega
  · simp only [dropDigits, List.dropWhile_cons, digit, ↓reduceIte]
    exact dropWhile_length_le _ _

theorem unsigned_length {minus : Bool} {text rest : List Char} {value : Number}
    (read : unsigned minus text = .ok (value, rest)) : rest.length < text.length := by
  unfold unsigned at read
  split at read
  · cases read
  · rename_i char after
    split at read
    · cases read
    · rename_i digit
      have shorter := @dropDigits_accumulate_length significandLimit 0 char after
        (by simpa using digit)
      split at read
      · cases read
      · simp only at read
        split at read
        · rename_i left point
          have bound := fraction_length_le read
          rw [point] at shorter
          simp only [List.length_cons] at shorter ⊢
          omega
        · rename_i left letter
          have bound := exponent_length_le read
          rw [letter] at shorter
          simp only [List.length_cons] at shorter ⊢
          omega
        · rename_i left letter
          have bound := exponent_length_le read
          rw [letter] at shorter
          simp only [List.length_cons] at shorter ⊢
          omega
        · split at read
          · cases read
            exact Nat.lt_succ_of_le shorter
          · rw [float_rest read]
            exact Nat.lt_succ_of_le shorter

theorem number_length {text rest : List Char} {value : Number}
    (read : number text = .ok (value, rest)) : rest.length < text.length := by
  unfold number at read
  split at read
  · exact Nat.lt_succ_of_lt (unsigned_length read)
  · exact unsigned_length read

end SyntaxSpans.Json
