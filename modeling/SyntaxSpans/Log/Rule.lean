import SyntaxSpans.Log.Event
import SyntaxSpans.Names
import SyntaxSpans.Text.Blank
import SyntaxSpans.Text.Offsets
import SyntaxSpans.Text.Pattern

set_option autoImplicit false

/- One rule of a filter and its text: a level, an address, or both with an equals sign between them.
Behind the address there may be brackets. They name a stretch of time, and in braces a field of it;
a rule about a stretch by name, or about the value of a field, says nothing about single notes. -/
namespace SyntaxSpans.Log

/-- How much is shown of the topics below an address: notes of that rank and before it. The empty
address holds for all topics. A rule that asks for a field holds for notes that have it, and is
closer to them than one that asks for none. -/
structure Rule where
  address : List Char
  field : Option (List Char) := none
  rank : Nat

namespace Rule

/-- The only field of a note: its text. -/
def noteField : List Char := "message".toList

def isAbout (rule : Rule) (note : Note) : Bool :=
  rule.address.isPrefixOf note.topic.address.toList &&
    (rule.field.isNone || rule.field == some noteField)

/-- Whether a rule is at least as close to the notes it is about as another one: by the length of
its address first, and by the field it asks for after that. -/
def isCloser (rule other : Rule) : Bool :=
  other.address.length < rule.address.length ||
    (other.address.length == rule.address.length && (other.field.isNone || rule.field.isSome))

/-- A number of one place, zeros and a plus sign in front of it aside. -/
private def smallNumber? (text : List Char) : Option Nat :=
  let digits := match text with
    | '+' :: rest => rest
    | _ => text
  match digits.dropWhile (· == '0') with
  | [] => if digits.isEmpty then none else some 0
  | [digit] => if digit.isDigit then some (digit.toNat - '0'.toNat) else none
  | _ => none

/-- The rank that a level is given by, as a name in any case of letters or as a number. -/
def rankOf? (text : List Char) : Option Nat :=
  match smallNumber? text with
  | some number => if number ≤ 5 then some number else none
  | none =>
      let folded := foldCase (String.ofList text)
      if folded == "off" then some 0
      else (Level.all.find? fun level => foldCase level.name == folded).map Level.rank

/-- Whether a text is a number with a plus sign in front, infinite ones and those that are none
included. -/
private def isPlusNumber : List Char → Bool
  | '+' :: size =>
      let whole := size.takeWhile Char.isDigit
      let after := size.drop whole.length
      let part := match after with
        | '.' :: rest => rest.takeWhile Char.isDigit
        | _ => []
      let after := match after with
        | '.' :: rest => rest.drop part.length
        | _ => after
      let power := match after with
        | 'e' :: '+' :: rest | 'e' :: '-' :: rest | 'E' :: '+' :: rest | 'E' :: '-' :: rest => rest
        | 'e' :: rest | 'E' :: rest => rest
        | [] => ['0']
        | _ => []
      ["inf", "infinity", "nan"].contains (foldCase (String.ofList size)) ||
        (!(whole.isEmpty && part.isEmpty) && !power.isEmpty && power.all Char.isDigit)
  | _ => false

/-- Whether a text is a value that a field may be asked for: a number or a pattern. Truth values and
numbers without a plus sign are patterns as well. -/
def isValue (text : List Char) : Bool := isPlusNumber text || Pattern.isWellFormed text

inductive Request where
  | field (name : List Char)
  | stretch

/-- The field in braces: a name, which may be followed by an equals sign and a value. Without a
value it is asked for in notes too. -/
def request? (text : List Char) : Option Request :=
  let name := text.takeWhile (· != '=')
  match text.drop name.length with
  | [] => if text.isEmpty then none else some (.field name)
  | _ :: rest => if isValue (rest.takeWhile (· != '=')) then some .stretch else none

private def mayBegin (char : Char) : Bool :=
  char == '-' || char == ':' || char == '_' || Wordlike.holds char

/-- The rank at the end of a rule, from a place on; the highest if there is nothing, or no equals
sign at all. -/
private def ending? (text : List Char) (place : Nat) : List Char → Option Nat
  | [] => some Level.trace.rank
  | '=' :: _ =>
      (dropBytes (place + 1) text).bind fun level =>
        if level.isEmpty then some Level.trace.rank else rankOf? level
  | _ => none

/-- What stands from an opening bracket on: what the brackets ask for, and the rank. -/
private def bracketed? (text : List Char) (place : Nat) (inside : List Char) :
    Option (Request × Nat) :=
  let name := inside.takeWhile fun char => char != ']' && char != '\x7b'
  let place := place + Utf8.size name
  match inside.drop name.length with
  | ']' :: after => (ending? text (place + 1) after).map fun rank => (.stretch, rank)
  | '\x7b' :: inner =>
      let field := inner.takeWhile (· != '\x7d')
      let start := place + 1
      let stop := start + Utf8.size field
      match inner.drop field.length with
      | '\x7d' :: ']' :: after =>
          match (slice? text ⟨start, stop⟩).bind request?, ending? text (stop + 2) after with
          | some request, some rank =>
              some (if name.isEmpty then request else .stretch, rank)
          | _, _ => none
      | _ => none
  | _ => none

/-- Reads a rule; nothing comes of one that is not about notes. Its parts are found in the text
without the blanks around it, but cut out of the text as it is, by their places. So a rule with
blanks in front is about nothing, if it is one at all. -/
def ofText? (text : List Char) : Option (Option Rule) :=
  let trimmed := Blank.trim text
  match trimmed with
  | [] => none
  | first :: _ =>
      if first != '[' && !mayBegin first then none
      else
        let head := trimmed.takeWhile fun char => char != '=' && char != '['
        let place := Utf8.size head
        match trimmed.drop head.length with
        | [] =>
            match rankOf? text with
            | some rank => some (some { address := [], rank })
            | none => some (some { address := text, rank := Level.trace.rank })
        | '[' :: inside =>
            match takeBytes place text, bracketed? text (place + 1) inside with
            | some address, some (.field name, rank) =>
                some (some { address, field := some name, rank })
            | some _, some (.stretch, _) => some none
            | _, _ => none
        | after =>
            match takeBytes place text, ending? text place after with
            | some address, some rank => some (some { address, rank })
            | _, _ => none

end Rule

end SyntaxSpans.Log
