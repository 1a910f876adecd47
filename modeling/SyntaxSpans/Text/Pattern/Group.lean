import SyntaxSpans.Text.Pattern.Mode
import SyntaxSpans.Text.Wordlike

set_option autoImplicit false

namespace SyntaxSpans.Pattern

/-- A group with the name and the mode it has, or switches that hold from here on. -/
inductive Heading where
  | group (name : Option (List Char)) (mode : Mode)
  | switches (mode : Mode)

/-- A name of a group: letters, numbers and a few signs, and a letter or a low line in front. -/
private def isName : List Char → Bool
  | [] => false
  | first :: rest =>
      (first == '_' || Wordlike.isLetter first) &&
        rest.all fun char =>
          char == '_' || char == '.' || char == '[' || char == ']' || Wordlike.holds char

/-- Switches of a pattern, each at most once and those to turn off behind one dash. -/
private def areSwitches (text : List Char) : Bool :=
  text.all (fun char => "imsURux-".toList.contains char) && decide text.Nodup &&
    text.getLast? != some '-'

/-- What an opening parenthesis begins, and what follows: a name for the group, switches, or the
group itself. -/
def heading? (mode : Mode) (text : List Char) : Option (Heading × List Char) :=
  let named (text : List Char) : Option (Heading × List Char) :=
    let name := text.takeWhile (· != '>')
    match text.drop name.length with
    | '>' :: rest => if isName name then some (.group (some name) mode, rest) else none
    | _ => none
  match mode.skip text with
  | '?' :: 'P' :: '<' :: rest => named rest
  | '?' :: '<' :: rest => named rest
  | '?' :: rest =>
      let switches := rest.takeWhile fun char => char != ':' && char != ')'
      if !areSwitches switches then none
      else
        match rest.drop switches.length with
        | ':' :: after => some (.group none (mode.switch switches), after)
        | ')' :: after =>
            if switches.isEmpty then none else some (.switches (mode.switch switches), after)
        | _ => none
  | rest => some (.group none mode, rest)

end SyntaxSpans.Pattern
