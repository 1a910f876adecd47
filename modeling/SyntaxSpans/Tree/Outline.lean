import SyntaxSpans.Text.Split
import SyntaxSpans.Tree.Basic

set_option autoImplicit false

/- Trees as plain text, for trees that were made elsewhere. The first line is `clean` or `broken`.
Every other line is a node, in document order: its depth, kind number, start, stop, marks and kind
name, and the field it is held under if there is one, with single blanks between them. The marks
are `n` for a named and `x` for an extra node, and `-` if there are none. -/
namespace SyntaxSpans.Outline

def node? (line : String) : Option (Nat × Label) :=
  let build (depth kind start stop marks name : String) (field : Option String) :=
    match depth.toNat?, kind.toNat?, start.toNat?, stop.toNat? with
    | some depth, some kind, some start, some stop =>
        let marked := marks.toList
        some (depth, ⟨kind, name, ⟨start, stop⟩, marked.contains 'n', marked.contains 'x', field⟩)
    | _, _, _, _ => none
  match splitText ' ' line with
  | [depth, kind, start, stop, marks, name] => build depth kind start stop marks name none
  | [depth, kind, start, stop, marks, name, field] =>
      build depth kind start stop marks name (some field)
  | _ => none

/-- The parse of an outline, if every line is well-formed and there is one tree. -/
def parse? (text : String) : Option Parse :=
  match (splitText '\n' text).filter (!·.isEmpty) with
  | [] => none
  | verdict :: lines =>
      match (lines.mapM node?).map Tree.ofLabels with
      | some [root] =>
          if verdict = "clean" then some ⟨root, false⟩
          else if verdict = "broken" then some ⟨root, true⟩
          else none
      | _ => none

end SyntaxSpans.Outline
