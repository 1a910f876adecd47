import SyntaxSpans.Text.Offsets

set_option autoImplicit false

/- Syntax trees as a parser hands them over. Everything about a node but its children is in its
label. Children keep document order; a child may be held under the name of a field, and a child that
can stand anywhere, such as a comment, is marked as extra. -/
namespace SyntaxSpans

abbrev KindId := Nat

structure Label where
  kind : KindId
  name : String
  span : Span
  named : Bool
  extra : Bool
  field : Option String
  deriving DecidableEq

inductive Tree where
  | node (label : Label) (children : List Tree)

namespace Tree

def label : Tree → Label
  | node label _ => label

def children : Tree → List Tree
  | node _ children => children

def isKind (tree : Tree) (name : String) : Bool := tree.label.name == name

def namedChildren (tree : Tree) : List Tree := tree.children.filter (·.label.named)

def isField (tree : Tree) (field : String) : Bool := tree.label.field == some field

/-- The first child held under a field. -/
def childByField? (tree : Tree) (field : String) : Option Tree :=
  tree.children.find? (·.isField field)

/-- The characters that the tree covers, nothing if its span cuts through a character. -/
def text (source : List Char) (tree : Tree) : List Char :=
  (slice? source tree.label.span).getD []

mutual

def size : Tree → Nat
  | node _ children => sizeAll children + 1

def sizeAll : List Tree → Nat
  | [] => 0
  | tree :: rest => tree.size + sizeAll rest

end

theorem size_pos (tree : Tree) : 0 < tree.size := by
  cases tree with
  | node label children => simp only [size]; omega

@[simp] theorem node_label_children (tree : Tree) : node tree.label tree.children = tree := by
  cases tree
  rfl

/-- Trees from their labels in document order, each with its depth. A label takes as children the
trees after it that lie deeper, up to the first that does not. -/
def ofLabels (labels : List (Nat × Label)) : List Tree :=
  (labels.foldr gather []).map (·.2)
where
  /-- Puts one label on top of the trees that follow it. -/
  gather (entry : Nat × Label) (after : List (Nat × Tree)) : List (Nat × Tree) :=
    let deeper := after.takeWhile fun next => entry.1 < next.1
    (entry.1, node entry.2 (deeper.map (·.2))) :: after.drop deeper.length

end Tree

/-- What a parser returns for a text. Whether it had to skip or invent anything is its own verdict:
it can hold of trees that show no such node. -/
structure Parse where
  root : Tree
  hasErrors : Bool

end SyntaxSpans
