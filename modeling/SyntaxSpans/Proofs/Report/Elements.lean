import SyntaxSpans.Proofs.Tree.Preorder
import SyntaxSpans.Report

set_option autoImplicit false

namespace SyntaxSpans

def Registry.isDeclarationElement (registry : Registry) (element : Element) : Bool :=
  !element.isTrivia && registry.isDeclaration element.kind

/-- An element that the registry knows as a comment, extra or structural. -/
def Registry.isCommentElement (registry : Registry) (element : Element) : Bool :=
  if element.isTrivia then registry.isComment element.kind
  else registry.isStatementComment element.kind

def Node.elements (node : Node) : List Element := node.outsideExtras.map Element.classify

theorem declarationElements_eq (registry : Registry) (node : Node) :
    declarationElements registry node = node.elements.filter registry.isDeclarationElement := by
  unfold declarationElements
  rw [Node.walk_eq_filter, List.filter_filter]
  apply List.filter_congr
  intro element _
  simp only [Registry.isDeclarationElement, Pass.admits, Bool.and_comm]

theorem isStatementComment_of_none {registry : Registry}
    (none : registry.hasStatementComments = false) (kind : KindId) :
    registry.isStatementComment kind = false := by
  have empty : registry.statementComments = [] := by
    simpa [Registry.hasStatementComments] using none
  simp only [Registry.isStatementComment, empty, List.contains_nil]

theorem commentElements_eq (registry : Registry) (node : Node) :
    commentElements registry node = node.elements.filter registry.isCommentElement := by
  unfold commentElements
  rw [Node.walk_eq_filter, List.filter_filter]
  apply List.filter_congr
  intro element _
  cases statements : registry.hasStatementComments with
  | true => simp only [Registry.isCommentElement, ↓reduceIte, Pass.admits, Bool.and_true]
  | false =>
      have structural := isStatementComment_of_none statements element.kind
      cases trivia : element.isTrivia <;>
        simp [Registry.isCommentElement, Pass.admits, trivia, structural]

/-- The elements that a report of a tree is made from: its declarations and then its comments. -/
def Registry.listed (registry : Registry) (root : Tree) : List Element :=
  (Node.root root).elements.filter registry.isDeclarationElement ++
    (Node.root root).elements.filter registry.isCommentElement

namespace Extractor

def declarations (extractor : Extractor) (root : Tree) : List Record :=
  ((Node.root root).elements.filter extractor.registry.isDeclarationElement).filterMap
    extractor.report?

def comments (extractor : Extractor) (root : Tree) : List Record :=
  ((Node.root root).elements.filter extractor.registry.isCommentElement).filterMap
    extractor.report?

theorem extract_eq_append (extractor : Extractor) (root : Tree) :
    extractor.extract root = extractor.declarations root ++ extractor.comments root := by
  unfold extract
  dsimp only
  rw [declarationElements_eq, commentElements_eq]
  rfl

/-- What is listed depends on the registry alone, and each element listed has a record or none. -/
theorem extract_eq_filterMap (extractor : Extractor) (root : Tree) :
    extractor.extract root = (extractor.registry.listed root).filterMap extractor.report? := by
  rw [extract_eq_append, Registry.listed, List.filterMap_append]
  rfl

end Extractor

end SyntaxSpans
