import SyntaxSpans.Proofs.Kinds.Claims
import SyntaxSpans.Proofs.Report.Elements
import SyntaxSpans.Proofs.Report.Order
import SyntaxSpans.Proofs.Tree.Children

set_option autoImplicit false

namespace SyntaxSpans

def Tree.record (tree : Tree) (category : Category) : Record :=
  ⟨category, tree.label.span.start, tree.label.span.stop⟩

/-- The record of a declaration in bytes: the first entry of the table with the name of the node
proposes a category, and the rule decides. -/
def Registry.declaration? (registry : Registry) (source : List Char) (node : Node) :
    Option Record :=
  if node.label.extra then none
  else
    ((registry.table.declarations.find? fun entry => node.isKind entry.2).bind fun entry =>
      registry.refine node source entry.1).map node.tree.record

namespace Extractor

variable {grammar : Grammar} {table : Table} {selection : Selection} {source : List Char}

/-- A node is reported in the pass over declarations exactly if it is one that is selected. -/
theorem report?_declaration {node : Node} (fits : table.Fits grammar node.label) :
    (if (Registry.build grammar table).isDeclarationElement (.classify node) then
        (create (.build grammar table) selection source .bytes).report? (.classify node)
      else none) =
      ((Registry.build grammar table).declaration? source node).filter
        fun record => selection.contains record.category := by
  unfold Registry.isDeclarationElement report? categorize Registry.declaration?
  rw [Element.kind_classify, Element.isTrivia_classify]
  cases node.label.extra with
  | true => rfl
  | false =>
      have claimed : (Registry.build grammar table).declared.lookup node.label.kind =
          ((Registry.build grammar table).table.declarations.find? fun entry =>
            node.isKind entry.2).map (·.1) := fits.lookup_declared
      have known : (Registry.build grammar table).isDeclaration node.label.kind =
          ((Registry.build grammar table).declared.lookup node.label.kind).isSome := by
        rw [Bool.eq_iff_iff, Registry.isDeclaration_iff, Option.isSome_iff_exists]
      rw [known, claimed]
      dsimp only [create]
      unfold Registry.categoryOf?
      rw [claimed]
      cases (Registry.build grammar table).table.declarations.find? fun entry =>
          node.isKind entry.2 with
      | none => rfl
      | some entry =>
          simp only [Option.map_some, Option.isSome_some, Bool.not_false, Bool.and_self,
            Bool.false_eq_true, ↓reduceIte, Option.bind_some, Element.place_classify]
          cases (Registry.build grammar table).refine node source entry.1 with
          | none => rfl
          | some category =>
              simp only [OffsetIndex.convert, Element.span_classify, Option.map_some,
                Option.filter_some]
              rfl

theorem declarations_eq_filterMap {root : Tree}
    (fits : ∀ label ∈ root.labels, table.Fits grammar label) :
    (create (.build grammar table) selection source .bytes).declarations root =
      ((Node.root root).outsideExtras.filterMap
        ((Registry.build grammar table).declaration? source)).filter
          fun record => selection.contains record.category := by
  unfold declarations Node.elements
  rw [List.filterMap_filter, List.filterMap_map, List.filter_filterMap]
  apply List.filterMap_congr
  intro node visited
  exact report?_declaration (fits _ (Node.label_mem_labels visited))

end Extractor

end SyntaxSpans
