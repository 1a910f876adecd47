import SyntaxSpans.Languages.Python
import SyntaxSpans.Proofs.Python.Levels
import SyntaxSpans.Proofs.Report.Comments
import SyntaxSpans.Proofs.Tree.Pruning

set_option autoImplicit false

/- Comments do not matter for anything else. Every question that the rule of the language asks has
the same answer in a tree without some of its comments: climbing never meets a comment, fields never
hold one, and where named children are looked through, comments are passed over by kind or as extra.
Only the expression of a decorator is taken as the first named child, whatever that is. -/
namespace SyntaxSpans

/-- A comment in a tree that holds nothing and is held under no field, and that does not stand where
the expression of a decorator is looked for. -/
structure Node.IsLooseComment (node : Node) : Prop where
  inside : node.parent? ≠ none
  childless : node.tree.children = []
  extra : node.label.extra = true
  comment : node.label.name = "comment"
  unheld : node.label.field = none
  apart : ∀ decorator, node.parent? = some decorator → decorator.isKind "decorator" = true →
    decorator.below.find? (fun child => child.label.named) ≠ some node

def DropsComments (drops : Node → Bool) : Prop :=
  ∀ node, drops node = true → node.IsLooseComment

namespace Tree

theorem text_congr {tree other : Tree} (same : tree.label = other.label) (source : List Char) :
    tree.text source = other.text source := by
  rw [text, text, same]

theorem isKind_congr {tree other : Tree} (same : tree.label = other.label) (kind : String) :
    tree.isKind kind = other.isKind kind := by
  rw [isKind, isKind, same]

end Tree

namespace DropsComments

variable {drops : Node → Bool}

theorem leaves (comments : DropsComments drops) : Node.DropsLeaves drops :=
  fun node dropped => (comments node dropped).childless

theorem unheld (comments : DropsComments drops) (node : Node) (dropped : drops node = true) :
    node.label.field = none :=
  (comments node dropped).unheld

theorem root (comments : DropsComments drops) (tree : Tree) : drops (.root tree) = false := by
  rw [← Bool.not_eq_true]
  intro dropped
  exact (comments _ dropped).inside rfl

end DropsComments

namespace Python

variable {drops : Node → Bool} {node holder owner : Node} {source : List Char}

section Climbing

variable (comments : DropsComments drops) (kept : drops node = false)

include comments

theorem kept_holder? (found : holder? node = some holder) : drops holder = false := by
  unfold holder? at found
  split at found
  · cases found
  · rename_i parent up
    split at found
    · exact comments.leaves.parent? found
    · cases found
      exact comments.leaves.parent? up

include kept

theorem holder?_prune : holder? (node.prune drops) = (holder? node).map (Node.prune drops) := by
  unfold holder?
  rw [Node.parent?_prune kept]
  cases up : node.parent? with
  | none => rfl
  | some parent =>
      simp only [Option.map_some, Node.isKind_prune]
      split
      · exact Node.parent?_prune (comments.leaves.parent? up)
      · rfl

theorem bodyOwner?_prune :
    bodyOwner? (node.prune drops) = (bodyOwner? node).map (Node.prune drops) := by
  unfold bodyOwner?
  rw [holder?_prune comments kept]
  cases held : holder? node with
  | none => rfl
  | some holder =>
      simp only [Option.map_some, Node.isKind_prune]
      split
      · rfl
      · split
        · exact Node.parent?_prune (kept_holder? comments held)
        · rfl

end Climbing

theorem atDeclarationLevel_prune (drops : Node → Bool) (node : Node) :
    atDeclarationLevel (node.prune drops) = atDeclarationLevel node := by
  rw [atDeclarationLevel_eq, atDeclarationLevel_eq, roleOf, roleOf, Node.ancestorKinds_prune]

section Texts

variable {tree other : Tree}

theorem isPlainString_congr (same : tree.label = other.label) :
    isPlainString source tree = isPlainString source other := by
  rw [isPlainString, isPlainString, Tree.text_congr same]

theorem isPropertyMark_eq (decorator : Tree) :
    isPropertyMark source decorator =
      ((decorator.children.find? fun child => child.label.named).any fun expression =>
        expression.isKind "identifier" && expression.text source == "property".toList) := by
  rw [← List.head?_filter]
  unfold isPropertyMark Tree.namedChildren
  cases decorator.children.filter fun child => child.label.named with
  | nil => rfl
  | cons first rest => rfl

end Texts

section Fields

theorem childByField?_eq (node : Node) (field : String) :
    node.tree.childByField? field =
      (node.below.find? fun child => child.label.field == some field).map (·.tree) :=
  node.find?_children fun label => label.field == some field

variable (comments : DropsComments drops)

include comments

/-- A field holds no comment, so what it holds stays. -/
theorem childByField?_prune (node : Node) (field : String) :
    (node.prune drops).tree.childByField? field =
      (node.below.find? fun child => child.label.field == some field).map fun child =>
        (child.prune drops).tree := by
  refine @Node.find?_children_prune drops (fun label => label.field == some field) node ?_
  intro child found
  have held := List.find?_some found
  rw [← Bool.not_eq_true]
  intro dropped
  rw [comments.unheld child dropped] at held
  cases held

theorem isNone_childByField?_prune (node : Node) (field : String) :
    ((node.prune drops).tree.childByField? field).isNone =
      (node.tree.childByField? field).isNone := by
  rw [childByField?_prune comments, childByField?_eq, Option.isNone_map,
    Option.isNone_map]

theorem isInitialiser_prune (function : Node) :
    isInitialiser (function.prune drops) source = isInitialiser function source := by
  unfold isInitialiser
  rw [childByField?_prune comments, childByField?_eq]
  cases function.below.find? fun child => child.label.field == some "name" with
  | none => rfl
  | some name =>
      simp only [Option.map_some]
      rw [Tree.text_congr (name.label_prune drops)]

end Fields

section Decorators

variable (comments : DropsComments drops)

include comments

/-- No comment stands where the expression of a decorator is looked for, so the same one is found. -/
theorem isPropertyMark_prune {decorator : Node} (marks : decorator.isKind "decorator" = true) :
    isPropertyMark source (decorator.prune drops).tree = isPropertyMark source decorator.tree := by
  have stays : ∀ child, decorator.below.find? (fun child => child.label.named) = some child →
      drops child = false := by
    intro child found
    rw [← Bool.not_eq_true]
    intro dropped
    have up := Node.parent?_below (List.mem_of_find?_eq_some found)
    exact (comments child dropped).apart decorator up marks found
  rw [isPropertyMark_eq, isPropertyMark_eq,
    @Node.find?_children_prune drops (fun label => label.named) decorator stays,
    decorator.find?_children fun label => label.named]
  cases decorator.below.find? fun child => child.label.named with
  | none => rfl
  | some expression =>
      simp only [Option.map_some, Option.any_some]
      rw [Tree.isKind_congr (expression.label_prune drops),
        Tree.text_congr (expression.label_prune drops)]

theorem fails_of_kind {kind : String} (other : kind ≠ "comment") (child : Node)
    (dropped : drops child = true) :
    (child.label.named && child.label.name == kind) = false := by
  rw [(comments child dropped).comment, beq_eq_false_iff_ne.mpr other.symm, Bool.and_false]

theorem isProperty_prune (kept : drops node = false) :
    isProperty (node.prune drops) source = isProperty node source := by
  have marks (tree : Tree) : (tree.namedChildren.any fun child =>
      child.isKind "decorator" && isPropertyMark source child) =
        ((tree.children.filter fun child =>
          child.label.named && child.label.name == "decorator").map
            (isPropertyMark source)).any id := by
    rw [Tree.namedChildren, List.any_map, List.any_filter, List.any_filter]
    simp only [Bool.and_assoc]
    rfl
  unfold isProperty
  rw [Node.parent?_prune kept]
  cases node.parent? with
  | none => rfl
  | some decorated =>
      simp only [Option.map_some, Node.isKind_prune, marks]
      rw [@Node.map_filter_children_prune drops
        (fun label => label.named && label.name == "decorator") Bool (isPropertyMark source)
        decorated (fails_of_kind comments (by decide))]
      intro child _ decorator
      rw [Bool.and_eq_true] at decorator
      exact isPropertyMark_prune comments decorator.2

end Decorators

section Statements

variable (comments : DropsComments drops)

include comments

/-- The strings side by side in a literal are the same, whatever stands between them. -/
theorem all_isPlainString_prune (literal : Node) :
    ((literal.prune drops).tree.namedChildren.all fun part =>
        !part.isKind "string" || isPlainString source part) =
      literal.tree.namedChildren.all fun part =>
        !part.isKind "string" || isPlainString source part := by
  have strings (tree : Tree) : (tree.namedChildren.all fun part =>
      !part.isKind "string" || isPlainString source part) =
        ((tree.children.filter fun child =>
          child.label.named && child.label.name == "string").map
            (isPlainString source)).all id := by
    rw [Tree.namedChildren, List.all_map, List.all_filter, List.all_filter]
    simp only [Bool.not_and, Bool.or_assoc]
    rfl
  rw [strings, strings, @Node.map_filter_children_prune drops
    (fun label => label.named && label.name == "string") Bool (isPlainString source) literal
    (fails_of_kind comments (by decide))]
  intro child _ _
  exact isPlainString_congr (child.label_prune drops)

/-- What is extra in a statement does not count, so nothing that counts is dropped. -/
theorem isStringStatement_prune (statement : Node) :
    isStringStatement (statement.prune drops) source = isStringStatement statement source := by
  have parts (tree : Tree) : (tree.namedChildren.filter fun child => !child.label.extra) =
      tree.children.filter fun child => !child.label.extra && child.label.named := by
    rw [Tree.namedChildren, List.filter_filter]
  have fails : ∀ child, drops child = true → (!child.label.extra && child.label.named) = false := by
    intro child dropped
    rw [(comments child dropped).extra]
    rfl
  unfold isStringStatement
  rw [parts, parts, statement.filter_children fun label => !label.extra && label.named,
    @Node.filter_children_prune drops (fun label => !label.extra && label.named) fails]
  generalize (statement.below.filter fun child => !child.label.extra && child.label.named) = counted
  rcases counted with _ | ⟨expression, _ | ⟨second, rest⟩⟩
  · rfl
  · have same : (expression.prune drops).tree.label = expression.tree.label :=
      expression.label_prune drops
    simp only [List.map_cons, List.map_nil]
    rw [Tree.isKind_congr same, Tree.isKind_congr same, isPlainString_congr same,
      all_isPlainString_prune comments]
  · rfl

end Statements

section Rule

variable (comments : DropsComments drops) (kept : drops node = false)

include comments kept

theorem declaresFields_prune :
    declaresFields (node.prune drops) source = declaresFields node source := by
  unfold declaresFields
  rw [bodyOwner?_prune comments kept, atDeclarationLevel_prune]
  cases bodyOwner? node with
  | none => rfl
  | some owner =>
      simp only [Option.map_some, Node.isKind_prune, isInitialiser_prune comments,
        atDeclarationLevel_prune]

theorem isFieldTarget_prune :
    isFieldTarget (node.prune drops) source = isFieldTarget node source := by
  unfold isFieldTarget
  rw [Node.parent?_prune kept]
  cases up : node.parent? with
  | none => rfl
  | some assignment =>
      have inner := comments.leaves.parent? up
      simp only [Option.map_some, Node.isKind_prune, Node.isFirstUnder_prune comments.unheld,
        isNone_childByField?_prune comments, Node.parent?_prune inner]
      cases outer : assignment.parent? with
      | none => rfl
      | some statement =>
          simp only [Option.map_some, Node.isKind_prune,
            declaresFields_prune comments (comments.leaves.parent? outer)]

/-- The rule of the language says the same of every node that stays. -/
theorem contextRule_prune (category : Category) :
    contextRule (node.prune drops) source category = contextRule node source category := by
  cases category with
  | classDef => simp only [contextRule, atDeclarationLevel_prune]
  | function => simp only [contextRule, atDeclarationLevel_prune, isProperty_prune comments kept]
  | field => simp only [contextRule, isFieldTarget_prune comments kept]
  | comment =>
      simp only [contextRule, atDeclarationLevel_prune, isStringStatement_prune comments]
  | property => rfl
  | namespaceDef => rfl

end Rule

section Report

variable {selection : Selection} {unit : SpanUnit}

/-- A node that stays is reported as before. -/
theorem report?_prune (comments : DropsComments drops) (kept : drops node = false) :
    (Extractor.create registry selection source unit).report? (.classify (node.prune drops)) =
      (Extractor.create registry selection source unit).report? (.classify node) := by
  have category : (Extractor.create registry selection source unit).categorize
      (.classify (node.prune drops)) =
        (Extractor.create registry selection source unit).categorize (.classify node) := by
    unfold Extractor.categorize
    rw [Element.isTrivia_classify, Element.isTrivia_classify, Element.kind_classify,
      Element.kind_classify, Element.place_classify, Element.place_classify, Node.label_prune]
    have rule : registry.refine (node.prune drops) source = registry.refine node source := by
      funext category
      exact contextRule_prune comments kept category
    dsimp only [Extractor.create]
    rw [rule]
  rw [Extractor.report?_eq_map, Extractor.report?_eq_map, category, Element.span_classify,
    Element.span_classify, Node.label_prune]

end Report

section Reduced

variable {drops : Node → Bool} {selection : Selection} {source : List Char} {unit : SpanUnit}

theorem filter_map_prune {keep : Node → Bool}
    (same : ∀ node, drops node = false → keep (node.prune drops) = keep node)
    (nodes : List Node) :
    ((nodes.filter fun node => !drops node).map (Node.prune drops)).filter keep =
      ((nodes.filter keep).filter fun node => !drops node).map (Node.prune drops) := by
  rw [List.filter_map, List.filter_filter, List.filter_filter]
  refine congrArg (List.map _) (List.filter_congr fun node _ => ?_)
  rw [Function.comp_apply]
  cases dropped : drops node with
  | true => rw [Bool.not_true, Bool.and_false, Bool.false_and]
  | false => rw [same node dropped, Bool.not_false, Bool.and_true, Bool.true_and]

theorem isDeclarationElement_prune (node : Node) :
    registry.isDeclarationElement (.classify (node.prune drops)) =
      registry.isDeclarationElement (.classify node) := by
  simp only [Registry.isDeclarationElement, Element.isTrivia_classify, Element.kind_classify,
    Node.label_prune]

theorem isCommentElement_prune (node : Node) :
    registry.isCommentElement (.classify (node.prune drops)) =
      registry.isCommentElement (.classify node) := by
  simp only [Registry.isCommentElement, Element.isTrivia_classify, Element.kind_classify,
    Node.label_prune]

variable (comments : DropsComments drops)

include comments

/-- Where a walk picks nodes by what they are, it picks the same ones in the smaller tree. -/
theorem filter_outsideExtras_without (keep : Node → Bool)
    (same : ∀ node, keep (node.prune drops) = keep node) (root : Tree) :
    (Node.root (root.without drops)).outsideExtras.filter keep =
      (((Node.root root).outsideExtras.filter keep).filter fun node =>
        !drops node).map (Node.prune drops) := by
  have visited := Node.outsideExtras_prune comments.leaves (comments.root root)
  rw [Node.prune_root] at visited
  rw [visited, filter_map_prune fun node _ => same node]

theorem reportedNodes_without (root : Tree) :
    (Extractor.create registry selection source unit).reportedNodes (root.without drops) =
      (((Extractor.create registry selection source unit).reportedNodes root).filter fun node =>
        !drops node).map (Node.prune drops) := by
  have declared := filter_outsideExtras_without comments
    (fun node => registry.isDeclarationElement (.classify node)) isDeclarationElement_prune root
  have noted := filter_outsideExtras_without comments
    (fun node => registry.isCommentElement (.classify node)) isCommentElement_prune root
  rw [Extractor.reportedNodes_eq, Extractor.reportedNodes_eq]
  dsimp only [Extractor.create] at declared noted ⊢
  rw [declared, noted, ← List.map_append, ← List.filter_append]
  refine filter_map_prune (fun node kept => ?_) _
  exact congrArg Option.isSome (report?_prune comments kept)

theorem recordsAt_without {keep : Node → Bool}
    (same : ∀ node, drops node = false → keep (node.prune drops) = keep node) (root : Tree) :
    (Extractor.create registry selection source unit).recordsAt keep (root.without drops) =
      (Extractor.create registry selection source unit).recordsAt
        (fun node => keep node && !drops node) root := by
  rw [Extractor.recordsAt, Extractor.recordsAt, reportedNodes_without comments,
    filter_map_prune same, List.filterMap_map, List.filter_filter]
  have swapped : (fun node => !drops node && keep node) = fun node => keep node && !drops node :=
    funext fun node => Bool.and_comm _ _
  rw [swapped]
  apply List.filterMap_congr
  intro node member
  have stays := (List.mem_filter.mp member).2
  rw [Bool.and_eq_true, Bool.not_eq_true'] at stays
  exact report?_prune comments stays.2

/-- What is extra is no declaration, so no declaration is dropped. -/
theorem kept_of_declaration {node : Node}
    (declared : registry.isDeclarationElement (.classify node) = true) : drops node = false := by
  rw [← Bool.not_eq_true]
  intro dropped
  rw [Registry.isDeclarationElement, Element.isTrivia_classify,
    (comments node dropped).extra] at declared
  cases declared

theorem declarations_without (root : Tree) :
    (Extractor.create registry selection source unit).declarations (root.without drops) =
      (Extractor.create registry selection source unit).declarations root := by
  have declared := filter_outsideExtras_without comments
    (fun node => registry.isDeclarationElement (.classify node)) isDeclarationElement_prune root
  have all : (((Node.root root).outsideExtras.filter fun node =>
      registry.isDeclarationElement (.classify node)).filter fun node => !drops node) =
        (Node.root root).outsideExtras.filter fun node =>
          registry.isDeclarationElement (.classify node) := by
    refine List.filter_eq_self.mpr fun node member => ?_
    rw [kept_of_declaration comments (List.mem_filter.mp member).2, Bool.not_false]
  rw [Extractor.declarations_eq, Extractor.declarations_eq]
  dsimp only [Extractor.create] at declared ⊢
  rw [declared, all, List.filterMap_map]
  apply List.filterMap_congr
  intro node member
  exact report?_prune comments (kept_of_declaration comments (List.mem_filter.mp member).2)

end Reduced

/-- Comments do not influence declarations. A tree without some of its loose comments has the other
nodes of the tree, in their order. Its declarations have the same records, and so has everything
that is not extra, strings that serve as comments included; of what is extra just the records of the
dropped comments are missing, and the whole report is the report of the tree without those. -/
theorem extract_without (selection : Selection) (source : List Char) (unit : SpanUnit)
    (root : Tree) {drops : Node → Bool}
    (comments : ∀ node, drops node = true → node.IsLooseComment) :
    let extractor := Extractor.create registry selection source unit
    let reduced := root.without drops
    (Node.root reduced).descendants.map Node.label =
      ((Node.root root).descendants.filter fun node => !drops node).map Node.label ∧
    extractor.declarations reduced = extractor.declarations root ∧
    extractor.recordsAt (fun node => !node.label.extra) reduced =
      extractor.recordsAt (fun node => !node.label.extra) root ∧
    extractor.recordsAt (fun node => node.label.extra) reduced =
      extractor.recordsAt (fun node => node.label.extra && !drops node) root ∧
    extractor.extract root = extractor.recordsAt (fun _ => true) root ∧
    extractor.extract reduced = extractor.recordsAt (fun node => !drops node) root := by
  dsimp only
  have only : DropsComments drops := comments
  have label (node : Node) : (node.prune drops).label = node.label := node.label_prune drops
  refine ⟨?_, declarations_without only root, ?_, ?_, Extractor.extract_eq_recordsAt _ root, ?_⟩
  · have visited := Node.descendants_prune only.leaves (only.root root)
    rw [Node.prune_root] at visited
    rw [visited, List.map_map]
    exact List.map_congr_left fun node _ => label node
  · rw [recordsAt_without only fun node _ => by rw [label]]
    refine congrArg (Extractor.recordsAt _ · root) (funext fun node => ?_)
    cases dropped : drops node with
    | true => rw [(only node dropped).extra, Bool.not_true, Bool.false_and]
    | false => rw [Bool.not_false, Bool.and_true]
  · exact recordsAt_without only (fun node _ => congrArg Label.extra (label node)) root
  · rw [Extractor.extract_eq_recordsAt, recordsAt_without only fun _ _ => rfl]
    rfl

def isOutsideDecorators (node : Node) : Bool :=
  node.label.name == "comment" && node.label.extra && node.label.field.isNone &&
    node.tree.children.isEmpty &&
    node.parent?.any fun parent => !parent.isKind "decorator"

theorem isLooseComment_of_isOutsideDecorators {node : Node}
    (outside : isOutsideDecorators node = true) : node.IsLooseComment := by
  rw [isOutsideDecorators, Bool.and_eq_true, Bool.and_eq_true, Bool.and_eq_true, Bool.and_eq_true,
    beq_iff_eq, Option.isNone_iff_eq_none, List.isEmpty_iff, Option.any_eq_true] at outside
  obtain ⟨⟨⟨⟨comment, extra⟩, unheld⟩, childless⟩, parent, up, other⟩ := outside
  refine ⟨?_, childless, extra, comment, unheld, fun decorator found marks => ?_⟩
  · rw [up]
    exact Option.some_ne_none parent
  · cases up.symm.trans found
    rw [marks] at other
    cases other

/-- A property with a comment behind its decorator, and a comment after it. -/
def commentedProperty : Tree :=
  .node ⟨108, "module", ⟨0, 32⟩, true, false, none⟩
    [.node ⟨159, "decorated_definition", ⟨0, 27⟩, true, false, none⟩
      [.node ⟨160, "decorator", ⟨0, 9⟩, true, false, none⟩
        [.node ⟨46, "@", ⟨0, 1⟩, false, false, none⟩ [],
          .node ⟨1, "identifier", ⟨1, 9⟩, true, false, none⟩ []],
        .node ⟨99, "comment", ⟨10, 13⟩, true, true, none⟩ [],
        .node ⟨146, "function_definition", ⟨14, 27⟩, true, false, some "definition"⟩
          [.node ⟨1, "identifier", ⟨18, 19⟩, true, false, some "name"⟩ []]],
      .node ⟨99, "comment", ⟨28, 31⟩, true, true, none⟩ []]

/-- Only the first of the two comments is dropped, and only its record is missing. -/
theorem extract_without_firstComment :
    (∀ node, (isOutsideDecorators node && decide (node.label.span.start < 20)) = true →
      node.IsLooseComment) ∧
    (Extractor.create registry (.ofNames ["property", "comment"])
      "@property # p\ndef f(): pass\n# g\n".toList .bytes).extract (commentedProperty.without
        fun node => isOutsideDecorators node && decide (node.label.span.start < 20)) =
      [⟨.property, 14, 27⟩, ⟨.comment, 28, 31⟩] := by
  have loose : ∀ node,
      (isOutsideDecorators node && decide (node.label.span.start < 20)) = true →
        node.IsLooseComment := by
    intro node dropped
    rw [Bool.and_eq_true] at dropped
    exact isLooseComment_of_isOutsideDecorators dropped.1
  obtain ⟨-, -, -, -, -, left⟩ := extract_without (.ofNames ["property", "comment"])
    "@property # p\ndef f(): pass\n# g\n".toList .bytes commentedProperty loose
  refine ⟨loose, left.trans ?_⟩
  decide +kernel

end Python

end SyntaxSpans
