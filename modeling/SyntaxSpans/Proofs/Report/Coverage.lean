import Mathlib.Data.List.Perm.Basic
import SyntaxSpans.Proofs.Kinds.Agreement
import SyntaxSpans.Proofs.Report.Elements

set_option autoImplicit false

/- What a report takes from a walk. An element with a record is a declaration, a comment or a
construct that stands where only comments proper may; it is never two of these, so the two passes
share no element, and only those of the third sort are passed over. -/
namespace SyntaxSpans

theorem filter_append_filter_perm {α : Type} {first second : α → Bool}
    (apart : ∀ item, first item = true → second item = false) (list : List α) :
    (list.filter first ++ list.filter second).Perm
      (list.filter fun item => first item || second item) := by
  have parts := List.filter_append_perm first (list.filter fun item => first item || second item)
  rw [List.filter_filter, List.filter_filter] at parts
  have ofFirst : (fun item => first item && (first item || second item)) = first := by
    funext item
    cases first item with
    | true => rfl
    | false => rfl
  have ofSecond : (fun item => !first item && (first item || second item)) = second := by
    funext item
    cases held : first item with
    | true => rw [apart item held]; rfl
    | false => rfl
  rwa [ofFirst, ofSecond] at parts

namespace Registry

/-- A construct whose kind is that of comments proper. -/
def isStrayComment (registry : Registry) (element : Element) : Bool :=
  !element.isTrivia && registry.isComment element.kind

variable {grammar : Grammar} {table : Table} {element : Element}

/-- No element is both a declaration and a comment. -/
theorem isCommentElement_of_isDeclarationElement
    (declared : (build grammar table).isDeclarationElement element = true) :
    (build grammar table).isCommentElement element = false := by
  rw [isDeclarationElement, Bool.and_eq_true, Bool.not_eq_true'] at declared
  rw [isCommentElement, declared.1, if_neg Bool.false_ne_true, ← Bool.not_eq_true]
  intro statement
  exact ne_true_of_eq_false (isDeclaration_of_isStatementComment statement) declared.2

/-- A stray comment is in neither pass. -/
theorem unlisted_of_isStrayComment
    (stray : (build grammar table).isStrayComment element = true) :
    (build grammar table).isDeclarationElement element = false ∧
      (build grammar table).isCommentElement element = false := by
  rw [isStrayComment, Bool.and_eq_true, Bool.not_eq_true'] at stray
  constructor
  · rw [isDeclarationElement, isDeclaration_of_isComment stray.2, Bool.and_false]
  · rw [isCommentElement, stray.1, if_neg Bool.false_ne_true, ← Bool.not_eq_true]
    intro statement
    exact ne_true_of_eq_false (isComment_of_isStatementComment statement) stray.2

end Registry

namespace Extractor

variable {grammar : Grammar} {table : Table} {selection : Selection} {source : List Char}
  {unit : SpanUnit} {element : Element}

/-- What has a record is a declaration, a comment or a stray comment. -/
theorem sort_of_report?
    (reported : ((create (.build grammar table) selection source unit).report? element).isSome) :
    ((Registry.build grammar table).isDeclarationElement element ||
      (Registry.build grammar table).isCommentElement element ||
        (Registry.build grammar table).isStrayComment element) = true := by
  unfold report? at reported
  split at reported
  · cases reported
  · rename_i category found
    unfold categorize at found
    split at found
    · rename_i extra
      have comment : (Registry.build grammar table).isComment element.kind = true :=
        (Option.ite_none_right_eq_some.mp found).1
      simp only [Registry.isCommentElement, extra, ↓reduceIte, comment, Bool.or_true, Bool.true_or]
    · rename_i structural
      rw [Bool.not_eq_true] at structural
      obtain ⟨proposed, known, -⟩ := Option.bind_eq_some_iff.mp found
      have sorted : ((Registry.build grammar table).categoryOf? element.kind).isSome = _ :=
        Registry.isSome_categoryOf?
      rw [show (Registry.build grammar table).categoryOf? element.kind = some proposed from known,
        Option.isSome_some] at sorted
      simp only [Registry.isDeclarationElement, Registry.isCommentElement, Registry.isStrayComment,
        structural, Bool.not_false, Bool.true_and, Bool.false_eq_true, ↓reduceIte]
      rw [Bool.or_right_comm]
      exact sorted.symm

/-- Among the elements with a record the two passes take exactly those that are no stray
comments. -/
theorem reported_and_listed :
    (((create (.build grammar table) selection source unit).report? element).isSome &&
      ((Registry.build grammar table).isDeclarationElement element ||
        (Registry.build grammar table).isCommentElement element)) =
      (((create (.build grammar table) selection source unit).report? element).isSome &&
        !(Registry.build grammar table).isStrayComment element) := by
  cases reported : ((create (.build grammar table) selection source unit).report? element).isSome
  · rfl
  · rw [Bool.true_and, Bool.true_and]
    cases stray : (Registry.build grammar table).isStrayComment element with
    | true =>
        obtain ⟨undeclared, unnoted⟩ := Registry.unlisted_of_isStrayComment stray
        rw [undeclared, unnoted]
        rfl
    | false =>
        have sorted := sort_of_report? reported
        rwa [stray, Bool.or_false] at sorted

theorem report?_eq_map (extractor : Extractor) (element : Element) :
    extractor.report? element =
      ((extractor.categorize element).filter extractor.selection.contains).map fun category =>
        let place := extractor.index.convert element.span extractor.unit
        ⟨category, place.1, place.2⟩ := by
  unfold report?
  cases extractor.categorize element with
  | none => rfl
  | some category =>
      rw [Option.filter_some]
      dsimp only
      split
      · rfl
      · rfl

theorem categorize_of_isStrayComment
    (stray : (Registry.build grammar table).isStrayComment element = true) :
    (create (.build grammar table) selection source unit).categorize element =
      (Registry.build grammar table).refine element.place source .comment := by
  rw [Registry.isStrayComment, Bool.and_eq_true, Bool.not_eq_true'] at stray
  have known : (Registry.build grammar table).categoryOf? element.kind = some .comment :=
    (Registry.categoryOf?_eq_some_iff .comment).mpr (.inr ⟨rfl, .inl stray.2⟩)
  unfold categorize
  rw [stray.1, if_neg Bool.false_ne_true]
  dsimp only [create]
  rw [known, Option.bind_some]

/-- The elements that a report is made of, in its order. -/
def reported (extractor : Extractor) (root : Tree) : List Element :=
  ((Node.root root).elements.filter extractor.registry.isDeclarationElement ++
    (Node.root root).elements.filter extractor.registry.isCommentElement).filter fun element =>
      (extractor.report? element).isSome

theorem map_some_extract (extractor : Extractor) (root : Tree) :
    (extractor.extract root).map some = (extractor.reported root).map extractor.report? := by
  rw [extract_eq_append, declarations, comments, ← List.filterMap_append,
    List.map_filterMap_some_eq_filter_map_isSome, List.filter_map]
  rfl

/-- A report takes each element with a record once, but for stray comments. -/
theorem reported_perm (root : Tree) :
    ((create (.build grammar table) selection source unit).reported root).Perm
      ((Node.root root).elements.filter fun element =>
        ((create (.build grammar table) selection source unit).report? element).isSome &&
          !(Registry.build grammar table).isStrayComment element) := by
  have apart : ∀ element, (Registry.build grammar table).isDeclarationElement element = true →
      (Registry.build grammar table).isCommentElement element = false :=
    fun _ => Registry.isCommentElement_of_isDeclarationElement
  have listed := (filter_append_filter_perm apart (Node.root root).elements).filter fun element =>
    ((create (.build grammar table) selection source unit).report? element).isSome
  rw [List.filter_filter] at listed
  simp only [reported_and_listed] at listed
  exact listed

/-- A report of a tree is made of the elements of the walk over everything: the records of those
that are declarations, and then the records of those that are comments. Each record comes from an
element of its own, and every element with a record gives it once, unless it is a stray comment.
What a stray comment would be reported as is what the rule makes of a comment there, if that is
selected. -/
theorem extract_covers (grammar : Grammar) (table : Table) (selection : Selection)
    (source : List Char) (unit : SpanUnit) (root : Tree) :
    let registry := Registry.build grammar table
    let extractor := create registry selection source unit
    let elements := (Node.root root).walk .all
    extractor.extract root =
      (elements.filter fun element =>
        !element.isTrivia && registry.isDeclaration element.kind).filterMap extractor.report? ++
      (elements.filter fun element =>
        if element.isTrivia then registry.isComment element.kind
        else registry.isStatementComment element.kind).filterMap extractor.report? ∧
    (∃ chosen : List Element,
      (extractor.extract root).map some = chosen.map extractor.report? ∧
      chosen.Perm (elements.filter fun element =>
        (extractor.report? element).isSome && !registry.isStrayComment element)) ∧
    ∀ element, registry.isStrayComment element = true →
      extractor.report? element =
        ((registry.refine element.place source .comment).filter selection.contains).map
          fun category =>
            let place := extractor.index.convert element.span unit
            ⟨category, place.1, place.2⟩ := by
  have all : (Node.root root).walk .all = (Node.root root).elements := by
    rw [Node.walk_eq_filter, Node.elements]
    exact List.filter_eq_self.mpr fun _ _ => rfl
  dsimp only
  rw [all]
  refine ⟨extract_eq_append _ root, ⟨_, map_some_extract _ root, reported_perm root⟩,
    fun element stray => ?_⟩
  rw [report?_eq_map, categorize_of_isStrayComment stray]
  rfl

/-- Reports of comments, in a language that knows no other kind. -/
def noted : Extractor :=
  create (.build ⟨[(1, "note")]⟩ ⟨"notes", [], ["note"], [], [], none⟩) (.ofNames ["comment"])
    "note".toList .bytes

/-- A comment that is the whole tree, and not extra. -/
def strayNote : Tree := .node ⟨1, "note", ⟨0, 4⟩, true, false, none⟩ []

/-- A stray comment can have a record, and a report of the tree leaves it out. -/
example : noted.report? (.classify (.root strayNote)) = some ⟨.comment, 0, 4⟩ ∧
    noted.extract strayNote = [] := by
  rw [extract_eq_append]
  decide

end Extractor

end SyntaxSpans
