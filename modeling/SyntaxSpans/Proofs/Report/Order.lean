import SyntaxSpans.Proofs.Kinds.Separation
import SyntaxSpans.Proofs.Report.Elements
import SyntaxSpans.Proofs.Tree.Placement

set_option autoImplicit false

namespace SyntaxSpans

def Record.span (record : Record) : Span := ⟨record.start, record.stop⟩

namespace Extractor

/-- The index that a report is made with gives the offsets of the full index, though a report in
bytes leaves the tables out. -/
theorem convert_create (registry : Registry) (selection : Selection) (source : List Char)
    (unit : SpanUnit) (span : Span) :
    (create registry selection source unit).index.convert span
        (create registry selection source unit).unit =
      (OffsetIndex.ofText source).convert span unit := by
  cases unit <;> rfl

theorem report?_eq_some_iff (extractor : Extractor) (element : Element) (record : Record) :
    extractor.report? element = some record ↔
      extractor.categorize element = some record.category ∧
      extractor.selection.contains record.category = true ∧
      (record.start, record.stop) = extractor.index.convert element.span extractor.unit := by
  obtain ⟨category, start, stop⟩ := record
  unfold report?
  cases extractor.categorize element with
  | none => simp only [reduceCtorEq, false_and]
  | some found =>
      simp only [Option.ite_none_right_eq_some, Option.some.injEq, Record.mk.injEq]
      constructor
      · rintro ⟨selected, rfl, rfl, rfl⟩
        exact ⟨rfl, selected, rfl⟩
      · rintro ⟨rfl, selected, place⟩
        exact ⟨selected, rfl, (congrArg Prod.fst place).symm, (congrArg Prod.snd place).symm⟩

section Categories

variable {grammar : Grammar} {table : Table} {selection : Selection} {source : List Char}
  {unit : SpanUnit} {element : Element} {category : Category}

/-- No declaration is reported as a comment. -/
theorem categorize_declaration (separates : table.Separates)
    (declared : (Registry.build grammar table).isDeclarationElement element = true)
    (found : (create (.build grammar table) selection source unit).categorize element =
      some category) : category ≠ .comment := by
  simp only [Registry.isDeclarationElement, Bool.and_eq_true, Bool.not_eq_true'] at declared
  obtain ⟨entry, listed, known⟩ := Registry.category_of_isDeclaration declared.2
  simp only [categorize, create, declared.1, Bool.false_eq_true, ↓reduceIte, known,
    Option.bind_some] at found
  exact fun comment =>
    separates.declared entry listed ((separates.refine grammar found).mp comment)

/-- Whatever is taken for a comment is reported as one or not at all. -/
theorem categorize_comment (separates : table.Separates)
    (noted : (Registry.build grammar table).isCommentElement element = true)
    (found : (create (.build grammar table) selection source unit).categorize element =
      some category) : category = .comment := by
  unfold Registry.isCommentElement at noted
  unfold categorize at found
  split at noted
  · rename_i extra
    simp only [extra, create, noted, ↓reduceIte, Option.some.injEq] at found
    exact found.symm
  · rename_i structural
    have known := Registry.category_of_isStatementComment noted
    simp only [structural, create, known, Bool.false_eq_true, ↓reduceIte,
      Option.bind_some] at found
    exact (separates.refine grammar found).mpr rfl

theorem category_of_mem_declarations {root : Tree} {record : Record}
    (separates : table.Separates)
    (member : record ∈ (create (.build grammar table) selection source unit).declarations root) :
    record.category ≠ .comment := by
  obtain ⟨element, among, reported⟩ := List.mem_filterMap.mp member
  have declared := (List.mem_filter.mp among).2
  exact categorize_declaration separates declared ((report?_eq_some_iff _ _ _).mp reported).1

theorem category_of_mem_comments {root : Tree} {record : Record} (separates : table.Separates)
    (member : record ∈ (create (.build grammar table) selection source unit).comments root) :
    record.category = .comment := by
  obtain ⟨element, among, reported⟩ := List.mem_filterMap.mp member
  have noted := (List.mem_filter.mp among).2
  exact categorize_comment separates noted ((report?_eq_some_iff _ _ _).mp reported).1

/-- The declarations are the records before the first comment. -/
theorem takeWhile_extract (separates : table.Separates) (root : Tree) :
    ((create (.build grammar table) selection source unit).extract root).takeWhile
        (fun record => record.category ≠ .comment) =
      (create (.build grammar table) selection source unit).declarations root := by
  rw [extract_eq_append, List.takeWhile_append_of_pos]
  · cases later : (create (.build grammar table) selection source unit).comments root with
    | nil => simp only [List.takeWhile_nil, List.append_nil]
    | cons first rest =>
        have member : first ∈
            (create (.build grammar table) selection source unit).comments root := by
          rw [later]
          exact List.mem_cons_self
        have comment : first.category = .comment := category_of_mem_comments separates member
        simp only [comment, ne_eq, not_true, decide_false, Bool.false_eq_true, not_false_eq_true,
          List.takeWhile_cons_of_neg, List.append_nil]
  · intro record member
    exact decide_eq_true (category_of_mem_declarations separates member)

end Categories

/-- The records of any part of the elements of a well-placed tree follow the document. -/
theorem pairwise_report? {registry : Registry} {selection : Selection} {source : List Char}
    {unit : SpanUnit} {root : Tree} (placed : root.WellPlaced) (keep : Element → Bool) :
    (((Node.root root).elements.filter keep).filterMap
      (create registry selection source unit).report?).Pairwise
        fun first second => first.span.Precedes second.span := by
  have visited : (Node.root root).outsideExtras.Pairwise Node.Precedes :=
    Node.pairwise_visitTree placed []
  have elements : (Node.root root).elements.Pairwise
      fun first second => first.span.Precedes second.span := by
    refine List.pairwise_map.mpr (visited.imp fun {first second} precedes => ?_)
    rw [Element.span_classify, Element.span_classify]
    exact precedes
  refine List.Pairwise.filterMap _ ?_ (elements.filter keep)
  intro first second precedes record reported other reported'
  have place := ((report?_eq_some_iff _ _ _).mp reported).2.2
  have place' := ((report?_eq_some_iff _ _ _).mp reported').2.2
  rw [convert_create] at place place'
  have converted := OffsetIndex.convert_precedes source unit precedes
  change Span.Precedes ⟨(record.start, record.stop).1, (record.start, record.stop).2⟩
    ⟨(other.start, other.stop).1, (other.start, other.stop).2⟩
  rw [place, place']
  exact converted

/-- In every built-in language and unit a report is its declarations and then its comments. Of any
two records in the same part the earlier one starts no later, and holds the other or ends before it
starts, in the numbers that are reported. -/
theorem extract_in_order (language : Language) (selection : Selection) (source : List Char)
    (unit : SpanUnit) (root : Tree) (placed : root.WellPlaced) :
    ∃ declarations comments,
      (create language.registry selection source unit).extract root = declarations ++ comments ∧
      (∀ record ∈ declarations, record.category ≠ .comment) ∧
      (∀ record ∈ comments, record.category = .comment) ∧
      (declarations.Pairwise fun first second => first.span.Precedes second.span) ∧
      (comments.Pairwise fun first second => first.span.Precedes second.span) := by
  refine ⟨_, _, extract_eq_append _ root, ?_, ?_, pairwise_report? placed _,
    pairwise_report? placed _⟩
  · intro record member
    rw [language.registry_eq_build] at member
    exact category_of_mem_declarations language.separates member
  · intro record member
    rw [language.registry_eq_build] at member
    exact category_of_mem_comments language.separates member

/-- The declarations are what is left of a report without its comments. -/
theorem filter_declarations {declarations comments : List Record}
    (declared : ∀ record ∈ declarations, record.category ≠ .comment)
    (noted : ∀ record ∈ comments, record.category = .comment) :
    (declarations ++ comments).filter (fun record => record.category ≠ .comment) =
      declarations := by
  have kept : declarations.filter (fun record => record.category ≠ .comment) = declarations :=
    List.filter_eq_self.mpr fun record member => decide_eq_true (declared record member)
  have dropped : comments.filter (fun record => record.category ≠ .comment) = [] :=
    List.filter_eq_nil_iff.mpr fun record member =>
      fun other => of_decide_eq_true other (noted record member)
  rw [List.filter_append, kept, dropped, List.append_nil]

/-- A comment, and after it a class with a field in it. -/
def commentedText : List Char := "//c\n\nclass A \x7b\n int x;\n\x7d".toList

def commentedClass : Tree :=
  .node ⟨138, "program", ⟨0, 24⟩, true, false, none⟩
    [.node ⟨136, "line_comment", ⟨0, 3⟩, true, true, none⟩ [],
      .node ⟨233, "class_declaration", ⟨5, 24⟩, true, false, none⟩
        [.node ⟨249, "field_declaration", ⟨16, 22⟩, true, false, none⟩ []]]

theorem wellPlaced_commentedClass : commentedClass.WellPlaced := by
  refine .node (by decide) (by decide) (by decide) ?_
  intro child member
  rcases List.mem_cons.mp member with rfl | member
  · exact .node (by decide) (by decide) (by decide) (List.forall_mem_nil _)
  · rw [List.mem_singleton] at member
    subst member
    refine .node (by decide) (by decide) (by decide) ?_
    intro child member
    rw [List.mem_singleton] at member
    subst member
    exact .node (by decide) (by decide) (by decide) (List.forall_mem_nil _)

theorem extract_commentedClass :
    (create Language.java.registry (.ofNames ["class", "field", "comment"]) commentedText
      .lines).extract commentedClass =
        [⟨.classDef, 3, 5⟩, ⟨.field, 4, 4⟩] ++ [⟨.comment, 1, 1⟩] := by
  rw [extract_eq_append]
  decide +kernel

/-- The comment stands first in the text and last in the report. -/
theorem extract_in_order_commentedClass :
    commentedClass.WellPlaced ∧
    (create Language.java.registry (.ofNames ["class", "field", "comment"]) commentedText
      .lines).extract commentedClass =
        [⟨.classDef, 3, 5⟩, ⟨.field, 4, 4⟩] ++ [⟨.comment, 1, 1⟩] ∧
    ([⟨.classDef, 3, 5⟩, ⟨.field, 4, 4⟩] : List Record).Pairwise
      (fun first second => first.span.Precedes second.span) ∧
    ([⟨.comment, 1, 1⟩] : List Record).Pairwise
      fun first second => first.span.Precedes second.span := by
  obtain ⟨declarations, comments, parts, declared, noted, order, order'⟩ :=
    extract_in_order .java (.ofNames ["class", "field", "comment"]) commentedText .lines
      commentedClass wellPlaced_commentedClass
  rw [extract_commentedClass] at parts
  have front : declarations = [⟨.classDef, 3, 5⟩, ⟨.field, 4, 4⟩] :=
    (filter_declarations declared noted).symm.trans (congrArg _ parts.symm)
  subst front
  have rear : comments = [⟨.comment, 1, 1⟩] := (List.append_cancel_left parts).symm
  subst rear
  exact ⟨wellPlaced_commentedClass, extract_commentedClass, order, order'⟩

end Extractor

end SyntaxSpans
