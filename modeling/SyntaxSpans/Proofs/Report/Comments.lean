import SyntaxSpans.Proofs.Report.Coverage
import SyntaxSpans.Proofs.Report.Order
import SyntaxSpans.Proofs.Tree.Positions

set_option autoImplicit false

namespace SyntaxSpans

namespace Node

theorem map_place_filter_elements (node : Node) (keep : Element → Bool) :
    (node.elements.filter keep).map Element.place =
      node.outsideExtras.filter fun place => keep (.classify place) := by
  rw [elements, List.filter_map, List.map_map]
  refine (List.map_congr_left fun place _ => ?_).trans (List.map_id _)
  exact Element.place_classify place

end Node

namespace Extractor

/-- The nodes that a report is made of, in its order. -/
def reportedNodes (extractor : Extractor) (root : Tree) : List Node :=
  (extractor.reported root).map Element.place

section Nodes

variable {grammar : Grammar} {table : Table} {selection : Selection} {source : List Char}
  {unit : SpanUnit}

theorem classify_place_of_mem_reported {extractor : Extractor} {root : Tree} {element : Element}
    (member : element ∈ extractor.reported root) : .classify element.place = element := by
  have visited : element ∈ (Node.root root).elements := by
    rcases List.mem_append.mp (List.mem_filter.mp member).1 with declared | noted
    · exact (List.mem_filter.mp declared).1
    · exact (List.mem_filter.mp noted).1
  obtain ⟨place, -, rfl⟩ := List.mem_map.mp visited
  rw [Element.place_classify]

/-- The records of a report are those of its nodes, one each. -/
theorem map_some_extract_eq_nodes (extractor : Extractor) (root : Tree) :
    (extractor.extract root).map some =
      (extractor.reportedNodes root).map fun node => extractor.report? (.classify node) := by
  rw [map_some_extract, reportedNodes, List.map_map]
  apply List.map_congr_left
  intro element member
  rw [Function.comp_apply, classify_place_of_mem_reported member]

/-- The records of those nodes of a report that pass a test, in the order of the report. -/
def recordsAt (extractor : Extractor) (keep : Node → Bool) (root : Tree) : List Record :=
  ((extractor.reportedNodes root).filter keep).filterMap fun node =>
    extractor.report? (.classify node)

theorem extract_eq_recordsAt (extractor : Extractor) (root : Tree) :
    extractor.extract root = extractor.recordsAt (fun _ => true) root := by
  have every : (extractor.reportedNodes root).filter (fun _ => true) =
      extractor.reportedNodes root := List.filter_eq_self.mpr fun _ _ => rfl
  have values := congrArg (List.filterMap id) (extractor.map_some_extract_eq_nodes root)
  rw [List.filterMap_map, List.filterMap_map] at values
  rw [recordsAt, every]
  exact (List.filterMap_some).symm.trans values

theorem reportedNodes_eq (extractor : Extractor) (root : Tree) :
    extractor.reportedNodes root =
      (((Node.root root).outsideExtras.filter fun node =>
        extractor.registry.isDeclarationElement (.classify node)) ++
        (Node.root root).outsideExtras.filter fun node =>
          extractor.registry.isCommentElement (.classify node)).filter fun node =>
            (extractor.report? (.classify node)).isSome := by
  rw [reportedNodes, reported, List.filter_append, List.filter_filter, List.filter_filter,
    List.map_append, Node.map_place_filter_elements, Node.map_place_filter_elements,
    List.filter_append, List.filter_filter, List.filter_filter]

theorem declarations_eq (extractor : Extractor) (root : Tree) :
    extractor.declarations root =
      ((Node.root root).outsideExtras.filter fun node =>
        extractor.registry.isDeclarationElement (.classify node)).filterMap fun node =>
          extractor.report? (.classify node) := by
  rw [declarations, Node.elements, List.filter_map, List.filterMap_map]
  rfl

theorem reportedNodes_perm (root : Tree) :
    ((create (.build grammar table) selection source unit).reportedNodes root).Perm
      ((Node.root root).outsideExtras.filter fun node =>
        ((create (.build grammar table) selection source unit).report? (.classify node)).isSome &&
          !(Registry.build grammar table).isStrayComment (.classify node)) := by
  have places := (@reported_perm grammar table selection source unit root).map Element.place
  rw [Node.map_place_filter_elements] at places
  exact places

theorem nodup_reportedNodes (root : Tree) :
    ((create (.build grammar table) selection source unit).reportedNodes root).Nodup :=
  (reportedNodes_perm root).nodup_iff.mpr ((Node.root root).nodup_outsideExtras.filter _)

/-- A report has the nodes that are visited, have a record and are no stray comments. -/
theorem mem_reportedNodes_iff {root : Tree} {node : Node} :
    node ∈ (create (.build grammar table) selection source unit).reportedNodes root ↔
      node ∈ (Node.root root).outsideExtras ∧
        ((create (.build grammar table) selection source unit).report?
          (.classify node)).isSome = true ∧
        (Registry.build grammar table).isStrayComment (.classify node) = false := by
  rw [(reportedNodes_perm root).mem_iff, List.mem_filter, Bool.and_eq_true, Bool.not_eq_true']

theorem holds_of_mem_reportedNodes {root : Tree} {node : Node}
    (member : node ∈ (create (.build grammar table) selection source unit).reportedNodes root) :
    (Node.root root).Holds node :=
  (Node.mem_outsideExtras_iff.mp (mem_reportedNodes_iff.mp member).1).1

/-- An extra comment is reported as a comment at its place, if comments are selected. -/
theorem report?_of_extra_comment {registry : Registry} {node : Node}
    (selected : selection.contains .comment = true) (extra : node.label.extra = true)
    (comment : registry.isComment node.label.kind = true) :
    (create registry selection source unit).report? (.classify node) =
      some ⟨.comment, ((OffsetIndex.ofText source).convert node.label.span unit).1,
        ((OffsetIndex.ofText source).convert node.label.span unit).2⟩ := by
  rw [report?_eq_some_iff]
  refine ⟨?_, selected, ?_⟩
  · rw [categorize, Element.isTrivia_classify, if_pos extra, Element.kind_classify]
    exact if_pos comment
  · rw [Element.span_classify, convert_create]

/-- Among the extra comments of a tree a report has those that lie in no other extra node. -/
theorem mem_reportedNodes_of_extra_comment {root : Tree} {node : Node}
    (selected : selection.contains .comment = true) (extra : node.label.extra = true)
    (comment : (Registry.build grammar table).isComment node.label.kind = true) :
    node ∈ (create (.build grammar table) selection source unit).reportedNodes root ↔
      node ∈ (Node.root root).outsideExtras := by
  have proper : (Registry.build grammar table).isStrayComment (.classify node) = false := by
    rw [Registry.isStrayComment, Element.isTrivia_classify, extra]
    rfl
  rw [mem_reportedNodes_iff, report?_of_extra_comment selected extra comment]
  exact and_iff_left ⟨rfl, proper⟩

end Nodes

/-- In every built-in language and unit each record of a report has a node of its own, and a report
that comments are selected for has one record for each extra comment at any depth, a comment with
its place, save where the comment lies in another extra node. There it has none. -/
theorem extract_reports_comments (language : Language) (selection : Selection)
    (source : List Char) (unit : SpanUnit) (root : Tree)
    (selected : selection.contains .comment = true) :
    let extractor := create language.registry selection source unit
    let nodes := extractor.reportedNodes root
    (extractor.extract root).map some =
      nodes.map (fun node => extractor.report? (.classify node)) ∧
    nodes.Nodup ∧ (∀ node ∈ nodes, (Node.root root).Holds node) ∧
    ∀ node, (Node.root root).Holds node → node.label.extra = true →
      language.registry.isComment node.label.kind = true →
      extractor.report? (.classify node) =
        some ⟨.comment, ((OffsetIndex.ofText source).convert node.label.span unit).1,
          ((OffsetIndex.ofText source).convert node.label.span unit).2⟩ ∧
      (node ∈ nodes ↔ ∀ ancestor, (Node.root root).Holds ancestor → ancestor.HoldsBelow node →
        ancestor.label.extra = false) := by
  dsimp only
  rw [language.registry_eq_build]
  refine ⟨map_some_extract_eq_nodes _ root, nodup_reportedNodes root,
    fun node => holds_of_mem_reportedNodes,
    fun node held extra comment => ⟨report?_of_extra_comment selected extra comment, ?_⟩⟩
  rw [mem_reportedNodes_of_extra_comment selected extra comment, Node.mem_outsideExtras_iff]
  exact and_iff_right held

/-- A class with a comment in it, and behind it a directive that ends in a comment. -/
def remarkedClass : Tree :=
  .node ⟨217, "compilation_unit", ⟨0, 40⟩, true, false, none⟩
    [.node ⟨232, "class_declaration", ⟨0, 20⟩, true, false, none⟩
      [.node ⟨204, "comment", ⟨10, 15⟩, true, true, none⟩ []],
      .node ⟨473, "preproc_pragma", ⟨21, 40⟩, true, true, none⟩
        [.node ⟨204, "comment", ⟨33, 40⟩, true, true, none⟩ []]]

/-- Of two comments at the same depth the one in the class is reported and the one in the directive
is not. -/
theorem extract_reports_comments_remarkedClass :
    (Selection.ofNames ["comment"]).contains .comment = true ∧
    ∃ inClass inDirective : Node,
      inClass.label.span = ⟨10, 15⟩ ∧ inDirective.label.span = ⟨33, 40⟩ ∧
      inClass ∈ (create Language.csharp.registry (.ofNames ["comment"]) [] .bytes).reportedNodes
        remarkedClass ∧
      inDirective ∉ (create Language.csharp.registry (.ofNames ["comment"]) [] .bytes).reportedNodes
        remarkedClass := by
  have selected : (Selection.ofNames ["comment"]).contains .comment = true := by decide
  obtain ⟨-, -, -, comments⟩ := extract_reports_comments .csharp (.ofNames ["comment"]) [] .bytes
    remarkedClass selected
  have held := Node.Holds.itself.ofBelow
    (List.get_mem (Node.root remarkedClass).below ⟨0, by decide⟩)
  have directive := Node.Holds.itself.ofBelow
    (List.get_mem (Node.root remarkedClass).below ⟨1, by decide⟩)
  have inClass := held.ofBelow (List.get_mem _ ⟨0, by decide⟩)
  have inDirective := directive.ofBelow (List.get_mem _ ⟨0, by decide⟩)
  refine ⟨selected, _, _, ?_, ?_, (comments _ inClass rfl (by decide)).2.mpr ?_,
    (comments _ inDirective rfl (by decide)).2.not.mpr fun clear => ?_⟩
  · rfl
  · rfl
  · -- Above the comment there are the class and the whole text.
    rintro ancestor - ⟨parent, found, above⟩
    cases found
    rcases above with _ | ⟨found, above⟩
    · rfl
    · cases found
      rcases above with _ | ⟨found, -⟩
      · rfl
      · cases found
  · cases clear _ directive ⟨_, rfl, .itself⟩

/-- An interface that is never closed. All of it is one extra node, and so is the comment in it. -/
def brokenInterface : Tree :=
  .node ⟨217, "compilation_unit", ⟨0, 45⟩, true, false, none⟩
    [.node ⟨221, "using_directive", ⟨0, 8⟩, true, false, none⟩
      [.node ⟨6, "using", ⟨0, 5⟩, false, false, none⟩ [],
        .node ⟨449, "identifier", ⟨6, 7⟩, true, false, none⟩ [],
        .node ⟨4, ";", ⟨7, 8⟩, false, false, none⟩ []],
      .node ⟨65535, "ERROR", ⟨9, 45⟩, true, true, none⟩
        [.node ⟨33, "interface", ⟨9, 18⟩, false, false, none⟩ [],
          .node ⟨449, "identifier", ⟨19, 20⟩, true, false, some "name"⟩ [],
          .node ⟨31, "\x7b", ⟨21, 22⟩, false, false, none⟩ [],
          .node ⟨204, "comment", ⟨23, 31⟩, true, true, none⟩ [],
          .node ⟨186, "#region", ⟨33, 40⟩, false, false, none⟩ [],
          .node ⟨185, "preproc_arg", ⟨41, 45⟩, true, false, none⟩ []]]

/-- Not every extra comment of a tree is reported: the one in the broken interface is not. -/
theorem extract_misses_comment_in_extra :
    (Selection.ofNames ["comment"]).contains .comment = true ∧
    ¬∀ node, (Node.root brokenInterface).Holds node → node.label.extra = true →
      Language.csharp.registry.isComment node.label.kind = true →
      ⟨.comment, node.label.span.start, node.label.span.stop⟩ ∈
        (create Language.csharp.registry (.ofNames ["comment"])
          "using X;\ninterface J \x7b /* é */ \n#region r //".toList .bytes).extract
            brokenInterface := by
  have nothing : (create Language.csharp.registry (.ofNames ["comment"])
      "using X;\ninterface J \x7b /* é */ \n#region r //".toList .bytes).extract
        brokenInterface = [] := by
    rw [extract_eq_append]
    decide
  refine ⟨by decide, fun all => ?_⟩
  have code := Node.Holds.itself.ofBelow
    (List.get_mem (Node.root brokenInterface).below ⟨1, by decide⟩)
  have remark := code.ofBelow (List.get_mem _ ⟨3, by decide⟩)
  have reported := all _ remark rfl (by decide)
  rw [nothing] at reported
  cases reported

end Extractor

end SyntaxSpans
