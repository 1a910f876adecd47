import SyntaxSpans.Proofs.Python.Levels
import SyntaxSpans.Proofs.Report.Comments
import SyntaxSpans.Proofs.Tree.Labels

set_option autoImplicit false

namespace SyntaxSpans

section Prefixes

variable {α : Type}

/-- In the first stretch of a list nothing passes a narrower test exactly if before everything that
passes it the stretch has already ended. -/
theorem any_takeWhile_eq_false_iff {stays narrow : α → Bool}
    (narrower : ∀ item, narrow item = true → stays item = true) (list : List α) :
    (list.takeWhile stays).any narrow = false ↔
      ∀ front item back, list = front ++ item :: back → narrow item = true →
        ∃ ender ∈ front, stays ender = false := by
  induction list with
  | nil => simp
  | cons first rest ih =>
      cases still : stays first with
      | true =>
          rw [List.takeWhile_cons_of_pos still, List.any_cons, Bool.or_eq_false_iff, ih]
          constructor
          · rintro ⟨wide, later⟩ front item back whole passes
            rcases front with _ | ⟨head, front⟩
            · obtain ⟨rfl, -⟩ := List.cons.inj whole
              rw [wide] at passes
              cases passes
            · obtain ⟨-, tail⟩ := List.cons.inj whole
              obtain ⟨ender, among, ends⟩ := later front item back tail passes
              exact ⟨ender, List.mem_cons_of_mem _ among, ends⟩
          · intro all
            refine ⟨Bool.eq_false_iff.mpr fun passes => ?_, fun front item back whole passes => ?_⟩
            · obtain ⟨ender, among, -⟩ := all [] first rest rfl passes
              cases among
            · obtain ⟨ender, among, ends⟩ :=
                all (first :: front) item back (congrArg (first :: ·) whole) passes
              rcases List.mem_cons.mp among with rfl | later
              · rw [still] at ends
                cases ends
              · exact ⟨ender, later, ends⟩
      | false =>
          have ended : ¬stays first = true := by
            rw [still]
            exact Bool.false_ne_true
          rw [List.takeWhile_cons_of_neg ended, List.any_nil]
          refine iff_of_true rfl fun front item back whole passes => ?_
          rcases front with _ | ⟨head, front⟩
          · obtain ⟨rfl, -⟩ := List.cons.inj whole
            exact absurd (narrower first passes) ended
          · obtain ⟨rfl, -⟩ := List.cons.inj whole
            exact ⟨first, List.mem_cons_self, still⟩

end Prefixes

namespace Python

section Levels

/-- The kinds around a place, from the nearest outward, seen from outside a decorated definition
right around it. -/
def undecorated : List String → List String
  | [] => []
  | kind :: outer => if kind = "decorated_definition" then outer else kind :: outer

/-- The kinds around a place where classes and functions are declared: directly in a module, or in
the body of a class that is declared in such a place itself. -/
inductive DeclarationLevel : List String → Prop
  | module {kinds outer : List String}
      (around : undecorated kinds = "module" :: outer) : DeclarationLevel kinds
  | moduleBlock {kinds outer : List String}
      (around : undecorated kinds = "block" :: "module" :: outer) : DeclarationLevel kinds
  | classBody {kinds outer : List String}
      (around : undecorated kinds = "block" :: "class_definition" :: outer)
      (declared : DeclarationLevel outer) : DeclarationLevel kinds

variable {node holder owner : Node}

theorem undecorated_of_held (found : holder? node = some holder) :
    undecorated node.ancestorKinds = holder.label.name :: holder.ancestorKinds := by
  unfold holder? at found
  split at found
  · cases found
  · rename_i parent up
    rw [Node.ancestorKinds_parent? up, undecorated]
    split at found
    · rename_i decorated
      rw [isKind_iff] at decorated
      rw [if_pos decorated, Node.ancestorKinds_parent? found]
    · rename_i plain
      rw [isKind_iff] at plain
      cases found
      rw [if_neg plain]

theorem undecorated_of_unheld (free : holder? node = none) :
    undecorated node.ancestorKinds = [] := by
  unfold holder? at free
  split at free
  · rename_i top
    rw [Node.ancestorKinds_of_top top, undecorated]
  · rename_i parent up
    rw [Node.ancestorKinds_parent? up, undecorated]
    split at free
    · rename_i decorated
      rw [isKind_iff] at decorated
      rw [if_pos decorated, Node.ancestorKinds_of_top free]
    · cases free

/-- The owner of the body around a statement is the module itself, or stands around a block. -/
theorem undecorated_of_owned (found : bodyOwner? node = some owner) :
    (owner.label.name = "module" ∧
        undecorated node.ancestorKinds = "module" :: owner.ancestorKinds) ∨
      undecorated node.ancestorKinds = "block" :: owner.label.name :: owner.ancestorKinds := by
  unfold bodyOwner? at found
  split at found
  · cases found
  · rename_i holder held
    rw [undecorated_of_held held]
    split at found
    · rename_i module
      rw [isKind_iff] at module
      cases found
      exact .inl ⟨module, by rw [module]⟩
    · split at found
      · rename_i block
        rw [isKind_iff] at block
        refine .inr ?_
        rw [block, Node.ancestorKinds_parent? found]
      · cases found

theorem undecorated_of_unowned (free : bodyOwner? node = none) (kind : String)
    (outer : List String) :
    undecorated node.ancestorKinds ≠ "module" :: outer ∧
      undecorated node.ancestorKinds ≠ "block" :: kind :: outer := by
  unfold bodyOwner? at free
  split at free
  · rename_i unheld
    rw [undecorated_of_unheld unheld]
    exact ⟨(List.cons_ne_nil _ _).symm, (List.cons_ne_nil _ _).symm⟩
  · rename_i holder held
    rw [undecorated_of_held held]
    split at free
    · cases free
    · rename_i other
      rw [isKind_iff] at other
      refine ⟨fun same => other (List.cons.inj same).1, fun same => ?_⟩
      obtain ⟨name, beyond⟩ := List.cons.inj same
      rw [if_pos ((isKind_iff _ _).mpr name)] at free
      rw [Node.ancestorKinds_of_top free] at beyond
      cases beyond

/-- A block is at declaration level in a module, and in a class that is there itself. -/
theorem declarationLevel_block_iff {kinds outer : List String} {kind : String}
    (around : undecorated kinds = "block" :: kind :: outer) :
    DeclarationLevel kinds ↔
      kind = "module" ∨ kind = "class_definition" ∧ DeclarationLevel outer := by
  constructor
  · intro level
    cases level with
    | module around' =>
        rw [around] at around'
        exact absurd (List.cons.inj around').1 (by decide)
    | moduleBlock around' =>
        rw [around] at around'
        exact .inl (List.cons.inj (List.cons.inj around').2).1
    | classBody around' declared =>
        rw [around] at around'
        obtain ⟨rfl, rfl⟩ := List.cons.inj (List.cons.inj around').2
        exact .inr ⟨rfl, declared⟩
  · rintro (rfl | ⟨rfl, declared⟩)
    · exact .moduleBlock around
    · exact .classBody around declared

/-- The climb through the bodies of classes ends in a module exactly at declaration level. -/
theorem atDeclarationLevel_iff (node : Node) :
    atDeclarationLevel node = true ↔ DeclarationLevel node.ancestorKinds := by
  fun_induction atDeclarationLevel node with
  | case1 node free =>
      refine iff_of_false Bool.false_ne_true fun level => ?_
      cases level with
      | module around => exact (undecorated_of_unowned free "" _).1 around
      | moduleBlock around => exact (undecorated_of_unowned free _ _).2 around
      | classBody around _ => exact (undecorated_of_unowned free _ _).2 around
  | case2 node owner found module =>
      rw [isKind_iff] at module
      refine iff_of_true rfl ?_
      rcases undecorated_of_owned found with ⟨-, around⟩ | around
      · exact .module around
      · exact (declarationLevel_block_iff around).mpr (.inl module)
  | case3 node owner found other classDef ih =>
      rw [isKind_iff] at other classDef
      rcases undecorated_of_owned found with ⟨module, -⟩ | around
      · exact absurd module other
      · rw [ih, declarationLevel_block_iff around]
        exact ⟨fun declared => .inr ⟨classDef, declared⟩, fun level => (level.resolve_left other).2⟩
  | case4 node owner found other plain =>
      rw [isKind_iff] at other plain
      rcases undecorated_of_owned found with ⟨module, -⟩ | around
      · exact absurd module other
      · rw [declarationLevel_block_iff around]
        simp only [other, plain, false_and, or_self, Bool.false_eq_true]

end Levels

section Literals

variable {source : List Char}

/-- Before each letter of a formatted or a byte string there is a quote already. -/
def Unmarked (literal : List Char) : Prop :=
  ∀ front letter back, literal = front ++ letter :: back → letter ∈ ['f', 'F', 'b', 'B'] →
    ∃ quote ∈ front, quote = '"' ∨ quote = '\''

theorem isPlainString_iff (string : Tree) :
    isPlainString source string = true ↔ Unmarked (string.text source) := by
  have letters : ∀ char : Char,
      (char == 'f' || char == 'F' || char == 'b' || char == 'B') = true ↔
        char ∈ ['f', 'F', 'b', 'B'] := by
    intro char
    simp only [Bool.or_eq_true, beq_iff_eq, List.mem_cons, List.not_mem_nil, or_false, or_assoc]
  have quotes : ∀ char : Char,
      (char != '"' && char != '\'') = false ↔ char = '"' ∨ char = '\'' := by
    intro char
    simp only [Bool.and_eq_false_iff, bne_eq_false_iff_eq]
  rw [isPlainString, Bool.not_eq_true', any_takeWhile_eq_false_iff]
  · simp only [letters, quotes]
    rfl
  · intro char letter
    rw [letters] at letter
    revert letter
    simp only [List.mem_cons, List.not_mem_nil, or_false]
    rintro (rfl | rfl | rfl | rfl) <;> decide

/-- A string that is neither formatted nor one of bytes, or such strings side by side. -/
inductive PlainLiteral (source : List Char) : Tree → Prop
  | string {literal : Tree} (kind : literal.isKind "string" = true)
      (unmarked : Unmarked (literal.text source)) : PlainLiteral source literal
  | concatenated {literal : Tree} (kind : literal.isKind "concatenated_string" = true)
      (unmarked : ∀ piece ∈ literal.namedChildren, piece.isKind "string" = true →
        Unmarked (piece.text source)) : PlainLiteral source literal

/-- The parts of a statement that count: those that are neither extra nor anonymous. -/
def namedParts (statement : Tree) : List Tree :=
  statement.structuralChildren.filter (·.label.named)

theorem namedParts_of_named {statement : Tree}
    (named : ∀ part ∈ statement.structuralChildren, part.label.named = true) :
    namedParts statement = statement.structuralChildren :=
  List.filter_eq_self.mpr named

theorem isPlainLiteral_iff (literal : Tree) :
    (if literal.isKind "string" then isPlainString source literal
      else if literal.isKind "concatenated_string" then
        literal.namedChildren.all fun part => !part.isKind "string" || isPlainString source part
      else false) = true ↔ PlainLiteral source literal := by
  have pieces : (literal.namedChildren.all fun part =>
      !part.isKind "string" || isPlainString source part) = true ↔
        ∀ piece ∈ literal.namedChildren, piece.isKind "string" = true →
          Unmarked (piece.text source) := by
    simp only [List.all_eq_true, Bool.or_eq_true, Bool.not_eq_true', isPlainString_iff,
      Bool.eq_false_iff, ← imp_iff_not_or, ne_eq]
  by_cases single : literal.isKind "string" = true
  · rw [if_pos single, isPlainString_iff]
    refine ⟨.string single, fun plain => ?_⟩
    cases plain with
    | string _ unmarked => exact unmarked
    | concatenated several _ =>
        have name := beq_iff_eq.mp single
        have name' := beq_iff_eq.mp several
        rw [name] at name'
        exact absurd name' (by decide)
  · rw [if_neg single]
    by_cases several : literal.isKind "concatenated_string" = true
    · rw [if_pos several, pieces]
      refine ⟨.concatenated several, fun plain => ?_⟩
      cases plain with
      | string kind _ => exact absurd kind single
      | concatenated _ unmarked => exact unmarked
    · rw [if_neg several]
      refine iff_of_false Bool.false_ne_true fun plain => ?_
      cases plain with
      | string kind _ => exact single kind
      | concatenated kind _ => exact several kind

theorem isStringStatement_iff (statement : Node) :
    isStringStatement statement source = true ↔
      ∃ literal, namedParts statement.tree = [literal] ∧ PlainLiteral source literal := by
  have parts : (statement.tree.namedChildren.filter fun child => !child.label.extra) =
      namedParts statement.tree := by
    rw [namedParts, Tree.namedChildren, Tree.structuralChildren, List.filter_filter,
      List.filter_filter]
    simp only [Bool.and_comm]
  unfold isStringStatement
  rw [parts]
  split
  · rename_i literal alone
    rw [isPlainLiteral_iff, alone]
    constructor
    · exact fun plain => ⟨literal, rfl, plain⟩
    · rintro ⟨other, same, plain⟩
      cases same
      exact plain
  · rename_i several
    refine iff_of_false Bool.false_ne_true ?_
    rintro ⟨literal, alone, -⟩
    exact several literal alone

end Literals

section Reports

variable {selection : Selection} {source : List Char} {unit : SpanUnit} {node : Node}

theorem isStatementComment_of_expression
    (expression : node.label.kind ∈ grammar.idsOf "expression_statement") :
    registry.isStatementComment node.label.kind = true := by
  have numbers : grammar.idsOf "expression_statement" = [122] := by decide
  rw [numbers, List.mem_singleton] at expression
  rw [expression]
  decide

theorem categorize_expression (structural : node.label.extra = false)
    (expression : node.label.kind ∈ grammar.idsOf "expression_statement") :
    (Extractor.create registry selection source unit).categorize (.classify node) =
      if atDeclarationLevel node && isStringStatement node source then some .comment else none := by
  have known : registry.categoryOf? node.label.kind = some .comment :=
    Registry.category_of_isStatementComment (isStatementComment_of_expression expression)
  unfold Extractor.categorize
  rw [Element.isTrivia_classify, structural, Element.kind_classify, Element.place_classify]
  simp only [Extractor.create, Bool.false_eq_true, ↓reduceIte, known, Option.bind_some]
  rfl

theorem report?_expression (structural : node.label.extra = false)
    (expression : node.label.kind ∈ grammar.idsOf "expression_statement") :
    (Extractor.create registry selection source unit).report? (.classify node) =
      if selection.contains .comment &&
          (atDeclarationLevel node && isStringStatement node source) then
        some ⟨.comment, ((OffsetIndex.ofText source).convert node.label.span unit).1,
          ((OffsetIndex.ofText source).convert node.label.span unit).2⟩
      else none := by
  rw [Extractor.report?_eq_map, categorize_expression structural expression,
    Extractor.convert_create, Element.span_classify]
  dsimp only [Extractor.create]
  cases atDeclarationLevel node && isStringStatement node source with
  | false =>
      rw [Bool.and_false]
      rfl
  | true =>
      rw [Bool.and_true, if_pos rfl, Option.filter_some]
      split
      · rfl
      · rfl

/-- An expression statement that is visited has its record in the report of the tree if it has
one. -/
theorem mem_reportedNodes_expression {root : Tree} (visited : node ∈ (Node.root root).outsideExtras)
    (structural : node.label.extra = false)
    (expression : node.label.kind ∈ grammar.idsOf "expression_statement") :
    node ∈ (Extractor.create registry selection source unit).reportedNodes root ↔
      selection.contains .comment = true ∧ DeclarationLevel node.ancestorKinds ∧
        ∃ literal, namedParts node.tree = [literal] ∧ PlainLiteral source literal := by
  have comment : registry.isComment node.label.kind = false :=
    Registry.isComment_of_isStatementComment (isStatementComment_of_expression expression)
  have proper : registry.isStrayComment (.classify node) = false := by
    rw [Registry.isStrayComment, Element.kind_classify, comment, Bool.and_false]
  have some : ((Extractor.create registry selection source unit).report?
      (.classify node)).isSome = true ↔ selection.contains .comment = true ∧
        atDeclarationLevel node = true ∧ isStringStatement node source = true := by
    rw [report?_expression structural expression, ← Bool.and_eq_true, ← Bool.and_eq_true]
    split
    · rename_i reported
      exact iff_of_true rfl reported
    · rename_i dropped
      exact iff_of_false Bool.false_ne_true dropped
  rw [← atDeclarationLevel_iff, ← isStringStatement_iff, ← some]
  refine Extractor.mem_reportedNodes_iff.trans ?_
  exact (and_iff_right visited).trans (and_iff_left proper)

end Reports

/-- A visited expression statement is reported, as a comment at its place, exactly if comments are
selected, it stands where classes and functions are declared, and of its parts that are not extra
the only named one is a plain literal. Where no part is anonymous the literal is its only part. -/
theorem reports_docstring_iff (selection : Selection) (source : List Char) (unit : SpanUnit)
    (root : Tree) (node : Node) (visited : node ∈ (Node.root root).outsideExtras)
    (structural : node.label.extra = false)
    (expression : node.label.kind ∈ grammar.idsOf "expression_statement") :
    let extractor := Extractor.create registry selection source unit
    let nodes := extractor.reportedNodes root
    (extractor.extract root).map some =
      nodes.map (fun node => extractor.report? (.classify node)) ∧
    (node ∈ nodes → extractor.report? (.classify node) =
      some ⟨.comment, ((OffsetIndex.ofText source).convert node.label.span unit).1,
        ((OffsetIndex.ofText source).convert node.label.span unit).2⟩) ∧
    (node ∈ nodes ↔ selection.contains .comment = true ∧ DeclarationLevel node.ancestorKinds ∧
      ∃ literal, node.tree.structuralChildren.filter (·.label.named) = [literal] ∧
        PlainLiteral source literal) ∧
    ((∀ part ∈ node.tree.structuralChildren, part.label.named = true) →
      (node ∈ nodes ↔ selection.contains .comment = true ∧ DeclarationLevel node.ancestorKinds ∧
        ∃ literal, node.tree.structuralChildren = [literal] ∧ PlainLiteral source literal)) := by
  intro extractor nodes
  have reported : node ∈ nodes ↔ selection.contains .comment = true ∧
      DeclarationLevel node.ancestorKinds ∧
        ∃ literal, namedParts node.tree = [literal] ∧ PlainLiteral source literal :=
    mem_reportedNodes_expression visited structural expression
  refine ⟨Extractor.map_some_extract_eq_nodes _ root, fun member => ?_, reported, fun named => ?_⟩
  · obtain ⟨selected, level, literal⟩ := reported.mp member
    rw [← atDeclarationLevel_iff] at level
    rw [← isStringStatement_iff] at literal
    rw [report?_expression structural expression, selected, level, literal]
    rfl
  · rw [reported, namedParts_of_named named]

/-- A class that begins with two strings side by side and a comment behind them. -/
def documentedClass : Tree :=
  .node ⟨108, "module", ⟨0, 23⟩, true, false, none⟩
    [.node ⟨155, "class_definition", ⟨0, 22⟩, true, false, none⟩
      [.node ⟨1, "identifier", ⟨6, 7⟩, true, false, some "name"⟩ [],
        .node ⟨161, "block", ⟨11, 22⟩, true, false, some "body"⟩
          [.node ⟨122, "expression_statement", ⟨11, 22⟩, true, false, none⟩
            [.node ⟨231, "concatenated_string", ⟨11, 18⟩, true, false, none⟩
              [.node ⟨232, "string", ⟨11, 14⟩, true, false, none⟩ [],
                .node ⟨232, "string", ⟨15, 18⟩, true, false, none⟩ []],
              .node ⟨99, "comment", ⟨19, 22⟩, true, true, none⟩ []]]]]

/-- The letters of byte strings inside the two strings and the comment behind them do not count. -/
theorem reports_docstring_iff_documentedClass :
    ∃ node ∈ (Node.root documentedClass).outsideExtras,
      node.label.extra = false ∧ node.label.kind ∈ grammar.idsOf "expression_statement" ∧
      (∀ part ∈ node.tree.structuralChildren, part.label.named = true) ∧
      node ∈ (Extractor.create registry (.ofNames ["comment"])
        "class A:\n  'b' \"f\" # c\n".toList .bytes).reportedNodes documentedClass ∧
      (Extractor.create registry (.ofNames ["comment"])
        "class A:\n  'b' \"f\" # c\n".toList .bytes).report? (.classify node) =
          some ⟨.comment, 11, 22⟩ := by
  have visited := List.get_mem (Node.root documentedClass).outsideExtras ⟨4, by decide⟩
  have expression : ((Node.root documentedClass).outsideExtras.get
      ⟨4, by decide⟩).label.kind ∈ grammar.idsOf "expression_statement" := by decide
  obtain ⟨-, place, -, whole⟩ := reports_docstring_iff (.ofNames ["comment"])
    "class A:\n  'b' \"f\" # c\n".toList .bytes documentedClass _ visited rfl expression
  have named : ∀ part ∈ ((Node.root documentedClass).outsideExtras.get
      ⟨4, by decide⟩).tree.structuralChildren, part.label.named = true := by decide
  have reported := (whole named).mpr ⟨by decide, .classBody rfl (.module rfl), _, rfl,
    .concatenated rfl fun piece among _ => (isPlainString_iff piece).mp ?_⟩
  · exact ⟨_, visited, rfl, expression, named, reported, place reported⟩
  · revert piece
    decide

def tupleOfString : Tree :=
  .node ⟨108, "module", ⟨0, 5⟩, true, false, none⟩
    [.node ⟨122, "expression_statement", ⟨0, 4⟩, true, false, none⟩
      [.node ⟨232, "string", ⟨0, 3⟩, true, false, none⟩
        [.node ⟨104, "string_start", ⟨0, 1⟩, true, false, none⟩ [],
          .node ⟨233, "string_content", ⟨1, 2⟩, true, false, none⟩ [],
          .node ⟨107, "string_end", ⟨2, 3⟩, true, false, none⟩ []],
        .node ⟨9, ",", ⟨3, 4⟩, false, false, none⟩ []]]

/-- The tuple is reported, though its statement has two parts. -/
theorem reports_tupleOfString :
    ∃ node ∈ (Node.root tupleOfString).outsideExtras,
      node.label.extra = false ∧ node.label.kind ∈ grammar.idsOf "expression_statement" ∧
      (¬∃ literal, node.tree.structuralChildren = [literal]) ∧
      node ∈ (Extractor.create registry (.ofNames ["comment"])
        "'a',\n".toList .bytes).reportedNodes tupleOfString ∧
      (Extractor.create registry (.ofNames ["comment"])
        "'a',\n".toList .bytes).extract tupleOfString = [⟨.comment, 0, 4⟩] := by
  have visited := List.get_mem (Node.root tupleOfString).outsideExtras ⟨1, by decide⟩
  have expression : ((Node.root tupleOfString).outsideExtras.get
      ⟨1, by decide⟩).label.kind ∈ grammar.idsOf "expression_statement" := by decide
  refine ⟨_, visited, rfl, expression, ?_,
    (mem_reportedNodes_expression visited rfl expression).mpr ⟨by decide, .module rfl, _, rfl,
      .string rfl ((isPlainString_iff _).mp (by decide))⟩, ?_⟩
  · rintro ⟨literal, alone⟩
    cases alone
  · rw [Extractor.extract_eq_append]
    decide +kernel

end Python

end SyntaxSpans
