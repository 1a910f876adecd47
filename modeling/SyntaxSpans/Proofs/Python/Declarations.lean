import SyntaxSpans.Proofs.Python.Statements

set_option autoImplicit false

namespace SyntaxSpans.Python

variable {source : List Char}

theorem size_holder? {statement holder : Node} (held : holder? statement = some holder) :
    statement.tree.size < holder.tree.size := by
  unfold holder? at held
  split at held
  · cases held
  · rename_i parent up
    have outer := Node.size_parent? up
    split at held
    · exact Nat.lt_trans outer (Node.size_parent? held)
    · cases held
      exact outer

theorem bodyOwner?_of_holder? {definition block statement : Node}
    (within : block.parent? = some definition) (kind : block.label.name = "block")
    (held : holder? statement = some block) : bodyOwner? statement = some definition := by
  have noModule : block.isKind "module" = false := by
    rw [Node.isKind, Tree.isKind, ← Node.label, kind]
    rfl
  rw [bodyOwner?, held]
  dsimp only
  rw [noModule, if_neg Bool.false_ne_true, if_pos ((isKind_iff _ _).mpr kind), within]

/-- A block is no body of its own in the body of a definition. -/
theorem StandsIn.enter_ne_classBody {block statement : Node} (stands : StandsIn block statement)
    (kind : block.label.name = "block") (level : (roleOf statement).declares = true) :
    (roleOf statement).enter statement.label.name ≠ .classBody := by
  rw [ne_eq, Role.enter_eq_classBody_iff]
  rintro ⟨-, module | part⟩
  · have held := stands.held
    unfold holder? at held
    split at held
    · cases held
    · rename_i parent up
      rw [roleOf_parent? up, Role.enter_eq_moduleBody_iff] at module
      split at held
      · rename_i decorated
        rw [isKind_iff, module] at decorated
        exact absurd decorated (by decide)
      · cases held
        rw [module] at kind
        exact absurd kind (by decide)
  · rw [part] at level
    cases level

theorem isInitialiser_eq (function : Node) (source : List Char) :
    isInitialiser function source = isInitialiserTree source function.tree := by
  unfold isInitialiser isInitialiserTree
  cases function.tree.childByField? "name" <;> rfl

/-- The statements of a function declare fields in an initialiser and otherwise nothing. -/
theorem declared_of_runs {function statement : Node} (runs : (roleOf statement).runs = true)
    (owned : bodyOwner? statement = some function) (structural : statement.label.extra = false)
    (lacks : statement.tree.Lacks "module")
    (plain : ((roleOf statement).enter statement.label.name).decorates = false)
    (isProperty : Bool) :
    declared source statement =
      if isInitialiserTree source function.tree then
        initialisedFields ⟨statement.tree, isProperty⟩
      else [] := by
  have noLevel : (roleOf statement).declares = false := Role.declares_of_runs runs
  have fields : declaresFields statement source = isInitialiserTree source function.tree := by
    rw [declaresFields_eq, noLevel, runs, owned, Option.any_some, isInitialiser_eq,
      Bool.false_or, Bool.true_and]
  have kind : initialisedFields ⟨statement.tree, isProperty⟩ =
      if statement.isKind "expression_statement" then assignedFields statement.tree else [] := rfl
  by_cases expression : statement.label.name = "expression_statement"
  · rw [declared_expression expression structural lacks (.inr runs), fields, kind,
      if_pos ((isKind_iff _ _).mpr expression)]
  · have own : registry.declaration? source statement = none := by
      apply declaration?_eq_none noLevel
      intro role
      rw [role] at runs
      cases runs
    rw [kind, if_neg (mt (isKind_iff _ _).mp expression), ite_self]
    exact declared_of_idle lacks own (Role.enter_of_runs runs lacks.name_ne expression plain)

theorem declared_function {function : Node} (kind : function.label.name = "function_definition")
    (structural : function.label.extra = false) (lacks : function.tree.Lacks "module")
    (level : (roleOf function).declares = true) :
    declared source function =
      function.tree.record (if isProperty function source then .property else .function) ::
        initialFields source function.tree := by
  have part : (roleOf function).enter function.label.name = .functionPart :=
    (Role.enter_eq_functionPart_iff _ _).mpr ⟨kind, level⟩
  have own : registry.declaration? source function = some (function.tree.record
      (if isProperty function source then .property else .function)) := by
    rw [declaration?_eq, structural, kind, level]
    simp
  refine (declared_definition
    (fun statement => if isInitialiserTree source function.tree then initialisedFields statement
      else []) structural lacks (.inr part) ?_).trans ?_
  · intro block statement within block' stands
    have body : roleOf block = .functionPart := by
      rw [roleOf_parent? within, part]
    have runs : (roleOf statement).runs = true :=
      (roleOf_holder? stands.held).2.mpr ⟨block', body⟩
    have owned := bodyOwner?_of_holder? within block' stands.held
    exact declared_of_runs runs owned stands.structural stands.lacks stands.plain _
  · rw [own, initialFields]
    cases isInitialiserTree source function.tree with
    | true => rfl
    | false => simp

/-- A class declares itself and then whatever is declared in its blocks. -/
theorem declared_class {classDef : Node} (kind : classDef.label.name = "class_definition")
    (structural : classDef.label.extra = false) (lacks : classDef.tree.Lacks "module")
    (level : (roleOf classDef).declares = true)
    (each : ∀ statement, statement.tree.size < classDef.tree.size →
      (roleOf statement).declares = true →
      (roleOf statement).enter statement.label.name ≠ .classBody →
      statement.label.extra = false → statement.tree.Lacks "module" →
      ((roleOf statement).enter statement.label.name).decorates = false →
      declared source statement = visit source ⟨statement.tree, isProperty statement source⟩) :
    declared source classDef =
      classDef.tree.record .classDef ::
        (innerStatements source classDef.tree).flatMap (visit source) := by
  have part : (roleOf classDef).enter classDef.label.name = .classPart :=
    (Role.enter_eq_classPart_iff _ _).mpr ⟨kind, level⟩
  have own : registry.declaration? source classDef = some (classDef.tree.record .classDef) := by
    rw [declaration?_eq, structural, kind, level]
    simp
  refine (declared_definition (visit source) structural lacks (.inl part) ?_).trans ?_
  · intro block statement within block' stands
    have body : roleOf block = .classPart := by
      rw [roleOf_parent? within, part]
    have smaller : statement.tree.size < classDef.tree.size :=
      Nat.lt_trans (size_holder? stands.held) (Node.size_parent? within)
    have declares : (roleOf statement).declares = true :=
      (roleOf_holder? stands.held).1.mpr (.inr ⟨block', .inr body⟩)
    exact each statement smaller declares (stands.enter_ne_classBody block' declares)
      stands.structural stands.lacks stands.plain
  · rw [own]
    rfl

/-- Where declarations stand, a statement declares what the visitor finds at it. -/
theorem declared_eq_visit {node : Node} (level : (roleOf node).declares = true)
    (inner : (roleOf node).enter node.label.name ≠ .classBody)
    (structural : node.label.extra = false) (lacks : node.tree.Lacks "module")
    (plain : ((roleOf node).enter node.label.name).decorates = false) :
    declared source node = visit source ⟨node.tree, isProperty node source⟩ := by
  induction node using Node.inductionOnSize with
  | step node ih =>
      have kinds (kind : String) : node.tree.isKind kind = decide (node.label.name = kind) := by
        rw [Bool.eq_iff_iff, decide_eq_true_iff]
        exact isKind_iff node kind
      by_cases classDef : node.label.name = "class_definition"
      · rw [visit_class (by rw [kinds, classDef]; rfl)]
        exact declared_class classDef structural lacks level ih
      · rw [visit, kinds, decide_eq_false classDef, if_neg Bool.false_ne_true]
        by_cases function : node.label.name = "function_definition"
        · rw [kinds, decide_eq_true function, if_pos rfl]
          exact declared_function function structural lacks level
        · rw [kinds, decide_eq_false function, if_neg Bool.false_ne_true]
          by_cases expression : node.label.name = "expression_statement"
          · have fields : declaresFields node source = true := by
              rw [declaresFields_eq, level, Bool.true_or]
            rw [kinds, decide_eq_true expression, if_pos rfl,
              declared_expression expression structural lacks (.inl level), fields, if_pos rfl]
          · have own : registry.declaration? source node = none := by
              have noTarget : isFieldTarget node source = false := by
                rw [← Bool.not_eq_true]
                intro target
                rw [roleOf_of_isFieldTarget target] at level
                cases level
              rw [declaration?_eq, if_neg classDef, if_neg function, noTarget]
              simp
            rw [kinds, decide_eq_false expression, if_neg Bool.false_ne_true]
            exact declared_of_idle lacks own
              (Role.enter_of_declares level lacks.name_ne classDef function expression plain inner)

/-- Everything directly in a module is a statement of it, but for blocks, which are bodies. -/
theorem declared_moduleChild {module child : Node} (within : child.parent? = some module)
    (kind : module.label.name = "module") (structural : child.label.extra = false)
    (lacks : child.tree.Lacks "module") :
    declared source child =
      (if child.tree.isKind "block" then statements source child.tree
        else standsFor source child.tree).flatMap (visit source) := by
  have role : roleOf child = .moduleBody := by
    rw [roleOf_parent? within, Role.enter_eq_moduleBody_iff]
    exact kind
  split
  · rename_i block
    have block : child.label.name = "block" := (isKind_iff child _).mp block
    have own : registry.declaration? source child = none := by
      rw [declaration?_eq, block]
      simp
    apply declared_body (visit source) own (by rw [block]; decide) structural lacks
    intro statement stands
    have level : (roleOf statement).declares = true :=
      (roleOf_holder? stands.held).1.mpr (.inr ⟨block, .inl role⟩)
    exact declared_eq_visit level (stands.enter_ne_classBody block level) stands.structural
      stands.lacks stands.plain
  · rename_i other
    have other : child.label.name ≠ "block" := mt (isKind_iff child _).mpr other
    apply declared_standsFor (visit source) within (by rw [kind]; decide) structural lacks
    intro statement stands place
    have level : (roleOf statement).declares = true :=
      (roleOf_holder? stands.held).1.mpr (.inl kind)
    refine declared_eq_visit level ?_ stands.structural stands.lacks stands.plain
    -- Only the child itself stands directly in the module, and it is no block.
    rw [ne_eq, Role.enter_eq_classBody_iff]
    rintro ⟨block, outer | part⟩
    · rcases place with rfl | up
      · exact other block
      · rw [roleOf_parent? up, Role.enter_eq_moduleBody_iff] at outer
        exact lacks.name_ne outer
    · rw [part] at level
      cases level

/-- A whole tree declares what the visitor collects from it. -/
theorem declared_root {root : Tree} (structural : root.label.extra = false)
    (modules : ∀ child ∈ root.children, child.Lacks "module") :
    declared source (.root root) = visitRoot source root := by
  have structural : (Node.root root).label.extra = false := structural
  have top : roleOf (.root root) = .nothing := roleOf_of_top (Node.parent?_root root)
  have own : registry.declaration? source (.root root) = none :=
    declaration?_eq_none (by rw [top]; rfl) (by rw [top]; decide)
  unfold visitRoot
  split
  · rename_i module
    have module : (Node.root root).label.name = "module" := (isKind_iff (.root root) _).mp module
    refine (declared_eq_flatMap (fun child =>
      (if child.isKind "block" then statements source child else standsFor source child).flatMap
        (visit source)) structural ?_).trans ?_
    · intro child among plain
      exact declared_moduleChild (Node.parent?_below among) module plain
        (modules _ (Node.tree_mem_children among))
    · rw [own, Option.toList_none, List.nil_append, moduleStatements, List.flatMap_assoc]
      rfl
  · rename_i other
    have other : (Node.root root).label.name ≠ "module" := mt (isKind_iff (.root root) _).mpr other
    refine (declared_eq_flatMap (fun _ => []) structural ?_).trans ?_
    · intro child among _
      apply declared_of_nothing (modules _ (Node.tree_mem_children among))
      rw [roleOf_parent? (Node.parent?_below among), top]
      exact Role.enter_nothing other
    · rw [own]
      simp

/-- The declarations of a report in bytes are what is selected of the visitor's records. The kinds
of the tree are those of the grammar, and no module is inside another node. -/
theorem extract_eq_visitRoot (selection : Selection) (source : List Char) (root : Tree)
    (structural : root.label.extra = false)
    (modules : ∀ child ∈ root.children, child.Lacks "module")
    (fits : ∀ label ∈ root.labels, table.Fits grammar label) :
    ((Extractor.create registry selection source .bytes).extract root).takeWhile
        (fun record => record.category ≠ .comment) =
      (visitRoot source root).filter fun record => selection.contains record.category := by
  have declarations : (Extractor.create registry selection source .bytes).declarations root =
      (declared source (.root root)).filter fun record => selection.contains record.category :=
    Extractor.declarations_eq_filterMap fits
  rw [← declared_root structural modules, ← declarations]
  exact Extractor.takeWhile_extract (Language.separates .python) root

/-- The tree of a class whose initialiser assigns an attribute. -/
def initialisedClass : Tree :=
  .node ⟨108, "module", ⟨0, 40⟩, true, false, none⟩
    [.node ⟨155, "class_definition", ⟨0, 39⟩, true, false, none⟩
      [.node ⟨1, "identifier", ⟨6, 7⟩, true, false, some "name"⟩ [],
        .node ⟨161, "block", ⟨11, 39⟩, true, false, some "body"⟩
          [.node ⟨146, "function_definition", ⟨11, 39⟩, true, false, none⟩
            [.node ⟨1, "identifier", ⟨15, 23⟩, true, false, some "name"⟩ [],
              .node ⟨161, "block", ⟨32, 39⟩, true, false, some "body"⟩
                [.node ⟨122, "expression_statement", ⟨32, 39⟩, true, false, none⟩
                  [.node ⟨199, "assignment", ⟨32, 39⟩, true, false, none⟩
                    [.node ⟨204, "attribute", ⟨32, 35⟩, true, false, some "left"⟩ [],
                      .node ⟨93, "integer", ⟨38, 39⟩, true, false, some "right"⟩ []]]]]]]]

/-- The method is not selected, and the field that it assigns is. -/
theorem extract_eq_visitRoot_initialisedClass :
    (initialisedClass.label.extra = false ∧
      (∀ child ∈ initialisedClass.children, child.Lacks "module") ∧
      ∀ label ∈ initialisedClass.labels, table.Fits grammar label) ∧
    ((Extractor.create registry (.ofNames ["class", "field"])
        "class A:\n  def __init__(s):\n    s.x = 1\n".toList .bytes).extract
          initialisedClass).takeWhile (fun record => record.category ≠ .comment) =
      [⟨.classDef, 0, 39⟩, ⟨.field, 32, 35⟩] := by
  have modules : ∀ child ∈ initialisedClass.children, child.Lacks "module" := by
    unfold Tree.Lacks
    decide
  have fits : ∀ label ∈ initialisedClass.labels, table.Fits grammar label := by decide
  refine ⟨⟨rfl, modules, fits⟩, ?_⟩
  rw [extract_eq_visitRoot _ _ _ rfl modules fits]
  have collected : visitRoot "class A:\n  def __init__(s):\n    s.x = 1\n".toList
      initialisedClass = [⟨.classDef, 0, 39⟩, ⟨.function, 11, 39⟩, ⟨.field, 32, 35⟩] := by
    decide +kernel
  rw [collected]
  decide

end SyntaxSpans.Python
