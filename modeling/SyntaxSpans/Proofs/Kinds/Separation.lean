import SyntaxSpans.Language

set_option autoImplicit false

namespace SyntaxSpans

theorem firstClaims_sublist (taken : List KindId) (claims : List Claim) :
    (firstClaims taken claims).Sublist claims := by
  induction claims generalizing taken with
  | nil => exact List.Sublist.refl _
  | cons claim rest ih =>
      unfold firstClaims
      split
      · exact (ih taken).cons claim
      · exact (ih _).cons_cons claim

theorem mem_of_mem_firstIds {taken ids : List KindId} {id : KindId}
    (member : id ∈ firstIds taken ids) : id ∈ ids ∧ id ∉ taken := by
  induction ids generalizing taken with
  | nil => cases member
  | cons first rest ih =>
      unfold firstIds at member
      split at member
      · obtain ⟨among, free⟩ := ih member
        exact ⟨List.mem_cons_of_mem _ among, free⟩
      · rename_i fresh
        rcases List.mem_cons.mp member with rfl | later
        · exact ⟨List.mem_cons_self, by simpa using fresh⟩
        · obtain ⟨among, free⟩ := ih later
          exact ⟨List.mem_cons_of_mem _ among, fun before => free (List.mem_cons_of_mem _ before)⟩

namespace Registry

theorem isDeclaration_iff (registry : Registry) (kind : KindId) :
    registry.isDeclaration kind = true ↔
      ∃ category, registry.declared.lookup kind = some category := by
  rw [← Option.isSome_iff_exists, List.lookup_isSome_iff]
  simp only [isDeclaration, List.any_eq_true, beq_iff_eq, @eq_comm _ kind]

/-- A declared number has a category that the table gives to some name. -/
theorem category_of_isDeclaration {grammar : Grammar} {table : Table} {kind : KindId}
    (known : (build grammar table).isDeclaration kind = true) :
    ∃ entry ∈ table.declarations, (build grammar table).categoryOf? kind = some entry.1 := by
  obtain ⟨category, found⟩ := (isDeclaration_iff _ kind).mp known
  have claimed : (kind, category) ∈ (build grammar table).declared := by
    obtain ⟨before, after, split, -⟩ := List.lookup_eq_some_iff.mp found
    rw [split]
    exact List.mem_append_right _ List.mem_cons_self
  obtain ⟨entry, listed, claims⟩ :=
    List.mem_flatMap.mp ((firstClaims_sublist _ _).subset claimed)
  obtain ⟨id, -, same⟩ := List.mem_map.mp claims
  cases same
  refine ⟨entry, listed, ?_⟩
  simp only [categoryOf?, found]

theorem category_of_isStatementComment {grammar : Grammar} {table : Table} {kind : KindId}
    (known : (build grammar table).isStatementComment kind = true) :
    (build grammar table).categoryOf? kind = some .comment := by
  have member : kind ∈ (build grammar table).statementComments := by
    simpa [isStatementComment] using known
  have free := (mem_of_mem_firstIds member).2
  have undeclared : (build grammar table).declared.lookup kind = none := by
    rw [List.lookup_eq_none_iff]
    intro claim claimed
    simp only [bne_iff_ne, ne_eq]
    rintro rfl
    exact free (List.mem_append_left _ (List.mem_map_of_mem claimed))
  simp only [categoryOf?, undeclared, known, Bool.or_true, ↓reduceIte]

end Registry

/-- Neither the table nor its rule mixes declarations and comments. -/
structure Table.Separates (table : Table) : Prop where
  declared : ∀ entry ∈ table.declarations, entry.1 ≠ .comment
  ruled : ∀ rule, table.rule = some rule → ∀ node source category result,
    rule node source category = some result → (result = .comment ↔ category = .comment)

/-- A rule can drop an element but not move it between declarations and comments. -/
theorem Table.Separates.refine {table : Table} (separates : table.Separates) (grammar : Grammar)
    {node : Node} {source : List Char} {category result : Category}
    (refined : (Registry.build grammar table).refine node source category = some result) :
    result = .comment ↔ category = .comment := by
  unfold Registry.refine at refined
  split at refined
  · rename_i rule present
    exact separates.ruled rule present node source category result refined
  · cases refined
    exact Iff.rfl

/-- Of all categories only a function can turn into another one, and that is a property. -/
theorem Python.contextRule_result {node : Node} {source : List Char} {category result : Category}
    (ruled : contextRule node source category = some result) :
    result = category ∨ category = .function ∧ result = .property := by
  cases category with
  | property | namespaceDef =>
      cases ruled
      exact .inl rfl
  | classDef | field | comment =>
      simp only [contextRule, Option.ite_none_right_eq_some, Option.some.injEq] at ruled
      exact .inl ruled.2.symm
  | function =>
      simp only [contextRule, Option.ite_none_right_eq_some, Option.some.injEq] at ruled
      obtain ⟨-, rfl⟩ := ruled
      cases isProperty node source with
      | true => exact .inr ⟨rfl, rfl⟩
      | false => exact .inl rfl

theorem Python.contextRule_comment_iff {node : Node} {source : List Char}
    {category result : Category} (ruled : contextRule node source category = some result) :
    result = .comment ↔ category = .comment := by
  rcases contextRule_result ruled with same | ⟨function, property⟩
  · rw [same]
  · rw [function, property]
    simp only [reduceCtorEq]

/-- The tables that are built in keep declarations and comments apart. -/
theorem Language.separates (language : Language) : language.registry.table.Separates := by
  constructor
  · cases language <;> decide
  · cases language with
    | python =>
        rintro rule present node source category result ruled
        cases present
        exact Python.contextRule_comment_iff ruled
    | csharp | java =>
        intro rule present
        cases present

theorem Language.registry_eq_build (language : Language) :
    language.registry = Registry.build language.grammar language.registry.table := by
  cases language <;> rfl

end SyntaxSpans
