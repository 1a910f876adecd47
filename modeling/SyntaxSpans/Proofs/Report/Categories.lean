import SyntaxSpans.Proofs.Kinds.Agreement
import SyntaxSpans.Proofs.Report.Order

set_option autoImplicit false

namespace SyntaxSpans

/-- The rule leaves a category as it is, or makes it one that the table announces. -/
def Table.Foresees (table : Table) : Prop :=
  ∀ rule, table.rule = some rule → ∀ node source category result,
    rule node source category = some result → result = category ∨ result ∈ table.refined

theorem Table.foresees_of_none {table : Table} (unruled : table.rule = none) : table.Foresees := by
  intro rule present
  rw [unruled] at present
  cases present

theorem Python.table_foresees : table.Foresees := by
  intro rule present node source category result ruled
  cases present
  rcases contextRule_result ruled with same | ⟨-, property⟩
  · exact .inl same
  · rw [property]
    exact .inr List.mem_cons_self

namespace Registry

variable {grammar : Grammar} {table : Table}

/-- A registry announces what it has numbers for and what its rule makes. -/
theorem mem_categories_iff (registry : Registry) (category : Category) :
    category ∈ registry.categories ↔
      registry.kindsFor category ≠ [] ∨ category ∈ registry.table.refined := by
  simp only [categories, List.mem_filter, category.mem_all, true_and, Bool.or_eq_true,
    Bool.not_eq_true', List.isEmpty_eq_false_iff, List.contains_iff_mem]

theorem mem_categories_of_categoryOf? {kind : KindId} {category : Category}
    (known : (build grammar table).categoryOf? kind = some category) :
    category ∈ (build grammar table).categories := by
  rw [mem_categories_iff]
  have listed : kind ∈ (build grammar table).kindsFor category :=
    (mem_kindsFor_iff category).mpr known
  exact .inl (List.ne_nil_of_mem listed)

theorem mem_categories_of_refine (foresees : table.Foresees) {node : Node} {source : List Char}
    {category result : Category} (announced : category ∈ (build grammar table).categories)
    (refined : (build grammar table).refine node source category = some result) :
    result ∈ (build grammar table).categories := by
  unfold refine at refined
  split at refined
  · rename_i rule present
    rcases foresees rule present node source category result refined with rfl | made
    · exact announced
    · exact (mem_categories_iff _ result).mpr (.inr made)
  · cases refined
    exact announced

end Registry

namespace Extractor

variable {grammar : Grammar} {table : Table} {selection : Selection} {source : List Char}
  {unit : SpanUnit}

/-- Whatever an element is taken for is announced. -/
theorem mem_categories_of_categorize (foresees : table.Foresees) {element : Element}
    {category : Category}
    (found : (create (.build grammar table) selection source unit).categorize element =
      some category) : category ∈ (Registry.build grammar table).categories := by
  unfold categorize at found
  split at found
  · -- What is extra never comes before the rule.
    obtain ⟨comment, same⟩ := Option.ite_none_right_eq_some.mp found
    have known : (Registry.build grammar table).categoryOf? element.kind = some .comment :=
      (Registry.categoryOf?_eq_some_iff .comment).mpr (.inr ⟨rfl, .inl comment⟩)
    rw [← Option.some.inj same]
    exact Registry.mem_categories_of_categoryOf? known
  · obtain ⟨proposed, known, refined⟩ := Option.bind_eq_some_iff.mp found
    have announced : proposed ∈ (Registry.build grammar table).categories :=
      Registry.mem_categories_of_categoryOf? known
    exact Registry.mem_categories_of_refine foresees announced refined

theorem mem_categories_of_mem_extract (foresees : table.Foresees) {root : Tree} {record : Record}
    (member : record ∈ (create (.build grammar table) selection source unit).extract root) :
    record.category ∈ (Registry.build grammar table).categories := by
  rw [extract_eq_filterMap] at member
  obtain ⟨element, -, reported⟩ := List.mem_filterMap.mp member
  exact mem_categories_of_categorize foresees ((report?_eq_some_iff _ _ _).mp reported).1

/-- Without a rule, or with the table for Python, every record of a report has a category that its
registry announces, whatever the grammar, the tree and the selection are. A category that has no
number and that the table says no rule makes is in no report. -/
theorem extract_within_categories (grammar : Grammar) (table : Table)
    (known : table.rule = none ∨ table = Python.table) (selection : Selection)
    (source : List Char) (unit : SpanUnit) (root : Tree) :
    let registry := Registry.build grammar table
    ∀ record ∈ (create registry selection source unit).extract root,
      record.category ∈ registry.categories ∧
      ∀ category, registry.kindsFor category = [] → category ∉ table.refined →
        record.category ≠ category := by
  dsimp only
  intro record member
  have foresees : table.Foresees := by
    rcases known with unruled | rfl
    · exact Table.foresees_of_none unruled
    · exact Python.table_foresees
  have announced : record.category ∈ (Registry.build grammar table).categories :=
    mem_categories_of_mem_extract foresees member
  refine ⟨announced, fun category unnumbered unmade same => ?_⟩
  rw [same, Registry.mem_categories_iff] at announced
  rcases announced with numbered | made
  · exact numbered unnumbered
  · exact unmade made

def decoratedFunction : Tree :=
  .node ⟨108, "module", ⟨0, 24⟩, true, false, none⟩
    [.node ⟨159, "decorated_definition", ⟨0, 23⟩, true, false, none⟩
      [.node ⟨160, "decorator", ⟨0, 9⟩, true, false, none⟩
        [.node ⟨1, "identifier", ⟨1, 9⟩, true, false, none⟩ []],
        .node ⟨146, "function_definition", ⟨10, 23⟩, true, false, some "definition"⟩ []]]

/-- The property has no number of its own and is announced, since the rule makes it. A namespace is
selected as well, and neither announced nor reported. -/
theorem extract_within_categories_decoratedFunction :
    (Python.table.rule = none ∨ Python.table = Python.table) ∧
    Python.registry.kindsFor .property = [] ∧
    ∃ record ∈ (create Python.registry (.ofNames ["property", "namespace"])
        "@property\ndef f(): pass\n".toList .bytes).extract decoratedFunction,
      record = ⟨.property, 10, 23⟩ ∧ record.category ∈ Python.registry.categories ∧
      record.category ≠ .namespaceDef := by
  have known : Python.table.rule = none ∨ Python.table = Python.table := .inr rfl
  have reported : ⟨.property, 10, 23⟩ ∈ (create Python.registry (.ofNames ["property", "namespace"])
      "@property\ndef f(): pass\n".toList .bytes).extract decoratedFunction := by
    rw [extract_eq_append]
    decide +kernel
  obtain ⟨announced, others⟩ := extract_within_categories Python.grammar Python.table known
    (.ofNames ["property", "namespace"]) "@property\ndef f(): pass\n".toList .bytes
    decoratedFunction _ reported
  refine ⟨known, by decide +kernel, _, reported, rfl, announced, others .namespaceDef ?_ ?_⟩
  · decide +kernel
  · decide

end Extractor

end SyntaxSpans
