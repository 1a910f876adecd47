import SyntaxSpans.Languages.CSharp
import SyntaxSpans.Proofs.Kinds.Agreement

set_option autoImplicit false

namespace SyntaxSpans

def Grammar.Shows (grammar : Grammar) (name : String) : Prop :=
  ∃ id, grammar.nameOf? id = some name

namespace Table

/-- A name that is listed for a category and is first claimed for another one. -/
def Overtaken (table : Table) (category : Category) (name : String) : Prop :=
  name ∈ table.namesFor category ∧
    ∃ first, first ≠ category ∧ table.categoryOfName? name = some first

/-- A name that a declaration claims for comments first, and that is not among the names of them. A
table that keeps comments out of its declarations has none. -/
def Undisclosed (table : Table) (name : String) : Prop :=
  (.comment, name) ∈ table.declarations ∧ table.categoryOfName? name = some .comment ∧
    name ∉ table.namesFor .comment

variable {table : Table} {category : Category} {name : String}

theorem mem_namesFor_comment_iff :
    name ∈ table.namesFor .comment ↔ name ∈ table.comments ∨ name ∈ table.statementComments := by
  rw [namesFor, if_pos rfl, List.mem_append]

theorem mem_namesFor_iff_of_ne (other : category ≠ .comment) :
    name ∈ table.namesFor category ↔ (category, name) ∈ table.declarations := by
  rw [namesFor, if_neg other]
  simp [List.mem_filter]

theorem exists_categoryOfName? (listed : name ∈ table.namesFor category) :
    ∃ first, table.categoryOfName? name = some first := by
  unfold categoryOfName?
  cases found : table.declarations.find? fun entry => name == entry.2 with
  | some entry => exact ⟨entry.1, rfl⟩
  | none =>
      -- No declaration has the name, so it is one for comments.
      have undeclared : ¬table.Declares name := (table.not_declares_iff name).mpr found
      have comment : category = .comment := by
        by_contra other
        exact undeclared ⟨_, (mem_namesFor_iff_of_ne other).mp listed, rfl⟩
      rw [comment, mem_namesFor_comment_iff] at listed
      exact ⟨.comment, if_pos listed⟩

theorem not_overtaken_iff (listed : name ∈ table.namesFor category) :
    ¬table.Overtaken category name ↔ table.categoryOfName? name = some category := by
  obtain ⟨first, claimed⟩ := exists_categoryOfName? listed
  rw [Overtaken, claimed, Option.some.injEq]
  constructor
  · intro free
    by_contra other
    exact free ⟨listed, first, other, rfl⟩
  · rintro rfl ⟨-, other, different, same⟩
    cases same
    exact different rfl

/-- The category that has a name first lists it, unless that is a declaration for comments. -/
theorem mem_namesFor_or_undisclosed (claimed : table.categoryOfName? name = some category) :
    name ∈ table.namesFor category ∨ category = .comment ∧ table.Undisclosed name := by
  have first := claimed
  unfold categoryOfName? at claimed
  split at claimed
  · rename_i entry found
    obtain ⟨proposed, other⟩ := entry
    have same : name = other := by simpa using List.find?_some found
    rw [Option.some.injEq] at claimed
    dsimp only at claimed
    subst claimed same
    have declared : (proposed, name) ∈ table.declarations := List.mem_of_find?_eq_some found
    by_cases comment : proposed = .comment
    · subst comment
      by_cases listed : name ∈ table.namesFor .comment
      · exact .inl listed
      · exact .inr ⟨rfl, declared, first, listed⟩
    · exact .inl ((mem_namesFor_iff_of_ne comment).mpr declared)
  · obtain ⟨comment, same⟩ := Option.ite_none_right_eq_some.mp claimed
    rw [Option.some.injEq] at same
    rw [← same]
    exact .inl (mem_namesFor_comment_iff.mpr comment)

/-- Of one name: being listed for a category and being claimed for it first come to the same
exactly where the name is neither overtaken nor undisclosed. -/
theorem listed_iff_first_iff :
    (name ∈ table.namesFor category ↔ table.categoryOfName? name = some category) ↔
      ¬table.Overtaken category name ∧ (category = .comment → ¬table.Undisclosed name) := by
  constructor
  · intro same
    refine ⟨?_, ?_⟩
    · intro overtaken
      exact (not_overtaken_iff overtaken.1).mpr (same.mp overtaken.1) overtaken
    · rintro rfl ⟨-, first, unlisted⟩
      exact unlisted (same.mpr first)
  · rintro ⟨free, disclosed⟩
    constructor
    · intro listed
      exact (not_overtaken_iff listed).mp free
    · intro first
      rcases mem_namesFor_or_undisclosed first with listed | ⟨comment, hidden⟩
      · exact listed
      · exact absurd hidden (disclosed comment)

end Table

namespace Registry

section Names

variable {grammar : Grammar} (distinct : (grammar.symbols.map (·.1)).Nodup) (table : Table)
  (category : Category)

include distinct

theorem exists_mem_kindsFor_iff (name : String) :
    (∃ id ∈ (build grammar table).kindsFor category, grammar.nameOf? id = some name) ↔
      grammar.Shows name ∧ table.categoryOfName? name = some category := by
  constructor
  · rintro ⟨id, listed, shown⟩
    have known := (mem_kindsFor_iff category).mp listed
    rw [categoryOf?_of_nameOf? distinct table shown] at known
    exact ⟨⟨id, shown⟩, known⟩
  · rintro ⟨⟨id, shown⟩, first⟩
    refine ⟨id, (mem_kindsFor_iff category).mpr ?_, shown⟩
    rw [categoryOf?_of_nameOf? distinct table shown]
    exact first

/-- The numbers listed for a category have those names of the grammar for which the category is the
first claim. The names listed for it that the grammar has are the same exactly where none of them is
first claimed for another category, and where no declaration makes a comment of a name that is not
among the comments. -/
theorem names_agree_iff :
    (∀ name, (∃ id ∈ (build grammar table).kindsFor category, grammar.nameOf? id = some name) ↔
      grammar.Shows name ∧ table.categoryOfName? name = some category) ∧
    ((∀ name, (name ∈ (build grammar table).namesFor category ∧ grammar.Shows name) ↔
        ∃ id ∈ (build grammar table).kindsFor category, grammar.nameOf? id = some name) ↔
      ∀ name, grammar.Shows name → ¬table.Overtaken category name ∧
        (category = .comment → ¬table.Undisclosed name)) := by
  refine ⟨exists_mem_kindsFor_iff distinct table category, ?_⟩
  simp only [exists_mem_kindsFor_iff distinct, ← Table.listed_iff_first_iff]
  refine forall_congr' fun name => ?_
  rw [and_comm]
  exact and_congr_right_iff

end Names

/-- For classes the names and those of the numbers agree. For comments they do not, since one of the
names is a field. -/
theorem names_agree_iff_overlapping :
    (overlapping.1.symbols.map (·.1)).Nodup ∧
    (∀ name, (name ∈ (build overlapping.1 overlapping.2).namesFor .classDef ∧
        overlapping.1.Shows name) ↔
      ∃ id ∈ (build overlapping.1 overlapping.2).kindsFor .classDef,
        overlapping.1.nameOf? id = some name) ∧
    ¬∀ name, (name ∈ (build overlapping.1 overlapping.2).namesFor .comment ∧
        overlapping.1.Shows name) ↔
      ∃ id ∈ (build overlapping.1 overlapping.2).kindsFor .comment,
        overlapping.1.nameOf? id = some name := by
  have distinct : (overlapping.1.symbols.map (·.1)).Nodup := by decide
  obtain ⟨-, classes⟩ := names_agree_iff distinct overlapping.2 .classDef
  obtain ⟨-, comments⟩ := names_agree_iff distinct overlapping.2 .comment
  refine ⟨distinct, classes.mpr fun name _ => ⟨?_, nofun⟩, comments.not.mpr fun free => ?_⟩
  · have listed : overlapping.2.namesFor .classDef = ["class"] := by decide
    have first : overlapping.2.categoryOfName? "class" = some .classDef := by decide
    rintro ⟨member, other, different, claimed⟩
    rw [listed, List.mem_singleton] at member
    rw [member, first, Option.some.injEq] at claimed
    exact different claimed.symm
  · have shown : overlapping.1.Shows "note" := ⟨3, by decide⟩
    have first : overlapping.2.categoryOfName? "note" = some .field := by decide
    exact (free "note" shown).1 ⟨by decide, .field, by decide, first⟩

/-- A table with a kind that is claimed for classes and then for functions. -/
def classTwice : Table where
  language := "custom"
  declarations :=
    [(.classDef, "class_declaration"), (.function, "class_declaration"),
      (.field, "field_declaration")]
  comments := ["comment"]
  statementComments := []
  refined := []
  rule := none

/-- The name is listed for functions, and the grammar of C# has it, but functions have no number. -/
theorem names_keep_overtaken :
    ¬∀ name, (name ∈ (build CSharp.grammar classTwice).namesFor .function ∧
        CSharp.grammar.Shows name) ↔
      ∃ id ∈ (build CSharp.grammar classTwice).kindsFor .function,
        CSharp.grammar.nameOf? id = some name := by
  intro same
  have listed : "class_declaration" ∈ (build CSharp.grammar classTwice).namesFor .function := by
    decide
  have shown : CSharp.grammar.nameOf? 232 = some "class_declaration" := by decide +kernel
  have unnumbered : (build CSharp.grammar classTwice).kindsFor .function = [] := by decide +kernel
  obtain ⟨id, among, -⟩ := (same _).mp ⟨listed, 232, shown⟩
  rw [unnumbered] at among
  cases among

end Registry

end SyntaxSpans
