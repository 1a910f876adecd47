import SyntaxSpans.Languages.CSharp
import SyntaxSpans.Proofs.Kinds.Agreement

set_option autoImplicit false

namespace SyntaxSpans

theorem nodup_firstIds (taken ids : List KindId) : (firstIds taken ids).Nodup := by
  induction ids generalizing taken with
  | nil => exact List.nodup_nil
  | cons id rest ih =>
      unfold firstIds
      split
      · exact ih taken
      · rw [List.nodup_cons]
        exact ⟨fun later => (mem_of_mem_firstIds later).2 List.mem_cons_self, ih _⟩

theorem count_claims (claims : List Claim) (id : KindId) :
    (Category.all.flatMap fun category =>
      (claims.filter (·.2 = category)).map (·.1)).count id = (claims.map (·.1)).count id := by
  induction claims with
  | nil => rfl
  | cons claim rest ih =>
      obtain ⟨other, category⟩ := claim
      rw [List.map_cons, List.count_cons, ← ih]
      -- The first claim is in the list of its own category and in no other.
      cases category <;>
        (simp only [Category.all, List.flatMap_cons, List.flatMap_nil, List.count_append,
          List.filter_cons, reduceCtorEq, decide_false, decide_true, Bool.false_eq_true, ↓reduceIte,
          List.map_cons, List.count_cons]
         omega)

namespace Grammar

variable {grammar : Grammar} (distinct : (grammar.symbols.map (·.1)).Nodup)

include distinct

theorem nodup_idsOf (name : String) : (grammar.idsOf name).Nodup := by
  have part : (grammar.idsOf name).Sublist (grammar.symbols.map (·.1)) :=
    List.filter_sublist.map _
  exact part.nodup distinct

theorem count_idsOf (id : KindId) (name : String) :
    (grammar.idsOf name).count id = if grammar.nameOf? id = some name then 1 else 0 := by
  rw [(nodup_idsOf distinct name).count]
  simp only [mem_idsOf_iff distinct]

/-- Among the numbers of several names one stands as often as its name does. -/
theorem count_flatMap_idsOf (id : KindId) (names : List String) :
    (names.flatMap grammar.idsOf).count id =
      (grammar.nameOf? id).elim 0 fun name => names.count name := by
  induction names with
  | nil => cases grammar.nameOf? id <;> rfl
  | cons first rest ih =>
      rw [List.flatMap_cons, List.count_append, count_idsOf distinct, ih]
      cases grammar.nameOf? id with
      | none => rfl
      | some name =>
          simp only [Option.some.injEq, Option.elim_some, List.count_cons, beq_iff_eq,
            @eq_comm _ first, Nat.add_comm]

end Grammar

namespace Registry

/-- The numbers of all categories, list after list. -/
def numbers (registry : Registry) : List KindId := Category.all.flatMap registry.kindsFor

theorem numbers_eq_append (registry : Registry) :
    registry.numbers =
      (Category.all.flatMap fun category =>
        (registry.declared.filter (·.2 = category)).map (·.1)) ++
      (registry.comments ++ registry.statementComments) := by
  simp [numbers, kindsFor, Category.all]

theorem count_numbers (registry : Registry) (id : KindId) :
    registry.numbers.count id =
      (registry.declared.map (·.1)).count id + registry.comments.count id +
        registry.statementComments.count id := by
  rw [numbers_eq_append, List.count_append, List.count_append, count_claims, Nat.add_assoc]

section Built

variable {grammar : Grammar} {table : Table}

theorem count_declared (id : KindId) :
    ((build grammar table).declared.map (·.1)).count id =
      if (build grammar table).isDeclaration id then 1 else 0 := by
  have distinct : ((build grammar table).declared.map (·.1)).Nodup := nodup_firstClaims _ _
  rw [distinct.count]
  simp only [mem_map_declared_iff]

theorem count_statementComments (id : KindId) :
    (build grammar table).statementComments.count id =
      if (build grammar table).isStatementComment id then 1 else 0 := by
  have distinct : (build grammar table).statementComments.Nodup := nodup_firstIds _ _
  rw [distinct.count]
  simp only [isStatementComment, List.contains_iff_mem]

/-- Of the numbers of the names for comments those of declarations are left out. -/
theorem count_comments (id : KindId) :
    (build grammar table).comments.count id =
      if (build grammar table).isDeclaration id then 0
      else (table.comments.flatMap grammar.idsOf).count id := by
  cases declared : (build grammar table).isDeclaration id with
  | true =>
      rw [if_pos rfl, List.count_eq_zero]
      intro member
      have comment : (build grammar table).isComment id = true := List.contains_iff_mem.mpr member
      exact ne_true_of_eq_false (isDeclaration_of_isComment comment) declared
  | false =>
      have free : id ∉ (build grammar table).declared.map (·.1) := by
        rw [mem_map_declared_iff, declared]
        exact Bool.false_ne_true
      rw [if_neg Bool.false_ne_true]
      apply List.count_filter
      rw [Bool.not_eq_true', ← Bool.not_eq_true, List.contains_iff_mem]
      exact free

end Built

end Registry

instance (table : Table) (name : String) : Decidable (table.Declares name) :=
  inferInstanceAs (Decidable (∃ entry ∈ table.declarations, entry.2 = name))

/-- How often a number with this name is listed: as often as the comments have the name, where no
declaration has it, and otherwise once if the table has it at all. -/
def Table.timesListed (table : Table) (name : String) : Nat :=
  if table.Declares name then 1
  else if name ∈ table.comments then table.comments.count name
  else if name ∈ table.statementComments then 1
  else 0

/-- Only what is a comment proper can be listed twice. -/
theorem Table.timesListed_le_one_iff (table : Table) (name : String) :
    table.timesListed name ≤ 1 ↔ table.Declares name ∨ table.comments.count name ≤ 1 := by
  unfold timesListed
  by_cases declared : table.Declares name
  · simp only [declared, ↓reduceIte, Nat.le_refl, true_or]
  · by_cases comment : name ∈ table.comments
    · simp only [declared, comment, ↓reduceIte, false_or]
    · have unlisted : table.comments.count name = 0 := List.count_eq_zero.mpr comment
      have once : (if name ∈ table.statementComments then 1 else 0) ≤ 1 := by split <;> omega
      simp only [declared, comment, ↓reduceIte, false_or, unlisted, Nat.zero_le, once]

namespace Registry

section Names

variable {grammar : Grammar} (distinct : (grammar.symbols.map (·.1)).Nodup) (table : Table)

include distinct

theorem count_numbers_build (id : KindId) :
    (build grammar table).numbers.count id = (grammar.nameOf? id).elim 0 table.timesListed := by
  have declared : (build grammar table).isDeclaration id = true ↔ _ :=
    isDeclaration_iff_name distinct table
  have statement : (build grammar table).isStatementComment id = true ↔ _ :=
    isStatementComment_iff_name distinct table
  rw [count_numbers, count_declared, count_comments, count_statementComments,
    Grammar.count_flatMap_idsOf distinct]
  cases shown : grammar.nameOf? id with
  | none =>
      simp only [shown, reduceCtorEq, false_and, exists_const, iff_false] at declared statement
      simp only [declared, statement, Bool.false_eq_true, ↓reduceIte, Option.elim_none]
  | some name =>
      simp only [shown, Option.some.injEq, exists_eq_left'] at declared statement
      simp only [declared, statement, Option.elim_some, Table.timesListed]
      by_cases declares : table.Declares name
      · simp only [declares, not_true_eq_false, false_and, ↓reduceIte]
      · by_cases comment : name ∈ table.comments
        · simp only [declares, comment, not_true_eq_false, false_and, and_false, ↓reduceIte,
            Nat.zero_add, Nat.add_zero]
        · have unlisted : table.comments.count name = 0 := List.count_eq_zero.mpr comment
          simp only [declares, comment, unlisted, not_false_eq_true, true_and, ↓reduceIte,
            Nat.zero_add]

/-- How often each number is listed over all categories. No number is listed twice exactly where, of
the names that the grammar has, only those of declarations stand twice among the comments. -/
theorem numbers_listed_once_iff :
    (∀ id, (build grammar table).numbers.count id =
      (grammar.nameOf? id).elim 0 table.timesListed) ∧
    ((build grammar table).numbers.Nodup ↔
      ∀ id name, grammar.nameOf? id = some name →
        table.Declares name ∨ table.comments.count name ≤ 1) := by
  refine ⟨count_numbers_build distinct table, ?_⟩
  rw [List.nodup_iff_count]
  simp only [count_numbers_build distinct table, ← Table.timesListed_le_one_iff]
  constructor
  · intro once id name shown
    have own := once id
    rwa [shown] at own
  · intro once id
    cases shown : grammar.nameOf? id with
    | none => exact Nat.zero_le 1
    | some name => exact once id name shown

end Names

/-- Names that stand twice in a table, as declarations or as both sorts of comments, do not list
their numbers twice. -/
theorem numbers_listed_once_iff_overlapping :
    (overlapping.1.symbols.map (·.1)).Nodup ∧
    (build overlapping.1 overlapping.2).numbers.Nodup ∧
    (build overlapping.1 overlapping.2).numbers.count 4 = 1 := by
  have distinct : (overlapping.1.symbols.map (·.1)).Nodup := by decide
  obtain ⟨times, once⟩ := numbers_listed_once_iff distinct overlapping.2
  refine ⟨distinct, once.mpr fun _ name _ => .inr ?_, (times 4).trans (by decide)⟩
  have comments : overlapping.2.comments.Nodup := by decide
  exact List.nodup_iff_count.mp comments name

def commentTwice : Table where
  language := "custom"
  declarations := []
  comments := ["comment", "comment"]
  statementComments := []
  refined := []
  rule := none

/-- The number of comments in C# is then listed twice. -/
theorem numbers_repeat_comment :
    (build CSharp.grammar commentTwice).kindsFor .comment = [204, 204] ∧
    ¬(build CSharp.grammar commentTwice).numbers.Nodup := by
  decide +kernel

end Registry

end SyntaxSpans
