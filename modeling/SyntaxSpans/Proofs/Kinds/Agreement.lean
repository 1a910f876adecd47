import SyntaxSpans.Proofs.Kinds.Claims
import SyntaxSpans.Proofs.Kinds.Separation

set_option autoImplicit false

namespace SyntaxSpans

/-- Where every key stands once, looking up finds exactly the entries. -/
theorem lookup_eq_some_iff_mem {α β : Type} [BEq α] [LawfulBEq α] {entries : List (α × β)}
    (distinct : (entries.map (·.1)).Nodup) {key : α} {value : β} :
    entries.lookup key = some value ↔ (key, value) ∈ entries := by
  induction entries with
  | nil => simp only [List.lookup_nil, reduceCtorEq, List.not_mem_nil]
  | cons first rest ih =>
      obtain ⟨other, found⟩ := first
      rw [List.map_cons, List.nodup_cons] at distinct
      rw [List.lookup_cons, List.mem_cons, Prod.mk.injEq]
      cases same : key == other with
      | true =>
          rw [beq_iff_eq] at same
          subst same
          have once : (key, value) ∉ rest := fun later =>
            distinct.1 (List.mem_map_of_mem (f := (·.1)) later)
          simp only [Option.some.injEq, true_and, once, or_false, eq_comm]
      | false =>
          have different : key ≠ other := ne_of_beq_false same
          simp only [different, false_and, false_or]
          exact ih distinct.2

theorem mem_firstIds_iff {taken ids : List KindId} {id : KindId} :
    id ∈ firstIds taken ids ↔ id ∈ ids ∧ id ∉ taken := by
  refine ⟨mem_of_mem_firstIds, ?_⟩
  rintro ⟨among, free⟩
  induction ids generalizing taken with
  | nil => cases among
  | cons first rest ih =>
      unfold firstIds
      split
      · rename_i claimed
        rcases List.mem_cons.mp among with rfl | later
        · exact absurd (by simpa using claimed) free
        · exact ih later free
      · -- From here on the first number is taken as well.
        by_cases same : id = first
        · rw [same]
          exact List.mem_cons_self
        · refine List.mem_cons_of_mem _ (ih ((List.mem_cons.mp among).resolve_left same) ?_)
          exact fun member => (List.mem_cons.mp member).elim same free

theorem mem_map_firstClaims {taken : List KindId} {claims : List Claim} {id : KindId}
    (member : id ∈ (firstClaims taken claims).map (·.1)) : id ∉ taken := by
  induction claims generalizing taken with
  | nil => cases member
  | cons claim rest ih =>
      unfold firstClaims at member
      split at member
      · exact ih member
      · rename_i fresh
        rw [List.map_cons] at member
        rcases List.mem_cons.mp member with rfl | later
        · simpa using fresh
        · exact fun before => ih later (List.mem_cons_of_mem _ before)

theorem nodup_firstClaims (taken : List KindId) (claims : List Claim) :
    ((firstClaims taken claims).map (·.1)).Nodup := by
  induction claims generalizing taken with
  | nil => exact List.nodup_nil
  | cons claim rest ih =>
      unfold firstClaims
      split
      · exact ih taken
      · rw [List.map_cons, List.nodup_cons]
        exact ⟨fun later => mem_map_firstClaims later List.mem_cons_self, ih _⟩

namespace Registry

section Sorts

variable {grammar : Grammar} {table : Table} {kind : KindId}

theorem isDeclaration_eq (registry : Registry) (kind : KindId) :
    registry.isDeclaration kind = (registry.declared.lookup kind).isSome := by
  rw [Bool.eq_iff_iff, isDeclaration_iff, Option.isSome_iff_exists]

theorem mem_map_declared_iff (registry : Registry) (kind : KindId) :
    kind ∈ registry.declared.map (·.1) ↔ registry.isDeclaration kind = true := by
  simp only [isDeclaration, List.mem_map, List.any_eq_true, beq_iff_eq]

/-- A comment is a number of one of the names for comments that no declaration has. -/
theorem isComment_build_iff :
    (build grammar table).isComment kind = true ↔
      (∃ name ∈ table.comments, kind ∈ grammar.idsOf name) ∧
        (build grammar table).isDeclaration kind = false := by
  rw [isComment, List.contains_iff_mem, ← Bool.not_eq_true, ← mem_map_declared_iff]
  simp only [build, List.mem_filter, List.mem_flatMap, Bool.not_eq_true', List.contains_eq_mem,
    decide_eq_false_iff_not]

/-- A statement comment is a number of one of the names for them that is neither a declaration nor
a comment. -/
theorem isStatementComment_build_iff :
    (build grammar table).isStatementComment kind = true ↔
      (∃ name ∈ table.statementComments, kind ∈ grammar.idsOf name) ∧
        (build grammar table).isDeclaration kind = false ∧
          (build grammar table).isComment kind = false := by
  rw [isStatementComment, List.contains_iff_mem, ← Bool.not_eq_true, ← mem_map_declared_iff,
    ← Bool.not_eq_true, isComment, List.contains_iff_mem, ← not_or, ← List.mem_append,
    ← List.mem_flatMap]
  exact mem_firstIds_iff

theorem isDeclaration_of_isComment (comment : (build grammar table).isComment kind = true) :
    (build grammar table).isDeclaration kind = false :=
  (isComment_build_iff.mp comment).2

theorem isDeclaration_of_isStatementComment
    (comment : (build grammar table).isStatementComment kind = true) :
    (build grammar table).isDeclaration kind = false :=
  (isStatementComment_build_iff.mp comment).2.1

theorem isComment_of_isStatementComment
    (comment : (build grammar table).isStatementComment kind = true) :
    (build grammar table).isComment kind = false :=
  (isStatementComment_build_iff.mp comment).2.2

/-- A number has the category it is claimed for, and that of comments if it is one of the two sorts
of them. -/
theorem categoryOf?_eq_some_iff (category : Category) :
    (build grammar table).categoryOf? kind = some category ↔
      (build grammar table).declared.lookup kind = some category ∨
        category = .comment ∧ ((build grammar table).isComment kind = true ∨
          (build grammar table).isStatementComment kind = true) := by
  unfold categoryOf?
  cases claimed : (build grammar table).declared.lookup kind with
  | some first =>
      have declared : (build grammar table).isDeclaration kind = true := by
        rw [isDeclaration_eq, claimed, Option.isSome_some]
      have noComment : ¬((build grammar table).isComment kind = true ∨
          (build grammar table).isStatementComment kind = true) := by
        rintro (comment | comment)
        · exact ne_true_of_eq_false (isDeclaration_of_isComment comment) declared
        · exact ne_true_of_eq_false (isDeclaration_of_isStatementComment comment) declared
      simp only [noComment, and_false, or_false]
  | none =>
      simp only [reduceCtorEq, false_or, Option.ite_none_right_eq_some, Bool.or_eq_true,
        Option.some.injEq]
      rw [and_comm, @eq_comm _ category]

/-- The numbers listed for a category are those that have it. -/
theorem mem_kindsFor_iff (category : Category) :
    kind ∈ (build grammar table).kindsFor category ↔
      (build grammar table).categoryOf? kind = some category := by
  have distinct : ((build grammar table).declared.map (·.1)).Nodup := nodup_firstClaims _ _
  rw [categoryOf?_eq_some_iff, kindsFor, List.mem_append, lookup_eq_some_iff_mem distinct]
  refine or_congr ?_ ?_
  · simp only [List.mem_map, List.mem_filter, decide_eq_true_eq]
    constructor
    · rintro ⟨claim, ⟨claimed, rfl⟩, rfl⟩
      exact claimed
    · intro claimed
      exact ⟨_, ⟨claimed, rfl⟩, rfl⟩
  · split
    · rename_i comment
      simp only [comment, true_and, List.mem_append, isComment, isStatementComment,
        List.contains_iff_mem]
    · rename_i other
      simp only [List.not_mem_nil, other, false_and]

theorem isSome_categoryOf? :
    ((build grammar table).categoryOf? kind).isSome =
      ((build grammar table).isDeclaration kind || (build grammar table).isComment kind ||
        (build grammar table).isStatementComment kind) := by
  rw [isDeclaration_eq, Bool.or_assoc]
  unfold categoryOf?
  cases (build grammar table).declared.lookup kind with
  | some first => rfl
  | none =>
      dsimp only
      cases (build grammar table).isComment kind ||
        (build grammar table).isStatementComment kind with
      | true => rfl
      | false => rfl

end Sorts

end Registry

/-- The name under which a grammar shows a number. -/
def Grammar.nameOf? (grammar : Grammar) (id : KindId) : Option String :=
  grammar.symbols.lookup id

/-- The table has a declaration with this name. -/
def Table.Declares (table : Table) (name : String) : Prop :=
  ∃ entry ∈ table.declarations, entry.2 = name

/-- The category that a table has for a name: that of the first declaration with it, and without
one that of comments if the name is among them. -/
def Table.categoryOfName? (table : Table) (name : String) : Option Category :=
  match table.declarations.find? fun entry => name == entry.2 with
  | some entry => some entry.1
  | none =>
      if name ∈ table.comments ∨ name ∈ table.statementComments then some .comment else none

theorem Table.not_declares_iff (table : Table) (name : String) :
    ¬table.Declares name ↔ table.declarations.find? fun entry => name == entry.2 = none := by
  simp only [Declares, List.find?_eq_none, beq_iff_eq, not_exists, not_and, @eq_comm _ name]

section Names

variable {grammar : Grammar} (distinct : (grammar.symbols.map (·.1)).Nodup) (table : Table)
  {id : KindId}

include distinct

theorem Grammar.mem_idsOf_iff (name : String) :
    id ∈ grammar.idsOf name ↔ grammar.nameOf? id = some name := by
  rw [mem_idsOf, nameOf?, lookup_eq_some_iff_mem distinct]

theorem Grammar.exists_mem_idsOf_iff (names : List String) :
    (∃ name ∈ names, id ∈ grammar.idsOf name) ↔
      ∃ name, grammar.nameOf? id = some name ∧ name ∈ names := by
  simp only [mem_idsOf_iff distinct, and_comm]

namespace Registry

theorem isDeclaration_iff_name :
    (build grammar table).isDeclaration id = true ↔
      ∃ name, grammar.nameOf? id = some name ∧ table.Declares name := by
  rw [isDeclaration_eq, lookup_declared, Option.isSome_map, List.find?_isSome]
  simp only [List.contains_iff_mem, Grammar.mem_idsOf_iff distinct]
  constructor
  · rintro ⟨entry, listed, shown⟩
    exact ⟨entry.2, shown, entry, listed, rfl⟩
  · rintro ⟨name, shown, entry, listed, rfl⟩
    exact ⟨entry, listed, shown⟩

theorem isComment_iff_name :
    (build grammar table).isComment id = true ↔
      ∃ name, grammar.nameOf? id = some name ∧ ¬table.Declares name ∧ name ∈ table.comments := by
  rw [isComment_build_iff, Grammar.exists_mem_idsOf_iff distinct, ← Bool.not_eq_true,
    isDeclaration_iff_name distinct]
  cases grammar.nameOf? id with
  | none => simp only [reduceCtorEq, false_and, exists_const]
  | some name => simp only [Option.some.injEq, exists_eq_left', and_comm]

theorem isStatementComment_iff_name :
    (build grammar table).isStatementComment id = true ↔
      ∃ name, grammar.nameOf? id = some name ∧ ¬table.Declares name ∧ name ∉ table.comments ∧
        name ∈ table.statementComments := by
  rw [isStatementComment_build_iff, Grammar.exists_mem_idsOf_iff distinct, ← Bool.not_eq_true,
    ← Bool.not_eq_true, isDeclaration_iff_name distinct, isComment_iff_name distinct]
  cases grammar.nameOf? id with
  | none => simp only [reduceCtorEq, false_and, exists_const]
  | some name =>
      simp only [Option.some.injEq, exists_eq_left', not_and]
      constructor
      · rintro ⟨listed, undeclared, other⟩
        exact ⟨undeclared, other undeclared, listed⟩
      · rintro ⟨undeclared, other, listed⟩
        exact ⟨listed, undeclared, fun _ => other⟩

theorem lookup_declared_of_nameOf? {name : String} (shown : grammar.nameOf? id = some name) :
    (build grammar table).declared.lookup id =
      (table.declarations.find? fun entry => name == entry.2).map (·.1) := by
  apply lookup_declared_of_name
  intro entry _
  rw [Grammar.mem_idsOf_iff distinct, shown, Option.some.injEq]

theorem categoryOf?_of_nameOf? {name : String} (shown : grammar.nameOf? id = some name) :
    (build grammar table).categoryOf? id = table.categoryOfName? name := by
  unfold categoryOf? Table.categoryOfName?
  rw [lookup_declared_of_nameOf? distinct table shown]
  cases first : table.declarations.find? fun entry => name == entry.2 with
  | some entry => rfl
  | none =>
      have undeclared : ¬table.Declares name := (table.not_declares_iff name).mpr first
      have either : ((build grammar table).isComment id ||
          (build grammar table).isStatementComment id) = true ↔
          name ∈ table.comments ∨ name ∈ table.statementComments := by
        rw [Bool.or_eq_true, isComment_iff_name distinct, isStatementComment_iff_name distinct,
          shown]
        simp only [Option.some.injEq, exists_eq_left', undeclared, not_false_eq_true, true_and]
        by_cases listed : name ∈ table.comments
        · simp only [listed, true_or]
        · simp only [listed, not_false_eq_true, true_and]
      simp only [Option.map_none, either]

/-- A number has the category of its name. -/
theorem categoryOf?_eq_bind :
    (build grammar table).categoryOf? id = (grammar.nameOf? id).bind table.categoryOfName? := by
  cases shown : grammar.nameOf? id with
  | some name => exact categoryOf?_of_nameOf? distinct table shown
  | none =>
      rw [Option.bind_none, ← Option.not_isSome_iff_eq_none, isSome_categoryOf?, Bool.or_eq_true,
        Bool.or_eq_true, isDeclaration_iff_name distinct, isComment_iff_name distinct,
        isStatementComment_iff_name distinct, shown]
      simp only [reduceCtorEq, false_and, exists_const, or_self, not_false_eq_true]

/-- The registry of a table, read forward and backward. A number has the category of the first
declaration with its name, else that of comments if its name is one of theirs, and no category
otherwise or without a name. It is listed for that category and for no other. It is a declaration by
its name, else a comment, else a statement comment; it is at most one of the three, and one of them
exactly if it has a category. -/
theorem build_agrees (id : KindId) :
    (build grammar table).categoryOf? id = (grammar.nameOf? id).bind table.categoryOfName? ∧
    (∀ category, id ∈ (build grammar table).kindsFor category ↔
      (build grammar table).categoryOf? id = some category) ∧
    ((build grammar table).isDeclaration id = true ↔
      ∃ name, grammar.nameOf? id = some name ∧ table.Declares name) ∧
    ((build grammar table).isComment id = true ↔
      ∃ name, grammar.nameOf? id = some name ∧ ¬table.Declares name ∧ name ∈ table.comments) ∧
    ((build grammar table).isStatementComment id = true ↔
      ∃ name, grammar.nameOf? id = some name ∧ ¬table.Declares name ∧ name ∉ table.comments ∧
        name ∈ table.statementComments) ∧
    ¬((build grammar table).isDeclaration id = true ∧ (build grammar table).isComment id = true) ∧
    ¬((build grammar table).isDeclaration id = true ∧
      (build grammar table).isStatementComment id = true) ∧
    ¬((build grammar table).isComment id = true ∧
      (build grammar table).isStatementComment id = true) ∧
    ((build grammar table).categoryOf? id).isSome =
      ((build grammar table).isDeclaration id || (build grammar table).isComment id ||
        (build grammar table).isStatementComment id) := by
  refine ⟨categoryOf?_eq_bind distinct table, mem_kindsFor_iff,
    isDeclaration_iff_name distinct table, isComment_iff_name distinct table,
    isStatementComment_iff_name distinct table, ?_, ?_, ?_, isSome_categoryOf?⟩
  · rintro ⟨declared, comment⟩
    exact ne_true_of_eq_false (isDeclaration_of_isComment comment) declared
  · rintro ⟨declared, statement⟩
    exact ne_true_of_eq_false (isDeclaration_of_isStatementComment statement) declared
  · rintro ⟨comment, statement⟩
    exact ne_true_of_eq_false (isComment_of_isStatementComment statement) comment

end Registry

end Names

namespace Registry

/-- Two numbers that share a name, and names that are listed more than once. -/
def overlapping : Grammar × Table :=
  (⟨[(1, "class"), (2, "class"), (3, "note"), (4, "text"), (5, "line")]⟩,
    { language := "overlapping"
      declarations := [(.classDef, "class"), (.function, "class"), (.field, "note")]
      comments := ["note", "text"]
      statementComments := ["text", "line"]
      refined := []
      rule := none })

/-- The second entry for a class gets nothing, and what is listed as both sorts of comments is one
proper. -/
theorem build_agrees_overlapping :
    (overlapping.1.symbols.map (·.1)).Nodup ∧
    (build overlapping.1 overlapping.2).categoryOf? 2 = some .classDef ∧
    2 ∈ (build overlapping.1 overlapping.2).kindsFor .classDef ∧
    2 ∉ (build overlapping.1 overlapping.2).kindsFor .function ∧
    (build overlapping.1 overlapping.2).isComment 4 = true ∧
    ¬(build overlapping.1 overlapping.2).isStatementComment 4 = true := by
  have distinct : (overlapping.1.symbols.map (·.1)).Nodup := by decide
  obtain ⟨category, listed, -⟩ := build_agrees distinct overlapping.2 2
  obtain ⟨-, -, -, proper, -, -, -, apart, -⟩ := build_agrees distinct overlapping.2 4
  have first : (build overlapping.1 overlapping.2).categoryOf? 2 = some .classDef :=
    category.trans (by decide)
  have undeclared : ¬overlapping.2.Declares "text" :=
    (overlapping.2.not_declares_iff "text").mpr (by decide)
  have comment : (build overlapping.1 overlapping.2).isComment 4 = true :=
    proper.mpr ⟨"text", by decide, undeclared, by decide⟩
  refine ⟨distinct, first, (listed .classDef).mpr first, fun member => ?_, comment,
    fun statement => apart ⟨comment, statement⟩⟩
  have second := (listed .function).mp member
  rw [first] at second
  cases second

end Registry

end SyntaxSpans
