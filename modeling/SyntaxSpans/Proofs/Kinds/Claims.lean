import Mathlib.Data.List.Find
import SyntaxSpans.Kinds.Registry

set_option autoImplicit false

namespace SyntaxSpans

/-- Dropping later claims to a number does not change who claimed it first. -/
theorem lookup_firstClaims {taken : List KindId} {claims : List Claim} {id : KindId}
    (free : taken.contains id = false) :
    (firstClaims taken claims).lookup id = claims.lookup id := by
  induction claims generalizing taken with
  | nil => rfl
  | cons claim rest ih =>
      obtain ⟨other, category⟩ := claim
      unfold firstClaims
      split
      · rename_i claimed
        have different : (id == other) = false := by
          apply beq_false_of_ne
          rintro rfl
          rw [free] at claimed
          cases claimed
        rw [ih free, List.lookup_cons, different]
      · rw [List.lookup_cons, List.lookup_cons]
        cases same : id == other with
        | true => rfl
        | false =>
            have still : (other :: taken).contains id = false := by
              rw [List.contains_cons, same, free, Bool.or_self]
            exact ih still

theorem lookup_claims (ids : List KindId) (category : Category) (id : KindId) :
    (ids.map fun other => (other, category)).lookup id =
      if ids.contains id then some category else none := by
  induction ids with
  | nil => rfl
  | cons first rest ih =>
      rw [List.map_cons, List.lookup_cons, List.contains_cons]
      cases id == first with
      | true => rfl
      | false => rw [ih, Bool.false_or]

/-- A number belongs to the first entry of the table under whose name the grammar has it. -/
theorem Registry.lookup_declared (grammar : Grammar) (table : Table) (id : KindId) :
    (build grammar table).declared.lookup id =
      (table.declarations.find? fun entry => (grammar.idsOf entry.2).contains id).map (·.1) := by
  unfold build
  dsimp only
  rw [lookup_firstClaims rfl]
  induction table.declarations with
  | nil => rfl
  | cons entry rest ih =>
      rw [List.flatMap_cons, List.lookup_append, lookup_claims, List.find?_cons]
      cases (grammar.idsOf entry.2).contains id with
      | true => rfl
      | false => exact ih

theorem Registry.lookup_declared_of_name {grammar : Grammar} {table : Table} {id : KindId}
    {name : String}
    (told : ∀ entry ∈ table.declarations, id ∈ grammar.idsOf entry.2 ↔ name = entry.2) :
    (build grammar table).declared.lookup id =
      (table.declarations.find? fun entry => name == entry.2).map (·.1) := by
  rw [lookup_declared]
  congr 1
  apply List.find?_congr
  intro entry listed
  rw [Bool.eq_iff_iff, List.contains_iff_mem, beq_iff_eq]
  exact told entry listed

/-- The number of a label is one that the grammar has for a declaration of the table exactly if the
label has the name of it. -/
def Table.Fits (table : Table) (grammar : Grammar) (label : Label) : Prop :=
  ∀ entry ∈ table.declarations, label.kind ∈ grammar.idsOf entry.2 ↔ label.name = entry.2

instance (table : Table) (grammar : Grammar) (label : Label) :
    Decidable (table.Fits grammar label) :=
  inferInstanceAs (Decidable (∀ entry ∈ table.declarations, _))

/-- Where numbers and names agree, the name of a label tells whose its number is. -/
theorem Table.Fits.lookup_declared {table : Table} {grammar : Grammar} {label : Label}
    (fits : table.Fits grammar label) :
    (Registry.build grammar table).declared.lookup label.kind =
      (table.declarations.find? fun entry => label.name == entry.2).map (·.1) :=
  Registry.lookup_declared_of_name fits

end SyntaxSpans
