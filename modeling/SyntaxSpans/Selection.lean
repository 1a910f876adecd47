import SyntaxSpans.Category
import SyntaxSpans.Log.Event
import SyntaxSpans.Text.Quoted

set_option autoImplicit false

namespace SyntaxSpans

/-- Names in ascending order, each once. -/
structure Selection where
  names : List String
  ascending : names.Pairwise (· < ·)
  deriving DecidableEq

namespace Selection

def insert (name : String) : List String → List String
  | [] => [name]
  | first :: rest =>
      if name = first then first :: rest
      else if name < first then name :: first :: rest
      else first :: insert name rest

theorem mem_insert (name other : String) (names : List String) :
    other ∈ insert name names ↔ other = name ∨ other ∈ names := by
  induction names with
  | nil => simp only [insert, List.mem_singleton, List.not_mem_nil, or_false]
  | cons first rest ih =>
      unfold insert
      split
      · rename_i same
        subst same
        simp only [List.mem_cons, ← or_assoc, or_self]
      · split
        · simp only [List.mem_cons]
        · simp only [List.mem_cons, ih]
          exact or_left_comm

theorem ascending_insert (name : String) {names : List String}
    (ascending : names.Pairwise (· < ·)) : (insert name names).Pairwise (· < ·) := by
  induction names with
  | nil => exact List.pairwise_singleton _ _
  | cons first rest ih =>
      obtain ⟨least, others⟩ := List.pairwise_cons.mp ascending
      unfold insert
      split
      · exact ascending
      · rename_i different
        split
        · rename_i below
          refine List.pairwise_cons.mpr ⟨fun other member => ?_, ascending⟩
          rcases List.mem_cons.mp member with rfl | later
          · exact below
          · exact String.lt_trans below (least other later)
        · rename_i above
          refine List.pairwise_cons.mpr ⟨fun other member => ?_, ih others⟩
          rcases (mem_insert name other rest).mp member with rfl | later
          · exact Std.lt_of_le_of_ne (String.not_lt.mp above) (Ne.symm different)
          · exact least other later

def ofNames (names : List String) : Selection where
  names := names.foldr insert []
  ascending := by
    induction names with
    | nil => exact List.Pairwise.nil
    | cons first rest ih => exact ascending_insert first ih

def contains (selection : Selection) (category : Category) : Bool :=
  selection.names.contains category.name

def unknown (selection : Selection) : List String :=
  selection.names.filter fun name => (Category.ofName? name).isNone

def events (selection : Selection) : List Log.Event :=
  if selection.unknown.isEmpty then []
  else
    [.debug .selection
      s!"Selection contains unknown categories: {Quoted.renderList selection.unknown}"]

theorem mem_ofNames (name : String) (names : List String) :
    name ∈ (ofNames names).names ↔ name ∈ names := by
  induction names with
  | nil => rfl
  | cons first rest ih =>
      simp only [ofNames, List.foldr_cons, mem_insert, List.mem_cons] at ih ⊢
      rw [ih]

theorem contains_ofNames (names : List String) (category : Category) :
    (ofNames names).contains category = names.contains category.name := by
  rw [Bool.eq_iff_iff]
  simp only [contains, List.contains_iff_mem, mem_ofNames]

end Selection

end SyntaxSpans
