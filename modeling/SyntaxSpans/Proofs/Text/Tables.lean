import SyntaxSpans.Text.Offsets

set_option autoImplicit false

namespace SyntaxSpans

section Bisection

variable {α : Type}

/-- Where the test holds on a first stretch only, bisection counts the items that pass it. -/
theorem bisect_eq_countP {test : α → Bool} {items : Array α} (parted : Partitioned test items) :
    bisect test items = items.toList.countP test := by
  have boundary := lt_bisect_iff test items parted
  have inside := bisect_le_size test items
  have passing : (items.toList.take (bisect test items)).countP test = bisect test items := by
    have all : ∀ item ∈ items.toList.take (bisect test items), test item = true := by
      intro item member
      obtain ⟨index, bound, rfl⟩ := List.mem_take_iff_getElem.mp member
      simp only [Array.length_toList] at bound
      exact (boundary index (by omega)).mp (by omega)
    rw [List.countP_eq_length.mpr all, List.length_take, Array.length_toList]
    omega
  have failing : (items.toList.drop (bisect test items)).countP test = 0 := by
    rw [List.countP_eq_zero]
    intro item member
    obtain ⟨index, bound, rfl⟩ := List.mem_drop_iff_getElem.mp member
    simp only [Array.length_toList] at bound
    intro holds
    have := (boundary (bisect test items + index) (by omega)).mpr (by simpa using holds)
    omega
  have split : items.toList.countP test =
      (items.toList.take (bisect test items)).countP test +
        (items.toList.drop (bisect test items)).countP test := by
    rw [← List.countP_append, List.take_append_drop]
  omega

/-- In a table that ascends, a test for small entries holds on a first stretch only. -/
theorem partitioned_of_ascending {table : List α} {below : α → α → Prop} {test : α → Bool}
    (ascending : table.Pairwise below)
    (closed : ∀ first second, below first second → test second = true → test first = true) :
    Partitioned test table.toArray := by
  intro i j inside before holds
  rcases Nat.lt_or_eq_of_le before with earlier | rfl
  · have ordered := List.pairwise_iff_getElem.mp ascending i j (by simp at inside; omega)
      (by simpa using inside) earlier
    exact closed _ _ ordered (by simpa using holds)
  · exact holds

end Bisection

theorem lt_of_mem_newlineEnds {text : List Char} {byte stop : Nat}
    (member : stop ∈ newlineEnds byte text) : byte < stop := by
  induction text generalizing byte with
  | nil => cases member
  | cons char rest ih =>
      have positive := char.utf8Size_pos
      unfold newlineEnds at member
      split at member
      · rcases List.mem_cons.mp member with rfl | later
        · omega
        · have := ih later
          omega
      · have := ih member
        omega

theorem newlineEnds_ascending (byte : Nat) (text : List Char) :
    (newlineEnds byte text).Pairwise (· < ·) := by
  induction text generalizing byte with
  | nil => exact List.Pairwise.nil
  | cons char rest ih =>
      unfold newlineEnds
      split
      · exact List.pairwise_cons.mpr ⟨fun _ later => lt_of_mem_newlineEnds later, ih _⟩
      · exact ih _

theorem lineStarts_ascending (text : List Char) :
    (0 :: newlineEnds 0 text).Pairwise (· < ·) :=
  List.pairwise_cons.mpr ⟨fun _ later => lt_of_mem_newlineEnds later, newlineEnds_ascending 0 text⟩

theorem le_of_mem_charStarts {text : List Char} {byte unit : Nat} {entry : Nat × Nat}
    (member : entry ∈ charStarts byte unit text) : byte ≤ entry.1 := by
  induction text generalizing byte unit with
  | nil => cases member
  | cons char rest ih =>
      rcases List.mem_cons.mp member with rfl | later
      · exact Nat.le_refl _
      · exact Nat.le_trans (Nat.le_add_right _ _) (ih later)

theorem charStarts_ascending (byte unit : Nat) (text : List Char) :
    (charStarts byte unit text).Pairwise fun first second => first.1 < second.1 := by
  induction text generalizing byte unit with
  | nil => exact List.Pairwise.nil
  | cons char rest ih =>
      refine List.pairwise_cons.mpr ⟨fun entry later => ?_, ih _ _⟩
      have behind := le_of_mem_charStarts later
      have positive := char.utf8Size_pos
      omega

theorem partitioned_charStarts (byte unit : Nat) (text : List Char) (stop : Nat) :
    Partitioned (fun entry : Nat × Nat => decide (entry.1 < stop))
      (charStarts byte unit text).toArray := by
  apply partitioned_of_ascending (charStarts_ascending byte unit text)
  intro first second earlier holds
  simp only [decide_eq_true_eq] at holds ⊢
  omega

end SyntaxSpans
