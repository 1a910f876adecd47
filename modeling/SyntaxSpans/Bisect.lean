set_option autoImplicit false

namespace SyntaxSpans

variable {α : Type}

/-- The boundary between `low` and `high`, where the test holds before `low` and not from `high`. -/
def bisectBetween (test : α → Bool) (items : Array α) (low high : Nat)
    (bound : high ≤ items.size) : Nat :=
  if ordered : low < high then
    have inside : low + (high - low) / 2 < items.size := by omega
    if test items[low + (high - low) / 2] then
      bisectBetween test items (low + (high - low) / 2 + 1) high bound
    else
      bisectBetween test items low (low + (high - low) / 2) (by omega)
  else low
termination_by high - low

/-- How many items come before the first that fails the test. -/
def bisect (test : α → Bool) (items : Array α) : Nat :=
  bisectBetween test items 0 items.size (Nat.le_refl _)

/-- The test holds on a first stretch only: it never holds after it has failed. -/
def Partitioned (test : α → Bool) (items : Array α) : Prop :=
  ∀ i j, (inside : j < items.size) → (before : i ≤ j) →
    test items[j] = true → test items[i] = true

theorem bisectBetween_le (test : α → Bool) (items : Array α) (low high : Nat)
    (bound : high ≤ items.size) (ordered : low ≤ high) :
    bisectBetween test items low high bound ≤ high := by
  fun_induction bisectBetween test items low high bound with
  | case1 low high bound smaller inside holds ih => exact ih (by omega)
  | case2 low high bound smaller inside fails ih => exact Nat.le_trans (ih (by omega)) (by omega)
  | case3 low high bound stop => omega

/-- Bisection keeps both halves of the partition: the test holds before the boundary and fails from
it on. -/
theorem bisectBetween_iff (test : α → Bool) (items : Array α) (low high : Nat)
    (bound : high ≤ items.size) (ordered : low ≤ high) (parted : Partitioned test items)
    (below : ∀ i, (inside : i < items.size) → i < low → test items[i] = true)
    (above : ∀ i, (inside : i < items.size) → high ≤ i → test items[i] = false)
    (index : Nat) (inside : index < items.size) :
    test items[index] = true ↔ index < bisectBetween test items low high bound := by
  fun_induction bisectBetween test items low high bound with
  | case1 low high bound smaller middle holds ih =>
      refine ih (by omega) (fun i within before => ?_) above
      exact parted i _ middle (by omega) holds
  | case2 low high bound smaller middle fails ih =>
      refine ih (by omega) below (fun i within after => ?_)
      cases value : test items[i] with
      | false => rfl
      | true => exact absurd (parted _ i within after value) fails
  | case3 low high bound stop =>
      constructor
      · intro holds
        rcases Nat.lt_or_ge index low with before | after
        · exact before
        · rw [above index inside (by omega)] at holds
          cases holds
      · exact below index inside

theorem bisect_le_size (test : α → Bool) (items : Array α) : bisect test items ≤ items.size :=
  bisectBetween_le test items 0 items.size (Nat.le_refl _) (Nat.zero_le _)

theorem lt_bisect_iff (test : α → Bool) (items : Array α) (parted : Partitioned test items)
    (index : Nat) (inside : index < items.size) :
    index < bisect test items ↔ test items[index] = true :=
  (bisectBetween_iff test items 0 items.size (Nat.le_refl _) (Nat.zero_le _) parted
    (fun _ _ before => absurd before (Nat.not_lt_zero _))
    (fun _ within after => absurd within (Nat.not_lt.mpr after)) index inside).symm

end SyntaxSpans
