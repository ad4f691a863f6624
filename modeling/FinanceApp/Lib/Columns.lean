import Mathlib.Algebra.Order.BigOperators.Group.Finset
import Mathlib.Algebra.Order.Field.Basic
import Mathlib.Tactic.Linarith

/-!
# Items dealt out to columns in turn

Item `i` goes to column `i % n`, below the items that went there before it. The columns
have one width and stand in one gap from each other and from both sides.
-/

namespace Columns

/-! ## Down a column -/

section Stacks

variable {M : Type*} [AddCommMonoid M]

/-- How far down column `c` is filled once the first `k` items are dealt. -/
def top (n : Nat) (h : Nat → M) (c k : Nat) : M :=
  ∑ i ∈ (Finset.range k).filter (fun i => i % n = c), h i

variable (n : Nat) (h : Nat → M)

@[simp] theorem top_zero (c : Nat) : top n h c 0 = 0 := by simp [top]

theorem top_succ_self (k : Nat) : top n h (k % n) (k + 1) = top n h (k % n) k + h k := by
  rw [top, Finset.range_add_one, Finset.filter_insert, if_pos rfl,
    Finset.sum_insert (by simp), add_comm]
  rfl

theorem top_succ_other {c k : Nat} (hne : k % n ≠ c) : top n h c (k + 1) = top n h c k := by
  rw [top, Finset.range_add_one, Finset.filter_insert, if_neg hne]
  rfl

theorem top_next {i j : Nat} (hlt : i < j) (hsame : j % n = i % n)
    (hnext : ∀ l, i < l → l < j → l % n ≠ i % n) :
    top n h (j % n) j = top n h (i % n) i + h i := by
  -- Nothing is dealt to the column between `i` and `j`, so `j` comes right below `i`.
  have hkept : ∀ l, i + 1 ≤ l → l ≤ j → top n h (i % n) l = top n h (i % n) (i + 1) := by
    intro l hil
    induction l, hil using Nat.le_induction with
    | base => intro _; rfl
    | succ l hil ih =>
      intro hlj
      rw [top_succ_other n h (hnext l hil hlj), ih (by omega)]
  rw [hsame, hkept j hlt le_rfl, top_succ_self]

variable [PartialOrder M] [IsOrderedAddMonoid M] {n h}

theorem top_mono {c j k : Nat} (hh : ∀ i, i < k → 0 ≤ h i) (hjk : j ≤ k) :
    top n h c j ≤ top n h c k := by
  apply Finset.sum_le_sum_of_subset_of_nonneg
  · exact Finset.filter_subset_filter _ (Finset.range_mono hjk)
  · intro i hi _
    exact hh i (Finset.mem_range.mp (Finset.mem_filter.mp hi).1)

theorem top_nonneg {c k : Nat} (hh : ∀ i, i < k → 0 ≤ h i) : 0 ≤ top n h c k := by
  rw [← top_zero n h c]
  exact top_mono hh (Nat.zero_le k)

theorem top_add_le {i j : Nat} (hh : ∀ l, l < j → 0 ≤ h l) (hlt : i < j)
    (hsame : j % n = i % n) : top n h (i % n) i + h i ≤ top n h (j % n) j := by
  rw [← top_succ_self, hsame]
  exact top_mono hh hlt

end Stacks

/-! ## Across the columns -/

section Widths

variable {K : Type*} [Field K] [LinearOrder K] [IsStrictOrderedRing K]

/-- Where column `c` begins. Column `n` would begin where `n` columns and their gaps end. -/
def left (width gap : K) (c : Nat) : K := c * width + (c + 1) * gap

variable {width gap : K}

theorem left_nonneg (hwidth : 0 ≤ width) (hgap : 0 ≤ gap) (c : Nat) : 0 ≤ left width gap c :=
  add_nonneg (mul_nonneg c.cast_nonneg hwidth) (mul_nonneg c.cast_add_one_pos.le hgap)

theorem left_add_width_add_gap_le {c d : Nat} (hwidth : 0 ≤ width) (hgap : 0 ≤ gap)
    (hlt : c < d) : left width gap c + width + gap ≤ left width gap d := by
  have hcast : (c : K) + 1 ≤ d := by exact_mod_cast hlt
  have hw := mul_le_mul_of_nonneg_right hcast hwidth
  have hg := mul_le_mul_of_nonneg_right hcast hgap
  simp only [left]
  linarith

theorem left_injective (hwidth : 0 < width) (hgap : 0 ≤ gap) :
    Function.Injective (left width gap) := by
  refine (strictMono_nat_of_lt_succ fun c => ?_).injective
  have hnext := left_add_width_add_gap_le hwidth.le hgap (Nat.lt_succ_self c)
  linarith

end Widths

end Columns
