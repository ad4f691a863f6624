import Mathlib.Algebra.Order.Floor.Semifield
import Mathlib.Algebra.Order.Round
import Mathlib.Tactic.FieldSimp
import Mathlib.Tactic.Positivity

/-!
# Rounding to the nearest integer

Halves are rounded away from zero. Above zero that is Mathlib's `round`, and of a quotient
of naturals by an even number it is a quotient of naturals again.
-/

namespace Rounding

variable {K : Type*} [Field K] [LinearOrder K] [IsStrictOrderedRing K] [FloorRing K]

/-- Half away from zero. -/
def rounded (x : K) : ℤ := if 0 ≤ x then round x else -round (-x)

variable {x y : K}

omit [IsStrictOrderedRing K] in
theorem rounded_of_nonneg (h : 0 ≤ x) : rounded x = round x := if_pos h

theorem abs_sub_rounded (x : K) : |x - rounded x| ≤ 1 / 2 := by
  unfold rounded
  split
  · exact abs_sub_round x
  · have hneg := abs_sub_round (-x)
    rw [← abs_neg] at hneg
    push_cast
    rwa [neg_sub, sub_neg_eq_add, add_comm, ← sub_neg_eq_add] at hneg

theorem rounded_nonneg (h : 0 ≤ x) : 0 ≤ rounded x := by
  rw [rounded_of_nonneg h, round_eq]
  exact Int.floor_nonneg.mpr (by positivity)

theorem rounded_mono_of_nonneg (hx : 0 ≤ x) (hxy : x ≤ y) : rounded x ≤ rounded y := by
  rw [rounded_of_nonneg hx, rounded_of_nonneg (hx.trans hxy), round_eq, round_eq]
  exact Int.floor_mono (by linarith)

theorem rounded_lt_iff (hx : 0 ≤ x) {n : ℤ} : rounded x < n ↔ x < n - 1 / 2 := by
  rw [rounded_of_nonneg hx, round_eq, Int.floor_lt]
  exact ⟨fun h => by linarith, fun h => by linarith⟩

theorem rounded_div (a k : ℕ) {d : K} (hk : 0 < k) (hd : d = 2 * k) :
    rounded (((a : ℤ) : K) / d) = ((a + k) / (2 * k) : ℕ) := by
  have hpos : (0 : K) < k := by exact_mod_cast hk
  have hsum : ((a : ℤ) : K) / d + 1 / 2 = ((a + k : ℕ) : K) / (2 * k : ℕ) := by
    subst hd
    push_cast
    field_simp
  have hnonneg : 0 ≤ ((a : ℤ) : K) / d := by
    subst hd
    positivity
  rw [rounded_of_nonneg hnonneg, round_eq, hsum,
    ← Int.natCast_floor_eq_floor (by positivity), Nat.floor_div_eq_div]

end Rounding
