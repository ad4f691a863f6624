import Mathlib.Algebra.BigOperators.Group.Finset.Basic
import Mathlib.Algebra.Order.Ring.Int
import Mathlib.Data.Int.ConditionallyCompleteOrder
import Mathlib.Order.Monotone.Basic
import Mathlib.Tactic.Linarith
import Mathlib.Tactic.Ring

/-!
# Months of a calendar

Days and months are numbered by the integers. Months are added to a day by its place in
the month, and a day that the other month does not have becomes its last one.
-/

/-- The first day of each month. No month is shorter than 28 days. -/
structure Months where
  first : ℤ → ℤ
  long : ∀ k, first k + 28 ≤ first (k + 1)

namespace Months

variable (months : Months)

theorem first_add (k : ℤ) (n : Nat) : months.first k + 28 * n ≤ months.first (k + n) := by
  induction n with
  | zero => simp
  | succ n ih =>
    have hlong := months.long (k + n)
    have hsucc : k + ((n + 1 : Nat) : ℤ) = k + n + 1 := by
      push_cast
      ring
    rw [hsucc]
    push_cast
    linarith

theorem first_strictMono : StrictMono months.first :=
  strictMono_int_of_lt_succ fun k => by linarith [months.long k]

theorem le_of_first_le {k d : ℤ} (h : months.first k ≤ d) :
    k ≤ max 0 ((d - months.first 0) / 28) := by
  rcases le_or_gt k 0 with hk | hk
  · exact hk.trans (le_max_left _ _)
  · have hadd := months.first_add 0 k.toNat
    rw [zero_add, Int.toNat_of_nonneg hk.le] at hadd
    exact le_max_of_le_right (by omega)

theorem exists_first_le (d : ℤ) : ∃ k, months.first k ≤ d := by
  refine ⟨-((months.first 0 - d).toNat : ℤ), ?_⟩
  have hadd := months.first_add (-((months.first 0 - d).toNat : ℤ)) (months.first 0 - d).toNat
  rw [neg_add_cancel] at hadd
  have := Int.self_le_toNat (months.first 0 - d)
  linarith

/-- The last month that begins by the day. -/
def monthOf (d : ℤ) : ℤ :=
  (Int.greatestOfBdd (P := fun k => months.first k ≤ d) (max 0 ((d - months.first 0) / 28))
    (fun _ => months.le_of_first_le) (months.exists_first_le d)).1

theorem first_monthOf_le (d : ℤ) : months.first (months.monthOf d) ≤ d :=
  (Int.greatestOfBdd _ _ (months.exists_first_le d)).2.1

theorem lt_first_monthOf_succ (d : ℤ) : d < months.first (months.monthOf d + 1) := by
  by_contra hle
  have hgreatest := (Int.greatestOfBdd _ (fun _ => months.le_of_first_le)
    (months.exists_first_le d)).2.2 _ (not_lt.mp hle)
  exact absurd hgreatest (not_le.mpr (lt_add_one _))

theorem monthOf_eq {d k : ℤ} (hle : months.first k ≤ d) (hlt : d < months.first (k + 1)) :
    months.monthOf d = k := by
  have hupper := months.first_strictMono.lt_iff_lt.mp ((months.first_monthOf_le d).trans_lt hlt)
  have hlower :=
    months.first_strictMono.lt_iff_lt.mp (hle.trans_lt (months.lt_first_monthOf_succ d))
  omega

def length (k : ℤ) : ℤ := months.first (k + 1) - months.first k

/-- From zero. -/
def dayOfMonth (d : ℤ) : ℤ := d - months.first (months.monthOf d)

def addMonths (n d : ℤ) : ℤ :=
  let k := months.monthOf d + n
  months.first k + min (months.dayOfMonth d) (months.length k - 1)

theorem monthOf_addMonths (n d : ℤ) :
    months.monthOf (months.addMonths n d) = months.monthOf d + n := by
  have hfirst := months.first_monthOf_le d
  have hlong := months.long (months.monthOf d + n)
  apply months.monthOf_eq <;> simp only [addMonths, dayOfMonth, length]
  · omega
  · omega

@[simp] theorem addMonths_zero (d : ℤ) : months.addMonths 0 d = d := by
  have hlt := months.lt_first_monthOf_succ d
  simp only [addMonths, dayOfMonth, length, add_zero]
  omega

theorem lt_of_monthOf_lt {d d' : ℤ} (h : months.monthOf d < months.monthOf d') : d < d' :=
  calc d < months.first (months.monthOf d + 1) := months.lt_first_monthOf_succ d
    _ ≤ months.first (months.monthOf d') := months.first_strictMono.monotone h
    _ ≤ d' := months.first_monthOf_le d'

theorem addMonths_strictMono (d : ℤ) : StrictMono fun n => months.addMonths n d := by
  intro n n' h
  apply months.lt_of_monthOf_lt
  rw [monthOf_addMonths, monthOf_addMonths]
  omega

theorem addMonths_neg_one_le (d : ℤ) : months.addMonths (-1) d + 28 ≤ d := by
  -- The month before is at least four weeks back, also where the day is clamped.
  have hlong := months.long (months.monthOf d + -1)
  rw [neg_add_cancel_right] at hlong
  simp only [addMonths, dayOfMonth, length, neg_add_cancel_right]
  omega

end Months

/-! ## The Gregorian calendar -/

namespace Gregorian

def isLeap (year : ℤ) : Prop := 4 ∣ year ∧ ¬100 ∣ year ∨ 400 ∣ year

instance (year : ℤ) : Decidable (isLeap year) := inferInstanceAs (Decidable (_ ∨ _))

/-- January is month 0. -/
def daysInMonth (year : ℤ) : Nat → ℤ
  | 1 => if isLeap year then 29 else 28
  | 3 | 5 | 8 | 10 => 30
  | _ => 31

def daysBeforeYear (year : ℤ) : ℤ :=
  365 * year + (year - 1) / 4 - (year - 1) / 100 + (year - 1) / 400

theorem daysBeforeYear_succ (year : ℤ) :
    daysBeforeYear (year + 1) =
      daysBeforeYear year + ∑ m ∈ Finset.range 12, daysInMonth year m := by
  simp only [Finset.sum_range_succ, Finset.sum_range_zero, daysInMonth, daysBeforeYear, isLeap]
  split_ifs <;> omega

theorem daysInMonth_ge (year : ℤ) (month : Nat) : 28 ≤ daysInMonth year month := by
  unfold daysInMonth
  split
  · split <;> decide
  all_goals decide

/-- Months are numbered from January of year 0. -/
def first (k : ℤ) : ℤ :=
  daysBeforeYear (k / 12) + ∑ m ∈ Finset.range (k % 12).toNat, daysInMonth (k / 12) m

theorem first_succ (k : ℤ) : first (k + 1) = first k + daysInMonth (k / 12) (k % 12).toNat := by
  unfold first
  rcases lt_or_ge (k % 12) 11 with hlt | hge
  · have hyear : (k + 1) / 12 = k / 12 := by omega
    have hmonth : ((k + 1) % 12).toNat = (k % 12).toNat + 1 := by omega
    rw [hyear, hmonth, Finset.sum_range_succ, add_assoc]
  · -- After December comes another year.
    have hyear : (k + 1) / 12 = k / 12 + 1 := by omega
    have hmonth : ((k + 1) % 12).toNat = 0 := by omega
    have hdecember : (k % 12).toNat = 11 := by omega
    rw [hyear, hmonth, hdecember, daysBeforeYear_succ, Finset.sum_range_zero, add_zero,
      Finset.sum_range_succ, add_assoc]

def months : Months where
  first := first
  long k := by
    rw [first_succ]
    linarith [daysInMonth_ge (k / 12) (k % 12).toNat]

example : months.addMonths (-1) (months.first (12 * 2024 + 2) + 30) =
    months.first (12 * 2024 + 1) + 28 := by
  rw [Months.addMonths, Months.dayOfMonth, months.monthOf_eq (k := 12 * 2024 + 2)]
  all_goals decide +kernel

end Gregorian
