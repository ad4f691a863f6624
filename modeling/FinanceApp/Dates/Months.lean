import FinanceApp.Dates.Accessors
import Mathlib.Data.List.Range

/-!
# Months and weekdays of a calendar

What the calendar says of the month of a date, and how many months lie between two dates.
-/

namespace Months

variable (months : Months)

theorem length_pos (k : ℤ) : 0 < months.length k := by
  have hlong := months.long k
  rw [length]
  omega

theorem flatMap_days (k : ℤ) (n : Nat) :
    ((List.range n).flatMap fun s =>
      (List.range (months.length (k + (s : Nat))).toNat).map
        fun j => months.first (k + (s : Nat)) + (j : Nat)) =
      (List.range (months.first (k + n) - months.first k).toNat).map
        fun j => months.first k + (j : Nat) := by
  induction n with
  | zero => simp
  | succ n ih =>
    have hmono : months.first k ≤ months.first (k + n) :=
      months.first_strictMono.monotone (by omega)
    have hlength := months.length_pos (k + n)
    have hsplit : (months.first (k + (n + 1 : Nat)) - months.first k).toNat =
        (months.first (k + n) - months.first k).toNat + (months.length (k + n)).toNat := by
      have hsucc : k + ((n + 1 : Nat) : ℤ) = k + n + 1 := by
        push_cast
        ring
      rw [hsucc]
      rw [length] at hlength ⊢
      omega
    rw [List.range_succ, List.flatMap_append, ih, hsplit, List.range_add, List.map_append,
      List.map_map, List.flatMap_singleton]
    congr 1
    apply List.map_congr_left
    intro j _
    simp only [Function.comp_apply]
    push_cast
    omega

end Months

namespace FinanceApp

namespace Calendar

variable (current : Calendar)

/-- The month and the year of a date, as one number. -/
def monthOf (date : Date) : ℤ := Gregorian.months.monthOf (current.dayOf date)

/-- The start of a day of a month. -/
def dateFrom (month day : ℤ) : Date :=
  current.startOfDay (Gregorian.months.first month + (day - 1))

/-- From Sunday, which is 1. -/
def weekday (date : Date) : ℤ := current.dayOf date % 7 + 1

def numberOfDaysInMonth (date : Date) : ℤ := Gregorian.months.length (current.monthOf date)

/-- The whole months from one date to another. -/
def months (fromDate toDate : Date) : ℤ :=
  let difference := current.monthOf toDate - current.monthOf fromDate
  if fromDate ≤ toDate then
    if current.byAdding .month difference fromDate ≤ toDate then difference else difference - 1
  else
    if toDate ≤ current.byAdding .month difference fromDate then difference else difference + 1

theorem dayOf_startOfDay (day : ℤ) : current.dayOf (current.startOfDay day) = day := by
  have hday := current.dayOf_startOfDay_add day le_rfl (by norm_num)
  rwa [add_zero] at hday

theorem timeOfDay_startOfDay (day : ℤ) : current.timeOfDay (current.startOfDay day) = 0 := by
  rw [timeOfDay, dayOf_startOfDay, sub_self]

theorem dayOf_byAdding_month (n : ℤ) (date : Date) :
    current.dayOf (current.byAdding .month n date) =
      Gregorian.months.addMonths n (current.dayOf date) :=
  current.dayOf_startOfDay_add _ (current.timeOfDay_nonneg date) (current.timeOfDay_lt date)

theorem monthOf_byAdding_month (n : ℤ) (date : Date) :
    current.monthOf (current.byAdding .month n date) = current.monthOf date + n := by
  rw [monthOf, dayOf_byAdding_month, Gregorian.months.monthOf_addMonths, monthOf]

@[simp] theorem byAdding_month_zero (date : Date) : current.byAdding .month 0 date = date := by
  rw [byAdding, Gregorian.months.addMonths_zero, startOfDay_dayOf_add]

theorem startOfDay_le {day : ℤ} {date : Date} (h : day ≤ current.dayOf date) :
    current.startOfDay day ≤ date := by
  have hcast : (day : ℚ) ≤ current.dayOf date := by exact_mod_cast h
  have htime := current.timeOfDay_nonneg date
  rw [timeOfDay] at htime
  simp only [startOfDay] at htime ⊢
  linarith

theorem lt_startOfDay {day : ℤ} {date : Date} (h : current.dayOf date < day) :
    date < current.startOfDay day := by
  have hcast : (current.dayOf date : ℚ) + 1 ≤ day := by exact_mod_cast h
  have htime := current.timeOfDay_lt date
  rw [timeOfDay] at htime
  simp only [startOfDay] at htime ⊢
  linarith

theorem lt_of_monthOf_lt {date date' : Date} (h : current.monthOf date < current.monthOf date') :
    date < date' :=
  (current.lt_startOfDay (Gregorian.months.lt_of_monthOf_lt h)).trans_le
    (current.startOfDay_le le_rfl)

theorem byAdding_month_strictMono (date : Date) :
    StrictMono fun n => current.byAdding .month n date := by
  intro n n' h
  apply current.lt_of_monthOf_lt
  rw [monthOf_byAdding_month, monthOf_byAdding_month]
  omega

theorem le_months_iff {fromDate toDate : Date} (h : fromDate ≤ toDate) (n : ℤ) :
    n ≤ current.months fromDate toDate ↔ current.byAdding .month n fromDate ≤ toDate := by
  have hmonth := current.monthOf_byAdding_month n fromDate
  rw [months, if_pos h]
  rcases lt_trichotomy n (current.monthOf toDate - current.monthOf fromDate) with hlt | rfl | hgt
  · have hle : current.byAdding .month n fromDate < toDate :=
      current.lt_of_monthOf_lt (by omega)
    refine iff_of_true ?_ hle.le
    split <;> omega
  · split
    next hle => exact iff_of_true le_rfl hle
    next hle => exact iff_of_false (by omega) hle
  · have hlate : toDate < current.byAdding .month n fromDate :=
      current.lt_of_monthOf_lt (by omega)
    refine iff_of_false ?_ (not_le.mpr hlate)
    split <;> omega

end Calendar

end FinanceApp
