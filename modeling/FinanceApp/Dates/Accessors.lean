import FinanceApp.Lib.Months
import Mathlib.Data.List.Pairwise
import Mathlib.Data.Rat.Floor
import Mathlib.Tactic.Linarith

/-!
# The past by name

The `Date` extension names past dates. Each is counted from the noon of the day, so how it
stands to the date itself depends on the time of day. Three and four days ago are the same
as two days ago.
-/

namespace FinanceApp

/-- Seconds since the reference date, the start of 2001 in GMT. -/
abbrev Date := ℚ

namespace Calendar

inductive Component where
  | hour
  | day
  | month
  | year
  deriving DecidableEq, Repr

end Calendar

/-- The Gregorian calendar in a time zone of a fixed offset. -/
structure Calendar where
  secondsFromGMT : ℚ

namespace Calendar

def referenceDay : ℤ := Gregorian.months.first (12 * 2001)

variable (current : Calendar)

def startOfDay (day : ℤ) : Date := (day - referenceDay) * 86400 - current.secondsFromGMT

def dayOf (date : Date) : ℤ := ⌊(date + current.secondsFromGMT) / 86400⌋ + referenceDay

def timeOfDay (date : Date) : ℚ := date - current.startOfDay (current.dayOf date)

def bySettingHour (hour minute second : ℚ) (date : Date) : Date :=
  current.startOfDay (current.dayOf date) + (hour * 3600 + minute * 60 + second)

/-- Days, months and years keep the time of day. -/
def byAdding (component : Component) (value : ℤ) (date : Date) : Date :=
  let day := current.dayOf date
  let time := current.timeOfDay date
  match component with
  | .hour => date + value * 3600
  | .day => current.startOfDay (day + value) + time
  | .month => current.startOfDay (Gregorian.months.addMonths value day) + time
  | .year => current.startOfDay (Gregorian.months.addMonths (12 * value) day) + time

theorem timeOfDay_nonneg (date : Date) : 0 ≤ current.timeOfDay date := by
  have hle :=
    (le_div_iff₀ (by norm_num)).mp (Int.floor_le ((date + current.secondsFromGMT) / 86400))
  simp only [timeOfDay, startOfDay, dayOf, Int.cast_add]
  linarith

theorem timeOfDay_lt (date : Date) : current.timeOfDay date < 86400 := by
  have hlt := (div_lt_iff₀ (by norm_num)).mp
    (Int.lt_floor_add_one ((date + current.secondsFromGMT) / 86400))
  simp only [timeOfDay, startOfDay, dayOf, Int.cast_add]
  linarith

theorem startOfDay_dayOf_add (date : Date) :
    current.startOfDay (current.dayOf date) + current.timeOfDay date = date :=
  add_sub_cancel _ _

theorem dayOf_startOfDay_add (day : ℤ) {time : ℚ} (h : 0 ≤ time) (hlt : time < 86400) :
    current.dayOf (current.startOfDay day + time) = day := by
  have hfloor : ⌊(current.startOfDay day + time + current.secondsFromGMT) / 86400⌋ =
      day - referenceDay := by
    rw [Int.floor_eq_iff, le_div_iff₀ (by norm_num), div_lt_iff₀ (by norm_num), startOfDay]
    push_cast
    constructor <;> linarith
  rw [dayOf, hfloor, sub_add_cancel]

/-- The noon of a day. -/
def noonOf (day : ℤ) : Date := current.startOfDay day + 43200

theorem dayOf_noonOf (day : ℤ) : current.dayOf (current.noonOf day) = day :=
  current.dayOf_startOfDay_add day (by norm_num) (by norm_num)

theorem timeOfDay_noonOf (day : ℤ) : current.timeOfDay (current.noonOf day) = 43200 := by
  rw [timeOfDay, dayOf_noonOf, noonOf, add_sub_cancel_left]

theorem noonOf_add (day n : ℤ) : current.noonOf (day + n) = current.noonOf day + n * 86400 := by
  simp only [noonOf, startOfDay]
  push_cast
  ring

theorem noonOf_strictMono : StrictMono current.noonOf := by
  intro day day' h
  have hcast : (day : ℚ) < day' := by exact_mod_cast h
  simp only [noonOf, startOfDay]
  linarith

theorem noonOf_dayOf (date : Date) :
    current.noonOf (current.dayOf date) = date + (43200 - current.timeOfDay date) := by
  have hsplit := current.startOfDay_dayOf_add date
  rw [noonOf]
  linarith

@[simp] theorem byAdding_hour_noonOf (value day : ℤ) :
    current.byAdding .hour value (current.noonOf day) = current.noonOf day + value * 3600 := rfl

@[simp] theorem byAdding_day_noonOf (value day : ℤ) :
    current.byAdding .day value (current.noonOf day) = current.noonOf (day + value) := by
  rw [byAdding, dayOf_noonOf, timeOfDay_noonOf, noonOf]

@[simp] theorem byAdding_month_noonOf (value day : ℤ) :
    current.byAdding .month value (current.noonOf day) =
      current.noonOf (Gregorian.months.addMonths value day) := by
  rw [byAdding, dayOf_noonOf, timeOfDay_noonOf, noonOf]

@[simp] theorem byAdding_year_noonOf (value day : ℤ) :
    current.byAdding .year value (current.noonOf day) =
      current.noonOf (Gregorian.months.addMonths (12 * value) day) := by
  rw [byAdding, dayOf_noonOf, timeOfDay_noonOf, noonOf]

end Calendar

namespace Date

variable (current : Calendar) (self : Date)

def noon : Date := current.bySettingHour 12 0 0 self

def yesterday : Date := current.byAdding .day (-1) (noon current self)

def twoDaysAgo : Date := current.byAdding .day (-2) (noon current self)

-- Three and four days ago subtract two days as well.
def threeDaysAgo : Date := current.byAdding .day (-2) (noon current self)

def fourDaysAgo : Date := current.byAdding .day (-2) (noon current self)

def twoHoursAgo : Date := current.byAdding .hour (-2) (noon current self)

def fiveHoursAgo : Date := current.byAdding .hour (-5) (noon current self)

def oneYearAgo : Date := current.byAdding .month (-12) (noon current self)

def oneWeekAgo : Date := current.byAdding .day (-7) (noon current self)

def oneMonthAgo : Date := current.byAdding .month (-1) (noon current self)

def threeMonthsAgo : Date := current.byAdding .month (-3) (noon current self)

-- A hundred years are added.
def infiniteAgo : Date := current.byAdding .year 100 (noon current self)

theorem noon_eq : noon current self = current.noonOf (current.dayOf self) := by
  rw [noon, Calendar.bySettingHour, Calendar.noonOf]
  norm_num

/-- From the most recent one on. -/
def pastAccessors : List Date :=
  [twoHoursAgo current self, fiveHoursAgo current self, yesterday current self,
    twoDaysAgo current self, threeDaysAgo current self, fourDaysAgo current self,
    oneWeekAgo current self, oneMonthAgo current self, threeMonthsAgo current self,
    oneYearAgo current self]

structure PastAccessorsRight (current : Calendar) (now : Date) : Prop where
  past : ∀ date ∈ pastAccessors current now, date ≤ now
  sorted : (pastAccessors current now).Pairwise (· > ·)

theorem addMonths_lt (day : ℤ) :
    Gregorian.months.addMonths (-1) day + 28 ≤ day ∧
      Gregorian.months.addMonths (-3) day < Gregorian.months.addMonths (-1) day ∧
      Gregorian.months.addMonths (-12) day < Gregorian.months.addMonths (-3) day :=
  ⟨Gregorian.months.addMonths_neg_one_le day,
    Gregorian.months.addMonths_strictMono day (show (-3 : ℤ) < -1 by decide),
    Gregorian.months.addMonths_strictMono day (show (-12 : ℤ) < -3 by decide)⟩

/-- The days that the accessors from yesterday on name. -/
def pastDays (day : ℤ) : List ℤ :=
  [day - 1, day - 2, day - 2, day - 2, day - 7, Gregorian.months.addMonths (-1) day,
    Gregorian.months.addMonths (-3) day, Gregorian.months.addMonths (-12) day]

theorem pastAccessors_eq :
    pastAccessors current self =
      (current.noonOf (current.dayOf self) - 7200) ::
        (current.noonOf (current.dayOf self) - 18000) ::
        (pastDays (current.dayOf self)).map current.noonOf := by
  simp only [pastAccessors, twoHoursAgo, fiveHoursAgo, yesterday, twoDaysAgo, threeDaysAgo,
    fourDaysAgo, oneWeekAgo, oneMonthAgo, threeMonthsAgo, oneYearAgo, noon_eq, pastDays,
    Calendar.byAdding_hour_noonOf, Calendar.byAdding_day_noonOf, Calendar.byAdding_month_noonOf]
  norm_num [sub_eq_add_neg]

theorem pastDays_sorted (day : ℤ) : (pastDays day).Pairwise (· ≥ ·) := by
  obtain ⟨hone, hthree, htwelve⟩ := addMonths_lt day
  apply List.IsChain.pairwise
  simp only [pastDays, List.isChain_cons_cons, List.isChain_singleton, ge_iff_le, and_true]
  omega

theorem pastDays_le {day day' : ℤ} (h : day' ∈ pastDays day) : day' ≤ day - 1 := by
  rcases List.mem_cons.mp h with rfl | h
  · exact le_rfl
  · exact List.rel_of_pairwise_cons (pastDays_sorted day) h

theorem noonOf_pastDays_le {day' : ℤ} (h : day' ∈ pastDays (current.dayOf self)) :
    current.noonOf day' ≤ current.noonOf (current.dayOf self) - 86400 := by
  -- Noon yesterday is more than the 19 hours back that five hours before noon can be.
  have hmono := current.noonOf_strictMono.monotone (pastDays_le h)
  rw [sub_eq_add_neg, current.noonOf_add] at hmono
  push_cast at hmono
  linarith

/-- The accessors never grow in their order. -/
theorem pastAccessors_sorted : (pastAccessors current self).Pairwise (· ≥ ·) := by
  rw [pastAccessors_eq]
  have hpast : ∀ date ∈ (pastDays (current.dayOf self)).map current.noonOf,
      date ≤ current.noonOf (current.dayOf self) - 86400 := by
    intro date hdate
    obtain ⟨day', hday, rfl⟩ := List.mem_map.mp hdate
    exact noonOf_pastDays_le current self hday
  refine List.Pairwise.cons ?_ (List.Pairwise.cons ?_ ?_)
  · intro date hdate
    rcases List.mem_cons.mp hdate with rfl | hdate
    · linarith
    · linarith [hpast date hdate]
  · intro date hdate
    linarith [hpast date hdate]
  · rw [List.pairwise_map]
    exact (pastDays_sorted _).imp fun h => current.noonOf_strictMono.monotone h

/-- None of them is later than the date from ten in the morning on. -/
theorem pastAccessors_past_iff :
    (∀ date ∈ pastAccessors current self, date ≤ self) ↔ 36000 ≤ current.timeOfDay self := by
  have hfirst : twoHoursAgo current self = self + (36000 - current.timeOfDay self) := by
    rw [twoHoursAgo, noon_eq, Calendar.byAdding_hour_noonOf, Calendar.noonOf_dayOf]
    push_cast
    ring
  constructor
  · intro hpast
    have hle := hpast (twoHoursAgo current self) List.mem_cons_self
    linarith
  · intro hlate date hdate
    have hle : date ≤ twoHoursAgo current self := by
      rcases List.mem_cons.mp hdate with rfl | hdate
      · exact le_rfl
      · exact List.rel_of_pairwise_cons (pastAccessors_sorted current self) hdate
    linarith

theorem threeDaysAgo_eq : threeDaysAgo current self = twoDaysAgo current self := rfl

/-- **The accessors are right at no date: two and three days ago are one date.** -/
theorem past_accessors_never_right : ¬PastAccessorsRight current self := by
  intro hright
  have hlength : (pastAccessors current self).length = 10 := rfl
  have hsorted := List.pairwise_iff_getElem.mp hright.sorted 3 4 (by omega) (by omega) (by decide)
  have hgt : twoDaysAgo current self > threeDaysAgo current self := hsorted
  rw [threeDaysAgo_eq] at hgt
  exact lt_irrefl _ hgt

theorem two_hours_ago_is_ahead :
    ¬∀ (current : Calendar) (self : Date), PastAccessorsRight current self := by
  -- At midnight, two hours before noon are ten hours ahead.
  intro hall
  have hlate := (pastAccessors_past_iff ⟨0⟩ 0).mp (hall ⟨0⟩ 0).past
  rw [Calendar.timeOfDay, Calendar.startOfDay, Calendar.dayOf] at hlate
  norm_num at hlate

end Date

end FinanceApp
