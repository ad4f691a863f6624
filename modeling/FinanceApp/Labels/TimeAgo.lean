import FinanceApp.Lib.Decimals
import FinanceApp.Lib.Rounding
import Mathlib.Data.Rat.Floor

/-!
# How long ago

`timeAgoString` rounds an interval to ever larger units. It takes 60 hours for a day, so
the labels are right up to a day, where they fall back to "0 days ago".
-/

open Decimals Rounding

namespace FinanceApp

/-- The argument is the interval since the date, over exact numbers. -/
def timeAgoString (timeInterval : ℚ) : String :=
  let secondsInterval := rounded timeInterval
  if secondsInterval < 10 then "now"
  else if secondsInterval < 60 then toString secondsInterval ++ " seconds ago"
  else
    let minutes := rounded ((secondsInterval : ℚ) / 60)
    if minutes < 60 then toString minutes ++ " minutes ago"
    else
      let hours := rounded ((minutes : ℚ) / 60)
      if hours < 24 then toString hours ++ " hours ago"
      else
        let days := rounded ((hours : ℚ) / 60)
        if days < 30 then
          if days = 1 then "one day ago" else toString days ++ " days ago"
        else
          let months := rounded ((days : ℚ) / 30)
          if months < 12 then toString months ++ " months ago"
          else
            let years := rounded ((months : ℚ) / 12)
            toString years ++ " years ago"

/-! ## What a label says -/

inductive TimeUnit where
  | second
  | minute
  | hour
  | day
  | month
  | year
  deriving DecidableEq, Repr

namespace TimeUnit

def all : List TimeUnit := [second, minute, hour, day, month, year]

def seconds : TimeUnit → Nat
  | second => 1
  | minute => 60
  | hour => 60 * 60
  | day => 24 * 60 * 60
  | month => 30 * 24 * 60 * 60
  | year => 12 * 30 * 24 * 60 * 60

def suffix : TimeUnit → String
  | second => " seconds ago"
  | minute => " minutes ago"
  | hour => " hours ago"
  | day => " days ago"
  | month => " months ago"
  | year => " years ago"

end TimeUnit

/-- A number of units. -/
abbrev Ago := Nat × TimeUnit

def Ago.seconds (ago : Ago) : Nat := ago.1 * ago.2.seconds

def readLabel (label : String) : Option Ago :=
  if label = "one day ago" then some (1, .day)
  else
    let digits := label.toList.takeWhile Char.isDigit
    let rest := label.toList.dropWhile Char.isDigit
    if digits = [] then none
    else
      (TimeUnit.all.find? fun unit => rest = unit.suffix.toList).map fun unit =>
        (natural digits, unit)

def Ago.label (ago : Ago) : String :=
  if ago = (1, .day) then "one day ago" else toString ago.1 ++ ago.2.suffix

theorem readLabel_number (n : Nat) (unit : TimeUnit) :
    readLabel (toString n ++ unit.suffix) = some (n, unit) := by
  have hdigits : ∀ c ∈ Nat.toDigits 10 n, c.isDigit = true := fun _ => isDigit_of_mem_toDigits
  have hchars : (toString n ++ unit.suffix).toList = Nat.toDigits 10 n ++ unit.suffix.toList := by
    rw [String.toList_append]
    simp
  have htake : (toString n ++ unit.suffix).toList.takeWhile Char.isDigit = Nat.toDigits 10 n := by
    rw [hchars, List.takeWhile_append_of_pos hdigits]
    cases unit <;> simp [TimeUnit.suffix]
  have hdrop : (toString n ++ unit.suffix).toList.dropWhile Char.isDigit = unit.suffix.toList := by
    rw [hchars, List.dropWhile_append_of_pos hdigits]
    cases unit <;> simp [TimeUnit.suffix]
  have hnotWord : toString n ++ unit.suffix ≠ "one day ago" := by
    intro heq
    rw [heq] at htake
    exact Nat.toDigits_ne_nil htake.symm
  simp only [readLabel, if_neg hnotWord, htake, hdrop, if_neg Nat.toDigits_ne_nil, natural_toDigits]
  cases unit <;> rfl

theorem readLabel_label (ago : Ago) : readLabel ago.label = some ago := by
  unfold Ago.label
  split
  · next hday =>
    rw [hday]
    rfl
  · exact readLabel_number _ _

/-! ## The roundings -/

def minutesAgo (seconds : Nat) : Nat := (seconds + 30) / 60

def hoursAgo (seconds : Nat) : Nat := (minutesAgo seconds + 30) / 60

def daysAgo (seconds : Nat) : Nat := (hoursAgo seconds + 30) / 60

def monthsAgo (seconds : Nat) : Nat := (daysAgo seconds + 15) / 30

def yearsAgo (seconds : Nat) : Nat := (monthsAgo seconds + 6) / 12

/-- The number and the unit of the label, by the rounded seconds. -/
def timeAgo (seconds : Nat) : Ago :=
  if seconds < 60 then (seconds, .second)
  else if minutesAgo seconds < 60 then (minutesAgo seconds, .minute)
  else if hoursAgo seconds < 24 then (hoursAgo seconds, .hour)
  else if daysAgo seconds < 30 then (daysAgo seconds, .day)
  else if monthsAgo seconds < 12 then (monthsAgo seconds, .month)
  else (yearsAgo seconds, .year)

theorem rounded_div_sixty (a : Nat) : rounded (((a : Int) : ℚ) / 60) = ((a + 30) / 60 : Nat) :=
  rounded_div a 30 (by decide) (by norm_num)

theorem rounded_div_thirty (a : Nat) : rounded (((a : Int) : ℚ) / 30) = ((a + 15) / 30 : Nat) :=
  rounded_div a 15 (by decide) (by norm_num)

theorem rounded_div_twelve (a : Nat) : rounded (((a : Int) : ℚ) / 12) = ((a + 6) / 12 : Nat) :=
  rounded_div a 6 (by decide) (by norm_num)

theorem label_of_ne (n : Nat) (unit : TimeUnit) (h : n = 1 → unit ≠ .day) :
    Ago.label (n, unit) = toString n ++ unit.suffix := by
  refine if_neg fun heq => ?_
  obtain ⟨hone, hday⟩ := Prod.mk.inj heq
  exact h hone hday

theorem toString_natCast (n : Nat) : toString (n : Int) = toString n := by
  rw [Int.toString_eq_repr, Int.repr_eq_if, if_pos (Int.natCast_nonneg n), Int.toNat_natCast]
  rfl

theorem timeAgoString_eq {timeInterval : ℚ} {seconds : Nat}
    (hseconds : rounded timeInterval = seconds) (hlong : 10 ≤ seconds) :
    timeAgoString timeInterval = (timeAgo seconds).label := by
  simp only [timeAgoString, hseconds, rounded_div_sixty, rounded_div_thirty, rounded_div_twelve,
    toString_natCast]
  change (if (seconds : Int) < 10 then _ else if (seconds : Int) < 60 then _
    else if (minutesAgo seconds : Int) < 60 then _ else if (hoursAgo seconds : Int) < 24 then _
    else if (daysAgo seconds : Int) < 30 then (if (daysAgo seconds : Int) = 1 then _ else _)
    else if (monthsAgo seconds : Int) < 12 then _ else _) = _
  simp only [Nat.cast_lt_ofNat, Nat.cast_eq_one]
  rw [if_neg (by omega), timeAgo]
  split_ifs
  · exact (label_of_ne seconds .second (by simp)).symm
  · exact (label_of_ne (minutesAgo seconds) .minute (by simp)).symm
  · exact (label_of_ne (hoursAgo seconds) .hour (by simp)).symm
  · next hone =>
    rw [hone]
    rfl
  · next hmore => exact (label_of_ne (daysAgo seconds) .day fun hone => absurd hone hmore).symm
  · exact (label_of_ne (monthsAgo seconds) .month (by simp)).symm
  · exact (label_of_ne (yearsAgo seconds) .year (by simp)).symm

/-! ## Where the labels are right -/

/-- What the label denotes is at most one unit off, and not nothing. -/
def LabelAccurate (timeInterval : ℚ) : Prop :=
  ∃ ago : Ago, readLabel (timeAgoString timeInterval) = some ago ∧ 1 ≤ ago.1 ∧
    |(ago.seconds : ℚ) - timeInterval| ≤ ago.2.seconds

/-- The labels of two intervals, the shorter one first. -/
structure LabelsRight (shorter longer : ℚ) : Prop where
  accurate : LabelAccurate shorter ∧ LabelAccurate longer
  grows : ∀ ago ago' : Ago, readLabel (timeAgoString shorter) = some ago →
    readLabel (timeAgoString longer) = some ago' → ago.seconds ≤ ago'.seconds

/-- Less than 24 hours in rounded minutes and hours, or at least 30 such hours and no more
than two days. -/
def LabelledRight (timeInterval : ℚ) : Prop :=
  timeInterval < 169139 / 2 ∨ 212339 / 2 ≤ timeInterval ∧ timeInterval ≤ 172800

section Amounts

variable {seconds : Nat}

theorem timeAgo_of_early (h : seconds < 84570) :
    timeAgo seconds = if seconds < 60 then (seconds, .second)
      else if minutesAgo seconds < 60 then (minutesAgo seconds, .minute)
      else (hoursAgo seconds, .hour) := by
  have hhours : hoursAgo seconds < 24 := by
    unfold hoursAgo minutesAgo
    omega
  rw [timeAgo, if_pos hhours]

theorem timeAgo_of_late (h : 84570 ≤ seconds) :
    timeAgo seconds = if daysAgo seconds < 30 then (daysAgo seconds, .day)
      else if monthsAgo seconds < 12 then (monthsAgo seconds, .month)
      else (yearsAgo seconds, .year) := by
  have hhours : ¬hoursAgo seconds < 24 := by
    unfold hoursAgo minutesAgo
    omega
  have hminutes : ¬minutesAgo seconds < 60 := by
    unfold minutesAgo
    omega
  rw [timeAgo, if_neg (by omega), if_neg hminutes, if_neg hhours]

theorem timeAgo_early (hlong : 10 ≤ seconds) (h : seconds < 84570) :
    1 ≤ (timeAgo seconds).1 ∧
      (timeAgo seconds).seconds + 1 ≤ seconds + (timeAgo seconds).2.seconds ∧
      seconds + 1 ≤ (timeAgo seconds).seconds + (timeAgo seconds).2.seconds := by
  rw [timeAgo_of_early h]
  split_ifs
  all_goals simp only [Ago.seconds, TimeUnit.seconds, hoursAgo, minutesAgo] at *
  all_goals omega

theorem timeAgo_early_mono {shorter : Nat} (hle : shorter ≤ seconds) (h : seconds < 84570) :
    (timeAgo shorter).seconds ≤ (timeAgo seconds).seconds := by
  rw [timeAgo_of_early h, timeAgo_of_early (by omega)]
  split_ifs
  all_goals simp only [Ago.seconds, TimeUnit.seconds, hoursAgo, minutesAgo] at *
  all_goals omega

theorem timeAgo_early_le_day (h : seconds < 84570) : (timeAgo seconds).seconds ≤ 86400 := by
  rw [timeAgo_of_early h]
  split_ifs
  all_goals simp only [Ago.seconds, TimeUnit.seconds, hoursAgo, minutesAgo] at *
  all_goals omega

theorem timeAgo_zero_days (h : 84570 ≤ seconds) (hlt : seconds < 106170) :
    timeAgo seconds = (0, .day) := by
  have hdays : daysAgo seconds = 0 := by
    unfold daysAgo hoursAgo minutesAgo
    omega
  rw [timeAgo_of_late h, hdays]
  rfl

theorem timeAgo_one_day (h : 106170 ≤ seconds) (hle : seconds ≤ 172800) :
    timeAgo seconds = (1, .day) := by
  have hdays : daysAgo seconds = 1 := by
    unfold daysAgo hoursAgo minutesAgo
    omega
  rw [timeAgo_of_late (by omega), hdays]
  rfl

theorem timeAgo_lags (h : 172800 ≤ seconds) :
    timeAgo seconds = (1, .day) ∨
      (timeAgo seconds).seconds + (timeAgo seconds).2.seconds + 1 ≤ seconds := by
  -- From two days on, the label lags behind by more than its unit.
  rw [timeAgo_of_late (by omega)]
  split_ifs
  · by_cases hone : daysAgo seconds = 1
    · exact .inl (by rw [hone])
    · right
      simp only [Ago.seconds, TimeUnit.seconds]
      unfold daysAgo hoursAgo minutesAgo at *
      omega
  · right
    simp only [Ago.seconds, TimeUnit.seconds]
    unfold monthsAgo daysAgo hoursAgo minutesAgo at *
    omega
  · right
    simp only [Ago.seconds, TimeUnit.seconds]
    unfold yearsAgo monthsAgo daysAgo hoursAgo minutesAgo at *
    omega

end Amounts

/-- The rounded seconds of an interval, which say its label. -/
structure Rounds (timeInterval : ℚ) (seconds : Nat) : Prop where
  long : 10 ≤ seconds
  ge : (seconds : ℚ) - 1 / 2 ≤ timeInterval
  le : timeInterval ≤ seconds + 1 / 2
  lt_iff : ∀ n : Nat, seconds < n ↔ timeInterval < n - 1 / 2
  label : readLabel (timeAgoString timeInterval) = some (timeAgo seconds)

theorem exists_rounds {timeInterval : ℚ} (h : 10 ≤ timeInterval) :
    ∃ seconds : Nat, rounded timeInterval = seconds ∧ Rounds timeInterval seconds := by
  have hnonneg : 0 ≤ timeInterval := by linarith
  obtain ⟨seconds, hseconds⟩ := Int.eq_ofNat_of_zero_le (rounded_nonneg hnonneg)
  have hlt : ∀ n : Nat, seconds < n ↔ timeInterval < n - 1 / 2 := by
    intro n
    have hiff := rounded_lt_iff hnonneg (n := n)
    rw [hseconds] at hiff
    exact_mod_cast hiff
  have hlong : 10 ≤ seconds := by
    by_contra hshort
    have := (hlt 10).mp (by omega)
    push_cast at this
    linarith
  have hdist := abs_le.mp (abs_sub_rounded timeInterval)
  rw [hseconds] at hdist
  push_cast at hdist
  refine ⟨seconds, hseconds, hlong, by linarith, by linarith, hlt, ?_⟩
  rw [timeAgoString_eq hseconds hlong, readLabel_label]

section Intervals

variable {timeInterval : ℚ} {seconds : Nat} (h : Rounds timeInterval seconds)
include h

theorem Rounds.labelAccurate_iff :
    LabelAccurate timeInterval ↔ 1 ≤ (timeAgo seconds).1 ∧
      |((timeAgo seconds).seconds : ℚ) - timeInterval| ≤ (timeAgo seconds).2.seconds := by
  simp only [LabelAccurate, h.label, Option.some.injEq, exists_eq_left']

theorem Rounds.early_iff : seconds < 84570 ↔ timeInterval < 169139 / 2 := by
  have hiff := h.lt_iff 84570
  norm_num at hiff
  exact hiff

theorem Rounds.early_half_iff : seconds < 106170 ↔ timeInterval < 212339 / 2 := by
  have hiff := h.lt_iff 106170
  norm_num at hiff
  exact hiff

theorem Rounds.seconds_le (hle : timeInterval ≤ 172800) : seconds ≤ 172800 := by
  have := h.ge
  have hlt : (seconds : ℚ) < 172801 := by linarith
  exact Nat.lt_succ_iff.mp (by exact_mod_cast hlt)

theorem Rounds.accurate_of_early (hearly : seconds < 84570) : LabelAccurate timeInterval := by
  obtain ⟨hone, hle, hge⟩ := timeAgo_early h.long hearly
  have hle : ((timeAgo seconds).seconds : ℚ) + 1 ≤ seconds + (timeAgo seconds).2.seconds := by
    exact_mod_cast hle
  have hge : (seconds : ℚ) + 1 ≤ (timeAgo seconds).seconds + (timeAgo seconds).2.seconds := by
    exact_mod_cast hge
  have := h.ge
  have := h.le
  exact h.labelAccurate_iff.mpr ⟨hone, abs_le.mpr ⟨by linarith, by linarith⟩⟩

theorem Rounds.accurate_of_day (hday : timeAgo seconds = (1, .day)) :
    LabelAccurate timeInterval ↔ 0 ≤ timeInterval ∧ timeInterval ≤ 172800 := by
  have hone : ((Ago.seconds (1, .day) : Nat) : ℚ) = 86400 := rfl
  have hunit : ((TimeUnit.day.seconds : Nat) : ℚ) = 86400 := rfl
  rw [h.labelAccurate_iff, hday, hone, hunit, abs_le]
  constructor
  · rintro ⟨_, hge, hle⟩
    exact ⟨by linarith, by linarith⟩
  · rintro ⟨hge, hle⟩
    exact ⟨le_rfl, by linarith, by linarith⟩

theorem Rounds.not_accurate_of_long (hlong : 172800 < timeInterval) :
    ¬LabelAccurate timeInterval := by
  have hseconds : 172800 ≤ seconds := by
    have := h.le
    have hlt : (172799 : ℚ) < seconds := by linarith
    exact_mod_cast hlt
  rcases timeAgo_lags hseconds with hday | hlags
  · rw [h.accurate_of_day hday]
    exact fun hle => absurd hle.2 (not_le.mpr hlong)
  · rw [h.labelAccurate_iff]
    rintro ⟨_, hclose⟩
    have hlags : ((timeAgo seconds).seconds : ℚ) + (timeAgo seconds).2.seconds + 1 ≤ seconds := by
      exact_mod_cast hlags
    have := (abs_le.mp hclose).1
    have := h.ge
    linarith

theorem Rounds.labelAccurate_iff_labelledRight :
    LabelAccurate timeInterval ↔ LabelledRight timeInterval := by
  unfold LabelledRight
  rcases Nat.lt_or_ge seconds 84570 with hearly | hlate
  · exact iff_of_true (h.accurate_of_early hearly) (.inl (h.early_iff.mp hearly))
  · have hlate' := mt h.early_iff.mpr (by omega)
    rcases Nat.lt_or_ge seconds 106170 with hzero | hday
    · have hzero' := h.early_half_iff.mp hzero
      have hlabel : ¬LabelAccurate timeInterval := by
        rw [h.labelAccurate_iff, timeAgo_zero_days hlate hzero]
        simp
      exact iff_of_false hlabel (by rintro (hlt | ⟨hge, _⟩) <;> linarith)
    · have hday' := mt h.early_half_iff.mpr (by omega)
      rcases le_or_gt timeInterval 172800 with hle | hlong
      · rw [h.accurate_of_day (timeAgo_one_day hday (h.seconds_le hle))]
        exact iff_of_true ⟨by linarith, hle⟩ (.inr ⟨by linarith, hle⟩)
      · exact iff_of_false (h.not_accurate_of_long hlong)
          (by rintro (hlt | ⟨_, hle⟩) <;> linarith)

theorem Rounds.day_of_labelledRight (hright : LabelledRight timeInterval)
    (hlate : 84570 ≤ seconds) : timeAgo seconds = (1, .day) := by
  have hlate' := mt h.early_iff.mpr (by omega)
  obtain ⟨hday, hle⟩ := hright.resolve_left hlate'
  have hday' := mt h.early_half_iff.mp (not_lt.mpr hday)
  exact timeAgo_one_day (by omega) (h.seconds_le hle)

end Intervals

theorem timeAgo_mono {shorter longer : ℚ} {s s' : Nat} (h : Rounds shorter s)
    (h' : Rounds longer s') (hright : LabelledRight shorter) (hright' : LabelledRight longer)
    (hle : s ≤ s') : (timeAgo s).seconds ≤ (timeAgo s').seconds := by
  rcases Nat.lt_or_ge s' 84570 with hearly' | hlate'
  · exact timeAgo_early_mono hle hearly'
  · rw [h'.day_of_labelledRight hright' hlate']
    rcases Nat.lt_or_ge s 84570 with hearly | hlate
    · exact timeAgo_early_le_day hearly
    · rw [h.day_of_labelledRight hright hlate]

/-- **Labels of intervals of ten seconds or more are right below 24 hours, in rounded minutes
and hours, and where "one day ago" is at most a day off; nowhere else.** -/
theorem labels_right_iff {shorter longer : ℚ} (hlong : 10 ≤ shorter) (hle : shorter ≤ longer) :
    LabelsRight shorter longer ↔ LabelledRight shorter ∧ LabelledRight longer := by
  obtain ⟨s, hs, h⟩ := exists_rounds hlong
  obtain ⟨s', hs', h'⟩ := exists_rounds (hlong.trans hle)
  rw [← h.labelAccurate_iff_labelledRight, ← h'.labelAccurate_iff_labelledRight]
  refine ⟨LabelsRight.accurate, fun haccurate => ⟨haccurate, ?_⟩⟩
  intro ago ago' hread hread'
  rw [h.label, Option.some.injEq] at hread
  rw [h'.label, Option.some.injEq] at hread'
  subst hread hread'
  have hrounded := rounded_mono_of_nonneg (by linarith : (0 : ℚ) ≤ shorter) hle
  rw [hs, hs'] at hrounded
  exact timeAgo_mono h h' (h.labelAccurate_iff_labelledRight.mp haccurate.1)
    (h'.labelAccurate_iff_labelledRight.mp haccurate.2) (by exact_mod_cast hrounded)

theorem labels_right_iff_minutes : LabelsRight 90 129600 :=
  (labels_right_iff (by norm_num) (by norm_num)).mpr
    ⟨.inl (by norm_num), .inr ⟨by norm_num, by norm_num⟩⟩

theorem zero_days_ago :
    ¬∀ shorter longer : ℚ, 10 ≤ shorter → shorter ≤ longer → LabelsRight shorter longer := by
  intro hall
  obtain ⟨ago, hread, hone, _⟩ := (hall 86400 86400 (by norm_num) le_rfl).accurate.1
  obtain ⟨seconds, hseconds, h⟩ := exists_rounds (by norm_num : (10 : ℚ) ≤ 86400)
  have hlate := mt h.early_iff.mp (by norm_num)
  have hzero := h.early_half_iff.mpr (by norm_num)
  rw [h.label, Option.some.injEq] at hread
  rw [← hread, timeAgo_zero_days (by omega) hzero] at hone
  exact absurd hone (by decide)

/-! ## Labels of a sorted list -/

theorem timeAgo_late_mono {shorter seconds : Nat} (h : 84570 ≤ shorter) (hle : shorter ≤ seconds) :
    (timeAgo shorter).seconds ≤ (timeAgo seconds).seconds := by
  have hdays : daysAgo shorter ≤ daysAgo seconds := by
    unfold daysAgo hoursAgo minutesAgo
    omega
  rw [timeAgo_of_late h, timeAgo_of_late (h.trans hle)]
  split_ifs
  all_goals simp only [Ago.seconds, TimeUnit.seconds, yearsAgo, monthsAgo] at *
  all_goals omega

theorem timeAgo_early_pos {seconds : Nat} (hlong : 10 ≤ seconds) (h : seconds < 84570) :
    0 < (timeAgo seconds).seconds := by
  have hone := (timeAgo_early hlong h).1
  have hunit : 0 < (timeAgo seconds).2.seconds := by
    cases (timeAgo seconds).2 <;> decide
  exact Nat.mul_pos hone hunit

/-- **Of two labels the one of the longer interval never says less, but where it says "0 days
ago" and the other does not**: from 24 hours, in rounded minutes and hours, up to the rounded
half of a day of 60 hours. -/
theorem labels_grow_iff {shorter longer : ℚ} (hlong : 10 ≤ shorter) (hle : shorter ≤ longer) :
    ∃ ago ago', readLabel (timeAgoString shorter) = some ago ∧
      readLabel (timeAgoString longer) = some ago' ∧
      (ago.seconds ≤ ago'.seconds ↔
        ¬(shorter < 169139 / 2 ∧ 169139 / 2 ≤ longer ∧ longer < 212339 / 2)) := by
  obtain ⟨s, hs, h⟩ := exists_rounds hlong
  obtain ⟨s', hs', h'⟩ := exists_rounds (hlong.trans hle)
  have hrounded := rounded_mono_of_nonneg (by linarith : (0 : ℚ) ≤ shorter) hle
  rw [hs, hs'] at hrounded
  have hseconds : s ≤ s' := by exact_mod_cast hrounded
  refine ⟨_, _, h.label, h'.label, ?_⟩
  rw [← h.early_iff, ← h'.early_half_iff, ← not_lt (a := longer), ← h'.early_iff]
  rcases Nat.lt_or_ge s 84570 with hearly | hlate
  · rcases Nat.lt_or_ge s' 84570 with hearly' | hlate'
    · exact iff_of_true (timeAgo_early_mono hseconds hearly') (by omega)
    rcases Nat.lt_or_ge s' 106170 with hzero | hday
    · have hpos := timeAgo_early_pos h.long hearly
      have hnone : Ago.seconds (0, .day) = 0 := rfl
      rw [timeAgo_zero_days hlate' hzero, hnone]
      exact iff_of_false (by omega) (by omega)
    · have hone : (timeAgo 106170).seconds = 86400 := rfl
      have hday' := timeAgo_late_mono (by decide : 84570 ≤ 106170) hday
      rw [hone] at hday'
      exact iff_of_true ((timeAgo_early_le_day hearly).trans hday') (by omega)
  · exact iff_of_true (timeAgo_late_mono hlate hseconds) (by omega)

theorem labels_fall_at_a_day :
    ∃ ago ago', readLabel (timeAgoString 82800) = some ago ∧
      readLabel (timeAgoString 86400) = some ago' ∧
      (ago.seconds ≤ ago'.seconds ↔
        ¬((82800 : ℚ) < 169139 / 2 ∧ (169139 / 2 : ℚ) ≤ 86400 ∧ (86400 : ℚ) < 212339 / 2)) :=
  labels_grow_iff (by norm_num) (by norm_num)

end FinanceApp
