import FinanceApp.Dates.Accessors

/-!
# The ranges of a chart

The home, stocks and asset charts offer the same six ranges. Five are nested, but "All"
begins a hundred years ahead.
-/

namespace FinanceApp

structure ATCChartDate where
  title : String
  startDate : Date
  endDate : Date
  deriving DecidableEq, Repr

open Date

/-- The list that every chart is built with. The end of a range is the current date. -/
def dateList (current : Calendar) (now : Date) : List ATCChartDate :=
  [{ title := "1D", startDate := yesterday current now, endDate := now },
    { title := "1W", startDate := oneWeekAgo current now, endDate := now },
    { title := "1M", startDate := oneMonthAgo current now, endDate := now },
    { title := "3M", startDate := threeMonthsAgo current now, endDate := now },
    { title := "1Y", startDate := oneYearAgo current now, endDate := now },
    { title := "All", startDate := infiniteAgo current now, endDate := now }]

/-- No range ends before it starts, and a later one of the list starts before the earlier
ones. -/
structure RangesNested (dates : List ATCChartDate) : Prop where
  ordered : ∀ range ∈ dates, range.startDate ≤ range.endDate
  nested : dates.Pairwise fun shorter longer => longer.startDate < shorter.startDate

variable (current : Calendar) (now : Date)

/-- The days that the ranges before "All" start on. -/
def rangeDays (day : ℤ) : List ℤ :=
  [day - 1, day - 7, Gregorian.months.addMonths (-1) day, Gregorian.months.addMonths (-3) day,
    Gregorian.months.addMonths (-12) day]

theorem rangeDays_sorted (day : ℤ) : (rangeDays day).Pairwise (· > ·) := by
  obtain ⟨hone, hthree, htwelve⟩ := addMonths_lt day
  apply List.IsChain.pairwise
  simp only [rangeDays, List.isChain_cons_cons, List.isChain_singleton, gt_iff_lt, and_true]
  omega

theorem map_startDate_dropLast :
    (dateList current now).dropLast.map ATCChartDate.startDate =
      (rangeDays (current.dayOf now)).map current.noonOf := by
  simp only [dateList, List.dropLast, List.map_cons, List.map_nil, yesterday, oneWeekAgo,
    oneMonthAgo, threeMonthsAgo, oneYearAgo, noon_eq, rangeDays, Calendar.byAdding_day_noonOf,
    Calendar.byAdding_month_noonOf, sub_eq_add_neg]

theorem noonOf_yesterday_lt : current.noonOf (current.dayOf now - 1) < now := by
  have hadd := current.noonOf_add (current.dayOf now) (-1)
  have hnoon := current.noonOf_dayOf now
  have htime := current.timeOfDay_nonneg now
  rw [← sub_eq_add_neg] at hadd
  push_cast at hadd
  linarith

/-- **From one day to one year the ranges are nested, at every date.** -/
theorem first_ranges_nested : RangesNested (dateList current now).dropLast := by
  constructor
  · intro range hrange
    have hend : range.endDate = now := by
      revert range
      simp [dateList]
    have hstart := List.mem_map_of_mem (f := ATCChartDate.startDate) hrange
    rw [map_startDate_dropLast] at hstart
    obtain ⟨day, hday, hstart⟩ := List.mem_map.mp hstart
    have hle : day ≤ current.dayOf now - 1 := by
      rcases List.mem_cons.mp hday with rfl | hday
      · exact le_rfl
      · exact (List.rel_of_pairwise_cons (rangeDays_sorted _) hday).le
    rw [hend, ← hstart]
    exact (current.noonOf_strictMono.monotone hle).trans (noonOf_yesterday_lt current now).le
  · rw [← List.pairwise_map (f := ATCChartDate.startDate) (R := (· > ·)), map_startDate_dropLast,
      List.pairwise_map]
    exact (rangeDays_sorted _).imp fun h => current.noonOf_strictMono h

theorem lt_infiniteAgo : now < infiniteAgo current now := by
  have hlater := Gregorian.months.addMonths_strictMono (current.dayOf now)
    (show (0 : ℤ) < 12 * 100 by decide)
  simp only [Months.addMonths_zero] at hlater
  have hnoon := current.noonOf_strictMono.monotone (Int.add_one_le_iff.mpr hlater)
  have hadd := current.noonOf_add (current.dayOf now) 1
  have hday := current.noonOf_dayOf now
  have htime := current.timeOfDay_lt now
  rw [infiniteAgo, noon_eq, Calendar.byAdding_year_noonOf]
  push_cast at hadd
  linarith

/-- **The ranges are nested at no date: "All" starts in the future.** -/
theorem ranges_never_nested : ¬RangesNested (dateList current now) := by
  intro hnested
  have hall := hnested.ordered _ (List.getLast_mem (l := dateList current now) (by simp [dateList]))
  exact absurd hall (not_le.mpr (lt_infiniteAgo current now))

theorem all_starts_in_2101 :
    ¬∀ (current : Calendar) (now : Date), RangesNested (dateList current now) := by
  -- At the start of 2001, "All" goes from 2101 to 2001.
  intro hall
  have hlt := lt_infiniteAgo ⟨0⟩ 0
  have hordered := (hall ⟨0⟩ 0).ordered ⟨"All", infiniteAgo ⟨0⟩ 0, 0⟩ (by simp [dateList])
  exact absurd hordered (not_le.mpr hlt)

end FinanceApp
