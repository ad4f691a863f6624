import FinanceApp.Dates.Months
import FinanceApp.Lib.RangeSelection

/-!
# The grid of the date range picker

One section a month, and in it a row of weekdays, blank items and the days. Each cell is
told its date when the collection view asks for it.
-/

namespace FinanceApp

/-! ## Cells -/

inductive CellTextColor where
  | defaultTextColor
  | disabledColor
  | white
  deriving DecidableEq, Repr

inductive CellHalf where
  | left
  | right
  deriving DecidableEq, Repr

structure CalendarDateRangePickerCell where
  date : Option Date := none
  text : String := ""
  textColor : CellTextColor := .defaultTextColor
  /-- The background has the highlighted color. -/
  isHighlighted : Bool := false
  selectedView : Bool := false
  halfBackgroundView : Option CellHalf := none
  roundHighlightView : Bool := false
  deriving DecidableEq

namespace CalendarDateRangePickerCell

variable (cell : CalendarDateRangePickerCell)

/-- The date is not reset, nor is the text. -/
def reset : CalendarDateRangePickerCell :=
  { cell with
    textColor := .defaultTextColor
    isHighlighted := false
    selectedView := false
    halfBackgroundView := none
    roundHighlightView := false }

def select : CalendarDateRangePickerCell :=
  { cell with selectedView := true, textColor := .white }

def highlightRight : CalendarDateRangePickerCell :=
  { cell with halfBackgroundView := some .right, roundHighlightView := true }

def highlightLeft : CalendarDateRangePickerCell :=
  { cell with halfBackgroundView := some .left, roundHighlightView := true }

def highlight : CalendarDateRangePickerCell := { cell with isHighlighted := true }

def disable : CalendarDateRangePickerCell := { cell with textColor := .disabledColor }

end CalendarDateRangePickerCell

/-! ## The controller as a data source -/

structure CalendarDateRangePickerViewController where
  minimumDate : Date
  maximumDate : Date
  selectedStartDate : Option Date
  selectedEndDate : Option Date
  /-- The right bar button item, "Done". -/
  isEnabled : Bool

structure IndexPath where
  item : Nat
  sect : Nat
  deriving DecidableEq, Repr

namespace CalendarDateRangePickerViewController

section

variable (current : Calendar)

/-- The dates that were not set are set. -/
def viewDidLoad (minimumDate maximumDate selectedStartDate selectedEndDate : Option Date)
    (now : Date) : CalendarDateRangePickerViewController where
  minimumDate := minimumDate.getD now
  maximumDate := maximumDate.getD (current.byAdding .year 3 (minimumDate.getD now))
  selectedStartDate
  selectedEndDate
  isEnabled := selectedStartDate.isSome && selectedEndDate.isSome

def areSameDay (dateA dateB : Date) : Bool := current.dayOf dateA = current.dayOf dateB

def isBefore (dateA dateB : Date) : Bool := current.dayOf dateA < current.dayOf dateB

def getWeekday (date : Date) : ℤ := current.weekday date

def getNumberOfDaysInMonth (date : Date) : ℤ := current.numberOfDaysInMonth date

/-- The next day after a date that is the weekday, written by `format`. -/
def getWeekdayLabel (format : ℤ → String) (now : Date) (weekday : ℤ) : String :=
  if 1 ≤ weekday ∧ weekday ≤ 7 then
    let tomorrow := current.dayOf now + 1
    format (current.weekday (current.startOfDay (tomorrow + (weekday - 1 - tomorrow) % 7)))
  else
    "E"

end

variable (current : Calendar) (format : ℤ → String) (now : Date)
  (self : CalendarDateRangePickerViewController)

def getFirstDate : Date := current.dateFrom (current.monthOf self.minimumDate) 1

def getFirstDateForSection (sect : Nat) : Date :=
  current.byAdding .month sect (self.getFirstDate current)

def getDate (dayOfMonth : ℤ) (sect : Nat) : Date :=
  current.dateFrom (current.monthOf (self.getFirstDateForSection current sect)) dayOfMonth

def numberOfSections : ℤ := current.months self.minimumDate self.maximumDate + 1

def blankItems (sect : Nat) : ℤ :=
  getWeekday current (self.getFirstDateForSection current sect) - 1

def numberOfItemsInSection (sect : Nat) : ℤ :=
  let weekdayRowItems := 7
  weekdayRowItems + self.blankItems current sect +
    getNumberOfDaysInMonth current (self.getFirstDateForSection current sect)

/-- What the selection makes of the cell of a day. -/
def decorate (cell : CalendarDateRangePickerCell) (dayOfMonth : ℤ) (date : Date) :
    CalendarDateRangePickerCell :=
  if self.selectedStartDate.any (isBefore current · date) ∧
      self.selectedEndDate.any (isBefore current date) then
    if dayOfMonth = 1 then cell.highlightRight
    else if dayOfMonth = getNumberOfDaysInMonth current date then cell.highlightLeft
    else cell.highlight
  else if self.selectedStartDate.any (areSameDay current date) then
    if self.selectedEndDate.isSome then cell.select.highlightRight else cell.select
  else if self.selectedEndDate.any (areSameDay current date) then
    cell.select.highlightLeft
  else
    cell

/-- The cell is one that the collection view dequeues. -/
def cellForItemAt (dequeued : CalendarDateRangePickerCell) (indexPath : IndexPath) :
    CalendarDateRangePickerCell :=
  let cell := dequeued.reset
  let blankItems := self.blankItems current indexPath.sect
  if indexPath.item < 7 then
    { cell with text := getWeekdayLabel current format now (indexPath.item + 1) }
  else if (indexPath.item : ℤ) < 7 + blankItems then
    { cell with text := "" }
  else
    let dayOfMonth := indexPath.item - (7 + blankItems) + 1
    let date := self.getDate current dayOfMonth indexPath.sect
    let cell := { cell with date := some date, text := toString dayOfMonth }
    let cell := if isBefore current date self.minimumDate then cell.disable else cell
    self.decorate current cell dayOfMonth date

/-- There is such an item, and it is a day. -/
def IsDay (indexPath : IndexPath) : Prop :=
  (indexPath.sect : ℤ) < self.numberOfSections current ∧
    7 + self.blankItems current indexPath.sect ≤ indexPath.item ∧
    (indexPath.item : ℤ) < self.numberOfItemsInSection current indexPath.sect

/-- The day that an item stands for. -/
def dayAt (indexPath : IndexPath) : ℤ :=
  Gregorian.months.first (current.monthOf self.minimumDate + indexPath.sect) +
    (indexPath.item - (7 + self.blankItems current indexPath.sect))

/-! ## Sections are months -/

theorem getFirstDate_eq :
    self.getFirstDate current =
      current.startOfDay (Gregorian.months.first (current.monthOf self.minimumDate)) := by
  rw [getFirstDate, Calendar.dateFrom, sub_self, add_zero]

theorem addMonths_first (k n : ℤ) :
    Gregorian.months.addMonths n (Gregorian.months.first k) = Gregorian.months.first (k + n) := by
  have hmonth : Gregorian.months.monthOf (Gregorian.months.first k) = k :=
    Gregorian.months.monthOf_eq le_rfl (Gregorian.months.first_strictMono (lt_add_one k))
  have hlength := Gregorian.months.length_pos (k + n)
  simp only [Months.addMonths, Months.dayOfMonth, hmonth, sub_self]
  omega

theorem getFirstDateForSection_eq (sect : Nat) :
    self.getFirstDateForSection current sect = current.startOfDay
      (Gregorian.months.first (current.monthOf self.minimumDate + sect)) := by
  rw [getFirstDateForSection, getFirstDate_eq, Calendar.byAdding, Calendar.dayOf_startOfDay,
    Calendar.timeOfDay_startOfDay, addMonths_first]
  exact add_zero _

theorem monthOf_getFirstDateForSection (sect : Nat) :
    current.monthOf (self.getFirstDateForSection current sect) =
      current.monthOf self.minimumDate + sect := by
  rw [getFirstDateForSection_eq, Calendar.monthOf, Calendar.dayOf_startOfDay]
  exact Gregorian.months.monthOf_eq le_rfl
    (Gregorian.months.first_strictMono (lt_add_one _))

theorem blankItems_eq (sect : Nat) :
    self.blankItems current sect =
      Gregorian.months.first (current.monthOf self.minimumDate + sect) % 7 := by
  rw [blankItems, getFirstDateForSection_eq, getWeekday, Calendar.weekday,
    Calendar.dayOf_startOfDay, add_sub_cancel_right]

theorem blankItems_nonneg (sect : Nat) : 0 ≤ self.blankItems current sect := by
  rw [blankItems_eq]
  exact Int.emod_nonneg _ (by decide)

theorem numberOfItemsInSection_eq (sect : Nat) :
    self.numberOfItemsInSection current sect = 7 + self.blankItems current sect +
      Gregorian.months.length (current.monthOf self.minimumDate + sect) := by
  rw [numberOfItemsInSection, getNumberOfDaysInMonth, Calendar.numberOfDaysInMonth,
    monthOf_getFirstDateForSection]

theorem getDate_eq (dayOfMonth : ℤ) (sect : Nat) :
    self.getDate current dayOfMonth sect = current.startOfDay
      (Gregorian.months.first (current.monthOf self.minimumDate + sect) + (dayOfMonth - 1)) := by
  rw [getDate, monthOf_getFirstDateForSection, Calendar.dateFrom]

/-! ## What a cell is told -/

theorem decorate_date (cell : CalendarDateRangePickerCell) (dayOfMonth : ℤ) (date : Date) :
    (self.decorate current cell dayOfMonth date).date = cell.date ∧
      (self.decorate current cell dayOfMonth date).text = cell.text := by
  unfold decorate
  split_ifs <;> exact ⟨rfl, rfl⟩

def dayOfMonthAt (indexPath : IndexPath) : ℤ :=
  indexPath.item - (7 + self.blankItems current indexPath.sect) + 1

theorem getDate_dayOfMonthAt (indexPath : IndexPath) :
    self.getDate current (self.dayOfMonthAt current indexPath) indexPath.sect =
      current.startOfDay (self.dayAt current indexPath) := by
  rw [getDate_eq, dayOfMonthAt, add_sub_cancel_right, dayAt]

theorem cellForItemAt_of_day {indexPath : IndexPath}
    (h : 7 + self.blankItems current indexPath.sect ≤ indexPath.item)
    (dequeued : CalendarDateRangePickerCell) :
    self.cellForItemAt current format now dequeued indexPath =
      self.decorate current
        { dequeued.reset with
          date := some (current.startOfDay (self.dayAt current indexPath))
          text := toString (self.dayOfMonthAt current indexPath)
          textColor := if self.dayAt current indexPath < current.dayOf self.minimumDate then
            .disabledColor else .defaultTextColor }
        (self.dayOfMonthAt current indexPath)
        (current.startOfDay (self.dayAt current indexPath)) := by
  have hblank := self.blankItems_nonneg current indexPath.sect
  have hday := self.getDate_dayOfMonthAt current indexPath
  rw [dayOfMonthAt] at hday
  simp only [cellForItemAt, if_neg (show ¬indexPath.item < 7 by omega),
    if_neg (show ¬(indexPath.item : ℤ) < 7 + self.blankItems current indexPath.sect by omega),
    hday, isBefore, Calendar.dayOf_startOfDay, decide_eq_true_eq, dayOfMonthAt]
  split <;> rfl

theorem cellForItemAt_of_not_day {indexPath : IndexPath}
    (h : (indexPath.item : ℤ) < 7 + self.blankItems current indexPath.sect)
    (dequeued : CalendarDateRangePickerCell) :
    self.cellForItemAt current format now dequeued indexPath =
      { dequeued.reset with
        text := if indexPath.item < 7 then
          getWeekdayLabel current format now (indexPath.item + 1) else "" } := by
  unfold cellForItemAt
  simp only [if_pos h]
  split <;> rfl

theorem cellForItemAt_date (dequeued : CalendarDateRangePickerCell) (indexPath : IndexPath) :
    (self.cellForItemAt current format now dequeued indexPath).date =
      if 7 + self.blankItems current indexPath.sect ≤ indexPath.item then
        some (current.startOfDay (self.dayAt current indexPath))
      else dequeued.date := by
  -- The cell of a day has its date. Any other cell keeps the date that it had before.
  split
  next hday => rw [cellForItemAt_of_day _ _ _ _ hday, (self.decorate_date current _ _ _).1]
  next hday =>
    rw [cellForItemAt_of_not_day _ _ _ _ (not_le.mp hday)]
    rfl

theorem weekday_label (weekday : ℤ) (h : 1 ≤ weekday ∧ weekday ≤ 7) :
    getWeekdayLabel current format now weekday = format weekday := by
  simp only [getWeekdayLabel, if_pos h, Calendar.weekday, Calendar.dayOf_startOfDay]
  congr 1
  omega

/-! ## The grid -/

theorem filterMap_days {β : Type*} (before days : Nat) (f : Nat → β) :
    ((List.range (before + days)).filterMap fun i =>
      if before ≤ i then some (f (i - before)) else none) = (List.range days).map f := by
  rw [List.range_add, List.filterMap_append, List.filterMap_map]
  have hbefore : ((List.range before).filterMap fun i =>
      if before ≤ i then some (f (i - before)) else none) = [] := by
    rw [List.filterMap_eq_nil_iff]
    intro i hi
    rw [if_neg (by rw [List.mem_range] at hi; omega)]
  rw [hbefore, List.nil_append, List.filterMap_eq_map_iff_forall_eq_some]
  intro i _
  simp

theorem dates_of_section (sect : Nat) :
    ((List.range (self.numberOfItemsInSection current sect).toNat).filterMap fun item =>
      (self.cellForItemAt current format now {} ⟨item, sect⟩).date) =
      (List.range (Gregorian.months.length
        (current.monthOf self.minimumDate + sect)).toNat).map fun j => current.startOfDay
          (Gregorian.months.first (current.monthOf self.minimumDate + sect) + (j : Nat)) := by
  have hblank := self.blankItems_nonneg current sect
  have hlength := Gregorian.months.length_pos (current.monthOf self.minimumDate + sect)
  have hitems : (self.numberOfItemsInSection current sect).toNat =
      (7 + self.blankItems current sect).toNat +
        (Gregorian.months.length (current.monthOf self.minimumDate + sect)).toNat := by
    rw [numberOfItemsInSection_eq]
    omega
  rw [hitems, ← filterMap_days]
  congr 1
  funext item
  rw [cellForItemAt_date]
  by_cases hday : 7 + self.blankItems current sect ≤ item
  · rw [if_pos hday, if_pos (by omega)]
    simp only [dayAt]
    congr 3
    omega
  · rw [if_neg hday, if_neg (by omega)]

/-- The dates of the sections, in cells that had none before. -/
def dates : List Date :=
  (List.range (self.numberOfSections current).toNat).flatMap fun sect =>
    (List.range (self.numberOfItemsInSection current sect).toNat).filterMap fun item =>
      (self.cellForItemAt current format now {} ⟨item, sect⟩).date

/-- Where the first month begins and where the last one ends. -/
def firstDay : ℤ := Gregorian.months.first (current.monthOf self.minimumDate)

def endDay : ℤ :=
  Gregorian.months.first
    (current.monthOf self.minimumDate + (self.numberOfSections current).toNat)

theorem dates_eq :
    self.dates current format now =
      (List.range (self.endDay current - self.firstDay current).toNat).map fun j =>
        current.startOfDay (self.firstDay current + (j : Nat)) := by
  have hdays := Gregorian.months.flatMap_days (current.monthOf self.minimumDate)
    (self.numberOfSections current).toNat
  have hstart := congrArg (List.map current.startOfDay) hdays
  rw [List.map_flatMap, List.map_map] at hstart
  refine Eq.trans (List.flatMap_congr fun sect _ => ?_) hstart
  rw [dates_of_section, List.map_map]
  rfl

theorem mem_dates {date : Date} :
    date ∈ self.dates current format now ↔ ∃ day, self.firstDay current ≤ day ∧
      day < self.endDay current ∧ current.startOfDay day = date := by
  rw [dates_eq, List.mem_map]
  constructor
  · rintro ⟨j, hj, rfl⟩
    rw [List.mem_range] at hj
    exact ⟨_, by omega, by omega, rfl⟩
  · rintro ⟨day, hfirst, hend, rfl⟩
    refine ⟨(day - self.firstDay current).toNat, List.mem_range.mpr (by omega), ?_⟩
    congr 1
    omega

theorem label_of_column {item sect : Nat} {date : Date} (dequeued : CalendarDateRangePickerCell)
    (hdate : (self.cellForItemAt current format now {} ⟨item, sect⟩).date = some date) :
    (self.cellForItemAt current format now dequeued ⟨item % 7, sect⟩).text =
      format (getWeekday current date) := by
  rw [cellForItemAt_date] at hdate
  obtain ⟨hday, hdate⟩ := Option.ite_none_right_eq_some.mp hdate
  cases hdate
  have hblank := self.blankItems_nonneg current sect
  have hcolumn : item % 7 < 7 := Nat.mod_lt _ (by decide)
  rw [cellForItemAt_of_not_day _ _ _ _ (by simp only; omega)]
  simp only [if_pos hcolumn]
  rw [weekday_label _ _ _ _ (by omega), getWeekday, Calendar.weekday, Calendar.dayOf_startOfDay,
    dayAt, blankItems_eq]
  congr 1
  push_cast
  omega

/-- **The grid is a calendar.** With `n` whole months from the minimum date to the maximum one,
its days are all the days from the first of the first month to the last of the `n`-th after
it, each once and in order, and each stands under the label of its weekday, whenever the label
is made and whatever cells are dequeued. -/
theorem grid_shows_each_day_once (h : self.minimumDate ≤ self.maximumDate) :
    (∃ n : ℕ, current.byAdding .month n self.minimumDate ≤ self.maximumDate ∧
      self.maximumDate < current.byAdding .month (n + 1) self.minimumDate ∧
      self.dates current format now =
        (List.range (Gregorian.months.first (current.monthOf self.minimumDate + n + 1) -
          Gregorian.months.first (current.monthOf self.minimumDate)).toNat).map fun j =>
            current.startOfDay
              (Gregorian.months.first (current.monthOf self.minimumDate) + (j : Nat))) ∧
    ∀ item sect date dequeued,
      (self.cellForItemAt current format now {} ⟨item, sect⟩).date = some date →
        (self.cellForItemAt current format now dequeued ⟨item % 7, sect⟩).text =
          format (getWeekday current date) := by
  refine ⟨?_, fun item sect date dequeued => self.label_of_column current format now dequeued⟩
  have hle := current.le_months_iff h
  obtain ⟨n, hn⟩ := Int.eq_ofNat_of_zero_le ((hle 0).mpr (by rwa [Calendar.byAdding_month_zero]))
  refine ⟨n, (hle n).mp hn.ge, not_le.mp fun hmore => ?_, ?_⟩
  · have hcount := (hle (n + 1)).mpr hmore
    omega
  · have hsections : self.numberOfSections current = n + 1 := by
      rw [numberOfSections, hn]
    rw [dates_eq, firstDay, endDay, hsections, Int.toNat_of_nonneg (by omega), add_assoc]

/-- The first ninety days of the century. -/
def ninetyDays : CalendarDateRangePickerViewController where
  minimumDate := 0
  maximumDate := 90 * 86400
  selectedStartDate := none
  selectedEndDate := none
  isEnabled := false

theorem grid_of_ninety_days :
    (∃ n : ℕ, Calendar.byAdding ⟨0⟩ .month n ninetyDays.minimumDate ≤ ninetyDays.maximumDate ∧
      ninetyDays.maximumDate < Calendar.byAdding ⟨0⟩ .month (n + 1) ninetyDays.minimumDate ∧
      ninetyDays.dates ⟨0⟩ toString 0 =
        (List.range (Gregorian.months.first (Calendar.monthOf ⟨0⟩ ninetyDays.minimumDate + n + 1) -
          Gregorian.months.first (Calendar.monthOf ⟨0⟩ ninetyDays.minimumDate)).toNat).map fun j =>
            Calendar.startOfDay ⟨0⟩
              (Gregorian.months.first (Calendar.monthOf ⟨0⟩ ninetyDays.minimumDate) + (j : Nat))) ∧
    ∀ item sect date dequeued,
      (ninetyDays.cellForItemAt ⟨0⟩ toString 0 {} ⟨item, sect⟩).date = some date →
        (ninetyDays.cellForItemAt ⟨0⟩ toString 0 dequeued ⟨item % 7, sect⟩).text =
          toString (getWeekday ⟨0⟩ date) :=
  grid_shows_each_day_once ⟨0⟩ toString 0 ninetyDays (by norm_num [ninetyDays])

/-! ## The maximum date -/

theorem months_eq (h : self.minimumDate ≤ self.maximumDate) :
    self.numberOfSections current =
      current.monthOf self.maximumDate - current.monthOf self.minimumDate +
        if current.byAdding .month
          (current.monthOf self.maximumDate - current.monthOf self.minimumDate)
          self.minimumDate ≤ self.maximumDate then 1 else 0 := by
  rw [numberOfSections, Calendar.months, if_pos h]
  split <;> omega

theorem mem_dates_of_day {date : Date} (hfirst : self.firstDay current ≤ current.dayOf date)
    (hend : current.dayOf date < self.endDay current) :
    ∃ shown ∈ self.dates current format now, areSameDay current shown date := by
  refine ⟨current.startOfDay (current.dayOf date),
    (self.mem_dates current format now).mpr ⟨_, hfirst, hend, rfl⟩, ?_⟩
  rw [areSameDay, Calendar.dayOf_startOfDay, decide_eq_true_eq]

theorem firstDay_le (h : self.minimumDate ≤ self.maximumDate) :
    self.firstDay current ≤ current.dayOf self.maximumDate := by
  refine le_trans ?_ (Gregorian.months.first_monthOf_le (current.dayOf self.maximumDate))
  apply Gregorian.months.first_strictMono.monotone
  by_contra hlate
  exact absurd h (not_le.mpr (current.lt_of_monthOf_lt (not_le.mp hlate)))

theorem endDay_eq (h : self.minimumDate ≤ self.maximumDate) :
    self.endDay current = Gregorian.months.first (current.monthOf self.maximumDate +
      if current.byAdding .month
        (current.monthOf self.maximumDate - current.monthOf self.minimumDate)
        self.minimumDate ≤ self.maximumDate then 1 else 0) := by
  have hsections : 0 < self.numberOfSections current := by
    have hmonths := (current.le_months_iff h 0).mpr (by rwa [Calendar.byAdding_month_zero])
    rw [numberOfSections]
    omega
  rw [endDay, Int.toNat_of_nonneg hsections.le, months_eq _ _ h]
  congr 1
  omega

/-- **The maximum date can be missing.** Where the dates are in order, the maximum date has its
day in the grid just if the place of the minimum date in the month is reached by then. The
grid goes to the end of that month, or of the month before. -/
theorem maximum_date_is_shown_iff (h : self.minimumDate ≤ self.maximumDate) :
    ((∃ date ∈ self.dates current format now, areSameDay current date self.maximumDate) ↔
      current.byAdding .month
        (current.monthOf self.maximumDate - current.monthOf self.minimumDate)
        self.minimumDate ≤ self.maximumDate) ∧
    ∀ date ∈ self.dates current format now,
      current.monthOf date ≤ current.monthOf self.maximumDate := by
  have hend := self.endDay_eq current h
  have hmonth := Gregorian.months.first_monthOf_le (current.dayOf self.maximumDate)
  have hnext := Gregorian.months.lt_first_monthOf_succ (current.dayOf self.maximumDate)
  constructor
  · constructor
    · rintro ⟨date, hdate, hsame⟩
      obtain ⟨day, _, hlt, rfl⟩ := (self.mem_dates current format now).mp hdate
      rw [areSameDay, Calendar.dayOf_startOfDay, decide_eq_true_eq] at hsame
      subst hsame
      by_contra hnot
      rw [hend, if_neg hnot, add_zero] at hlt
      exact absurd hmonth (not_le.mpr hlt)
    · intro hle
      rw [if_pos hle] at hend
      exact self.mem_dates_of_day current format now (self.firstDay_le current h) (hend ▸ hnext)
  · intro date hdate
    obtain ⟨day, _, hlt, rfl⟩ := (self.mem_dates current format now).mp hdate
    rw [hend] at hlt
    rw [Calendar.monthOf, Calendar.dayOf_startOfDay]
    have hday := Gregorian.months.first_monthOf_le day
    have hmonths := Gregorian.months.first_strictMono.lt_iff_lt.mp (hday.trans_lt hlt)
    split at hmonths <;> omega

theorem maximum_of_ninety_days :
    ((∃ date ∈ ninetyDays.dates ⟨0⟩ toString 0,
        areSameDay ⟨0⟩ date ninetyDays.maximumDate) ↔
      Calendar.byAdding ⟨0⟩ .month
        (Calendar.monthOf ⟨0⟩ ninetyDays.maximumDate - Calendar.monthOf ⟨0⟩ ninetyDays.minimumDate)
        ninetyDays.minimumDate ≤ ninetyDays.maximumDate) ∧
    ∀ date ∈ ninetyDays.dates ⟨0⟩ toString 0,
      Calendar.monthOf ⟨0⟩ date ≤ Calendar.monthOf ⟨0⟩ ninetyDays.maximumDate :=
  maximum_date_is_shown_iff ⟨0⟩ toString 0 ninetyDays (by norm_num [ninetyDays])

/-- **Three years are 37 months**: where no maximum date was set, its day is in the grid. -/
theorem default_shows_three_years
    (minimumDate selectedStartDate selectedEndDate : Option Date) :
    (viewDidLoad current minimumDate none selectedStartDate selectedEndDate now).numberOfSections
        current = 37 ∧
      ∃ date ∈ (viewDidLoad current minimumDate none selectedStartDate selectedEndDate now).dates
          current format now,
        areSameDay current date (viewDidLoad current minimumDate none selectedStartDate
          selectedEndDate now).maximumDate := by
  set self := viewDidLoad current minimumDate none selectedStartDate selectedEndDate now with hself
  have hmaximum : self.maximumDate = current.byAdding .month 36 self.minimumDate := rfl
  have hmonth : current.monthOf self.maximumDate = current.monthOf self.minimumDate + 36 := by
    rw [hmaximum, Calendar.monthOf_byAdding_month]
  have hmono := (current.byAdding_month_strictMono self.minimumDate).le_iff_le (a := 0) (b := 36)
  have h : self.minimumDate ≤ self.maximumDate := by
    simpa [hmaximum] using hmono
  have hreached : current.byAdding .month
      (current.monthOf self.maximumDate - current.monthOf self.minimumDate)
      self.minimumDate ≤ self.maximumDate := by
    rw [hmonth, add_sub_cancel_left, hmaximum]
  have hend := self.endDay_eq current h
  rw [if_pos hreached] at hend
  constructor
  · rw [self.months_eq current h, if_pos hreached]
    omega
  · apply self.mem_dates_of_day current format now (self.firstDay_le current h)
    rw [hend]
    exact Gregorian.months.lt_first_monthOf_succ _

end CalendarDateRangePickerViewController

end FinanceApp
