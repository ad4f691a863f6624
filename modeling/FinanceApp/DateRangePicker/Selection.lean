import FinanceApp.DateRangePicker.Grid
import FinanceApp.Lib.Machine

/-!
# Picking a range

The collection view shows items in cells that it reuses, and the taps come in between. A tap
takes the date of the cell that was tapped.
-/

namespace FinanceApp

/-! ## The controller as a delegate -/

inductive PickerEvent where
  | didPickDateRange (startDate endDate : Date)
  | didCancelPickingDateRange
  deriving DecidableEq, Repr

namespace CalendarDateRangePickerViewController

variable (current : Calendar) (self : CalendarDateRangePickerViewController)

def didTapDone : Option PickerEvent :=
  match self.selectedStartDate, self.selectedEndDate with
  | some startDate, some endDate => some (.didPickDateRange startDate endDate)
  | _, _ => none

/-- What a tap on a date does that is not before the minimum date. -/
def selectDate (date : Date) : CalendarDateRangePickerViewController :=
  match self.selectedStartDate, self.selectedEndDate with
  | none, _ => { self with selectedStartDate := some date }
  | some startDate, none =>
    if isBefore current startDate date then
      { self with selectedEndDate := some date, isEnabled := true }
    else
      { self with selectedStartDate := some date }
  | some _, some _ => { self with selectedStartDate := some date, selectedEndDate := none }

/-- `none` where nothing is reloaded. -/
def didSelectItemAt (cell : CalendarDateRangePickerCell) :
    Option CalendarDateRangePickerViewController :=
  match cell.date with
  | none => none
  | some date =>
    if isBefore current date self.minimumDate then none else some (self.selectDate current date)

end CalendarDateRangePickerViewController

/-! ## The screen -/

/-- The controller, all cells that were ever made, and those that are shown. -/
structure DateRangePickerScreen where
  controller : CalendarDateRangePickerViewController
  cells : List CalendarDateRangePickerCell := []
  shown : List (IndexPath × Nat) := []

inductive PickerAction where
  /-- An item comes into view, in a cell that is free or new. -/
  | cellForItemAt (indexPath : IndexPath) (r : Nat) (now : Date)
  | didEndDisplaying (indexPath : IndexPath)
  | didSelectItemAt (indexPath : IndexPath)
  | didTapDone
  | didTapCancel
  deriving DecidableEq

namespace DateRangePickerScreen

variable (current : Calendar) (format : ℤ → String) (screen : DateRangePickerScreen)

/-- The cell `r`, or a new one. -/
def dequeue (r : Nat) : CalendarDateRangePickerCell := screen.cells[r]?.getD {}

def display (indexPath : IndexPath) (r : Nat) (now : Date) : DateRangePickerScreen :=
  let cell := screen.controller.cellForItemAt current format now (screen.dequeue r) indexPath
  { screen with
    cells := if r < screen.cells.length then screen.cells.set r cell else screen.cells ++ [cell]
    shown := (indexPath, r) :: screen.shown }

def CanShow (indexPath : IndexPath) (r : Nat) : Prop :=
  (indexPath.sect : ℤ) < screen.controller.numberOfSections current ∧
    (indexPath.item : ℤ) < screen.controller.numberOfItemsInSection current indexPath.sect ∧
    r ≤ screen.cells.length ∧ ∀ place ∈ screen.shown, place.1 ≠ indexPath ∧ place.2 ≠ r

instance (indexPath : IndexPath) (r : Nat) :
    Decidable (screen.CanShow current indexPath r) :=
  inferInstanceAs (Decidable (_ ∧ _ ∧ _ ∧ ∀ place ∈ screen.shown, _ ∧ _))

def cellForItem (indexPath : IndexPath) : Option CalendarDateRangePickerCell :=
  (screen.shown.find? fun place => place.1 = indexPath).bind fun place => screen.cells[place.2]?

/-- After a reload no cell is shown until the collection view asks for it. -/
def select (indexPath : IndexPath) : Option DateRangePickerScreen :=
  (screen.cellForItem indexPath).map fun cell =>
    match screen.controller.didSelectItemAt current cell with
    | none => screen
    | some controller => { screen with controller, shown := [] }

end DateRangePickerScreen

/-- `none` is an action that cannot be taken. -/
def pickerStep (current : Calendar) (format : ℤ → String) (screen : DateRangePickerScreen) :
    PickerAction → Option (DateRangePickerScreen × Option PickerEvent)
  | .cellForItemAt indexPath r now =>
    if screen.CanShow current indexPath r then
      some (screen.display current format indexPath r now, none)
    else
      none
  | .didEndDisplaying indexPath =>
    some ({ screen with shown := screen.shown.filter fun place => place.1 ≠ indexPath }, none)
  | .didSelectItemAt indexPath => (screen.select current indexPath).map (·, none)
  | .didTapDone => some (screen, screen.controller.didTapDone)
  | .didTapCancel => some (screen, some .didCancelPickingDateRange)

def pickerMachine (current : Calendar) (format : ℤ → String) :
    Machine DateRangePickerScreen PickerAction (Option PickerEvent) where
  step := pickerStep current format

/-! ## A tap -/

namespace CalendarDateRangePickerViewController

variable {current : Calendar} {self self' : CalendarDateRangePickerViewController}
  {selection : RangeSelection ℤ} {cell : CalendarDateRangePickerCell} {date : Date}

/-- The days of the selected dates. -/
structure Selects (current : Calendar) (selecting : CalendarDateRangePickerViewController)
    (selection : RangeSelection ℤ) : Prop where
  start : selecting.selectedStartDate.map current.dayOf = selection.lower
  stop : selecting.selectedEndDate.map current.dayOf = selection.upper

theorem didSelectItemAt_eq_some :
    self.didSelectItemAt current cell = some self' ↔
      ∃ date, cell.date = some date ∧ current.dayOf self.minimumDate ≤ current.dayOf date ∧
        self.selectDate current date = self' := by
  rw [didSelectItemAt]
  cases cell.date with
  | none => simp
  | some date => simp [isBefore]

/-- The grid does not depend on what is selected. -/
structure SameGrid (controller controller' : CalendarDateRangePickerViewController) : Prop where
  minimumDate : controller'.minimumDate = controller.minimumDate
  maximumDate : controller'.maximumDate = controller.maximumDate

theorem sameGrid_selectDate (date : Date) : self.SameGrid (self.selectDate current date) := by
  constructor
  all_goals
    unfold selectDate
    split
    · rfl
    · split <;> rfl
    · rfl

namespace SameGrid

variable (h : self.SameGrid self')

include h

theorem numberOfSections : self'.numberOfSections current = self.numberOfSections current := by
  simp only [CalendarDateRangePickerViewController.numberOfSections, h.minimumDate, h.maximumDate]

theorem blankItems (sect : Nat) : self'.blankItems current sect = self.blankItems current sect := by
  rw [blankItems_eq, blankItems_eq, h.minimumDate]

theorem numberOfItemsInSection (sect : Nat) :
    self'.numberOfItemsInSection current sect = self.numberOfItemsInSection current sect := by
  rw [numberOfItemsInSection_eq, numberOfItemsInSection_eq, h.blankItems, h.minimumDate]

theorem dayAt (indexPath : IndexPath) :
    self'.dayAt current indexPath = self.dayAt current indexPath := by
  simp only [CalendarDateRangePickerViewController.dayAt, h.minimumDate, h.blankItems]

end SameGrid

theorem dayAt_mem {indexPath : IndexPath} (h : self.IsDay current indexPath) :
    self.firstDay current ≤ self.dayAt current indexPath ∧
      self.dayAt current indexPath < self.endDay current := by
  obtain ⟨hsect, hday, hitem⟩ := h
  have hstart : self.firstDay current ≤
      Gregorian.months.first (current.monthOf self.minimumDate + indexPath.sect) :=
    Gregorian.months.first_strictMono.monotone (by omega)
  have hend : Gregorian.months.first (current.monthOf self.minimumDate + indexPath.sect + 1) ≤
      self.endDay current :=
    Gregorian.months.first_strictMono.monotone (by omega)
  rw [numberOfItemsInSection_eq, Months.length] at hitem
  rw [dayAt]
  omega

/-- A tap is one of the range selection. -/
theorem Selects.selectDate (h : self.Selects current selection) (date : Date) :
    (self.selectDate current date).Selects current (selection.tap (current.dayOf date)) := by
  obtain ⟨hstart, hstop⟩ := h
  cases selection with
  | empty =>
    simp only [RangeSelection.lower, RangeSelection.upper, Option.map_eq_none_iff] at hstart hstop
    simp only [CalendarDateRangePickerViewController.selectDate, hstart, RangeSelection.tap]
    exact ⟨rfl, by rw [hstop]; rfl⟩
  | start a =>
    simp only [RangeSelection.lower, RangeSelection.upper, Option.map_eq_none_iff,
      Option.map_eq_some_iff] at hstart hstop
    obtain ⟨startDate, hstart, rfl⟩ := hstart
    simp only [CalendarDateRangePickerViewController.selectDate, hstart, hstop, isBefore,
      decide_eq_true_eq, RangeSelection.tap]
    by_cases hbefore : current.dayOf startDate < current.dayOf date
    · rw [if_pos hbefore, dif_pos hbefore]
      exact ⟨rfl, rfl⟩
    · rw [if_neg hbefore, dif_neg hbefore]
      exact ⟨rfl, rfl⟩
  | range a b hlt =>
    simp only [RangeSelection.lower, RangeSelection.upper, Option.map_eq_some_iff] at hstart hstop
    obtain ⟨startDate, hstart, rfl⟩ := hstart
    obtain ⟨stopDate, hstop, rfl⟩ := hstop
    simp only [CalendarDateRangePickerViewController.selectDate, hstart, hstop, RangeSelection.tap]
    exact ⟨rfl, rfl⟩

end CalendarDateRangePickerViewController

/-! ## Cells that are shown -/

namespace DateRangePickerScreen

open CalendarDateRangePickerViewController

variable {current : Calendar} {format : ℤ → String} {screen screen' : DateRangePickerScreen}
  {controller : CalendarDateRangePickerViewController}

/-- The cells are what the controller made them, and have dates of the grid. -/
structure Sound (current : Calendar) (format : ℤ → String)
    (controller : CalendarDateRangePickerViewController) (screen : DateRangePickerScreen) :
    Prop where
  sameGrid : controller.SameGrid screen.controller
  shown : ∀ place ∈ screen.shown, ∃ dequeued now, screen.cells[place.2]? =
    some (screen.controller.cellForItemAt current format now dequeued place.1)
  dates : ∀ cell ∈ screen.cells, ∀ date, cell.date = some date →
    controller.firstDay current ≤ current.dayOf date ∧
      current.dayOf date < controller.endDay current

theorem sound_init : Sound current format controller { controller } :=
  ⟨⟨rfl, rfl⟩, by simp, by simp⟩

theorem display_getElem? {r : Nat} (hr : r ≤ screen.cells.length) (indexPath : IndexPath)
    (now : Date) (r' : Nat) :
    (screen.display current format indexPath r now).cells[r']? =
      if r' = r then
        some (screen.controller.cellForItemAt current format now (screen.dequeue r) indexPath)
      else screen.cells[r']? := by
  simp only [display]
  split
  next hlt =>
    rw [List.getElem?_set]
    simp only [eq_comm (a := r), hlt, if_true]
  next hnew =>
    obtain rfl : r = screen.cells.length := le_antisymm hr (not_lt.mp hnew)
    rcases lt_trichotomy r' screen.cells.length with hold | rfl | hbehind
    · rw [List.getElem?_append_left hold, if_neg hold.ne]
    · simp
    · rw [if_neg hbehind.ne', List.getElem?_eq_none (by simpa [Nat.succ_le_iff] using hbehind),
        List.getElem?_eq_none hbehind.le]

theorem Sound.dequeue (h : screen.Sound current format controller) (r : Nat) (date : Date)
    (hdate : (screen.dequeue r).date = some date) :
    controller.firstDay current ≤ current.dayOf date ∧
      current.dayOf date < controller.endDay current := by
  rw [DateRangePickerScreen.dequeue] at hdate
  cases hr : screen.cells[r]? with
  | none =>
    rw [hr] at hdate
    exact absurd hdate (by simp)
  | some cell =>
    rw [hr] at hdate
    exact h.dates cell (List.mem_of_getElem? hr) date hdate

theorem Sound.display (h : screen.Sound current format controller) {indexPath : IndexPath}
    {r : Nat} (hcan : screen.CanShow current indexPath r) (now : Date) :
    (screen.display current format indexPath r now).Sound current format controller where
  sameGrid := h.sameGrid
  shown place hplace := by
    obtain ⟨hsect, hitem, hr, hfree⟩ := hcan
    rw [display_getElem? hr]
    rcases List.mem_cons.mp hplace with rfl | hplace
    · exact ⟨_, now, if_pos rfl⟩
    · rw [if_neg (hfree place hplace).2]
      exact h.shown place hplace
  dates cell hcell date hdate := by
    obtain ⟨hsect, hitem, hr, hfree⟩ := hcan
    obtain ⟨r', hr'⟩ := List.mem_iff_getElem?.mp hcell
    rw [display_getElem? hr] at hr'
    split at hr'
    · cases hr'
      rw [cellForItemAt_date] at hdate
      split at hdate
      next hday =>
        cases hdate
        rw [Calendar.dayOf_startOfDay, h.sameGrid.dayAt]
        rw [h.sameGrid.blankItems] at hday
        rw [h.sameGrid.numberOfSections] at hsect
        rw [h.sameGrid.numberOfItemsInSection] at hitem
        exact dayAt_mem ⟨hsect, hday, hitem⟩
      next => exact h.dequeue r date hdate
    · exact h.dates cell (List.mem_of_getElem? hr') date hdate

theorem Sound.select (h : screen.Sound current format controller) {indexPath : IndexPath}
    (hselect : screen.select current indexPath = some screen') :
    ∃ cell ∈ screen.cells, (7 + controller.blankItems current indexPath.sect ≤ indexPath.item →
        cell.date = some (current.startOfDay (controller.dayAt current indexPath))) ∧
      (screen' = screen ∧ (∀ date, cell.date = some date →
          current.dayOf date < current.dayOf controller.minimumDate) ∨
        ∃ date, cell.date = some date ∧
          current.dayOf controller.minimumDate ≤ current.dayOf date ∧
          screen' = { screen with
            controller := screen.controller.selectDate current date
            shown := [] }) := by
  obtain ⟨cell, hcell, rfl⟩ := Option.map_eq_some_iff.mp hselect
  obtain ⟨place, hplace, hcell⟩ := Option.bind_eq_some_iff.mp hcell
  obtain ⟨dequeued, now, hmade⟩ := h.shown place (List.mem_of_find?_eq_some hplace)
  have hindexPath : place.1 = indexPath := by simpa using List.find?_some hplace
  rw [hindexPath, hcell, Option.some.injEq] at hmade
  refine ⟨cell, List.mem_of_getElem? hcell, fun hday => ?_, ?_⟩
  · rw [hmade, cellForItemAt_date, h.sameGrid.blankItems, if_pos hday, h.sameGrid.dayAt]
  · rw [← h.sameGrid.minimumDate]
    cases hcontroller : screen.controller.didSelectItemAt current cell with
    | some controller' =>
      obtain ⟨date, hdate, hle, rfl⟩ := didSelectItemAt_eq_some.mp hcontroller
      exact Or.inr ⟨date, hdate, hle, rfl⟩
    | none =>
      refine Or.inl ⟨rfl, fun date hdate => ?_⟩
      by_contra hle
      have hsome := didSelectItemAt_eq_some.mpr ⟨date, hdate, not_lt.mp hle, rfl⟩
      rw [hcontroller] at hsome
      exact absurd hsome (by simp)

theorem Sound.step (h : screen.Sound current format controller) {action : PickerAction}
    {event : Option PickerEvent}
    (hstep : (pickerMachine current format).step screen action = some (screen', event)) :
    screen'.Sound current format controller := by
  cases action with
  | cellForItemAt indexPath r now =>
    obtain ⟨hcan, hstep⟩ := Option.ite_none_right_eq_some.mp hstep
    cases hstep
    exact h.display hcan now
  | didEndDisplaying indexPath =>
    cases hstep
    exact ⟨h.sameGrid, fun place hplace => h.shown place (List.mem_filter.mp hplace).1, h.dates⟩
  | didSelectItemAt indexPath =>
    obtain ⟨_, hselect, hstep⟩ := Option.map_eq_some_iff.mp hstep
    cases hstep
    obtain ⟨cell, _, _, ⟨rfl, _⟩ | ⟨date, _, _, rfl⟩⟩ := h.select hselect
    · exact h
    · have hsame : screen.controller.SameGrid (screen.controller.selectDate current date) :=
        sameGrid_selectDate date
      exact ⟨⟨hsame.minimumDate.trans h.sameGrid.minimumDate,
        hsame.maximumDate.trans h.sameGrid.maximumDate⟩, by simp, h.dates⟩
  | didTapDone | didTapCancel =>
    cases hstep
    exact h

/-! ## Showing and tapping -/

theorem run_tap {indexPath : IndexPath} {r : Nat} {now date : Date}
    (hcan : screen.CanShow current indexPath r)
    (hdate : (screen.controller.cellForItemAt current format now (screen.dequeue r)
      indexPath).date = some date)
    (hle : current.dayOf screen.controller.minimumDate ≤ current.dayOf date) :
    ∃ screen' log, (pickerMachine current format).run screen
        [.cellForItemAt indexPath r now, .didSelectItemAt indexPath] = some (screen', log) ∧
      screen'.controller = screen.controller.selectDate current date ∧ screen'.shown = [] := by
  have hcell : (screen.display current format indexPath r now).cellForItem indexPath =
      some (screen.controller.cellForItemAt current format now (screen.dequeue r) indexPath) := by
    rw [cellForItem]
    simp only [DateRangePickerScreen.display, List.find?_cons, decide_true, Option.bind_some]
    exact (display_getElem? hcan.2.2.1 indexPath now r).trans (if_pos rfl)
  have hselect : (screen.display current format indexPath r now).controller.didSelectItemAt current
      (screen.controller.cellForItemAt current format now (screen.dequeue r) indexPath) =
        some (screen.controller.selectDate current date) :=
    didSelectItemAt_eq_some.mpr ⟨date, hdate, hle, rfl⟩
  have htap : (screen.display current format indexPath r now).select current indexPath =
      some { screen.display current format indexPath r now with
        controller := screen.controller.selectDate current date
        shown := [] } := by
    rw [select, hcell, Option.map_some, hselect]
  exact ⟨_, [none, none], (Machine.run_cons_eq_some _).mpr ⟨_, none, [none], if_pos hcan,
    (Machine.run_singleton _).mpr ⟨none, congrArg (Option.map (·, none)) htap, rfl⟩, rfl⟩,
    rfl, rfl⟩

theorem Sound.canShow (h : screen.Sound current format controller) {indexPath : IndexPath} {r : Nat}
    (hsect : (indexPath.sect : ℤ) < controller.numberOfSections current)
    (hitem : (indexPath.item : ℤ) < controller.numberOfItemsInSection current indexPath.sect)
    (hr : r ≤ screen.cells.length)
    (hfree : ∀ place ∈ screen.shown, place.1 ≠ indexPath ∧ place.2 ≠ r) :
    screen.CanShow current indexPath r := by
  refine ⟨?_, ?_, hr, hfree⟩
  · rwa [h.sameGrid.numberOfSections]
  · rwa [h.sameGrid.numberOfItemsInSection]

theorem run_tap_day (h : screen.Sound current format controller) (hshown : screen.shown = [])
    {indexPath : IndexPath} (hday : controller.IsDay current indexPath)
    (hallowed : current.dayOf controller.minimumDate ≤ controller.dayAt current indexPath)
    (now : Date) :
    ∃ screen' log, (pickerMachine current format).run screen
        [.cellForItemAt indexPath 0 now, .didSelectItemAt indexPath] = some (screen', log) ∧
      screen'.controller = screen.controller.selectDate current
        (current.startOfDay (controller.dayAt current indexPath)) ∧
      screen'.shown = [] ∧ screen'.Sound current format controller := by
  have hcan := h.canShow hday.1 hday.2.2 (Nat.zero_le _) (by simp [hshown])
  have hdate := screen.controller.cellForItemAt_date current format now (screen.dequeue 0) indexPath
  rw [h.sameGrid.blankItems, if_pos hday.2.1, h.sameGrid.dayAt] at hdate
  obtain ⟨screen', log, hrun, hcontroller, hshown'⟩ := run_tap hcan hdate
    (by rwa [Calendar.dayOf_startOfDay, h.sameGrid.minimumDate])
  exact ⟨screen', log, hrun, hcontroller, hshown',
    (pickerMachine current format).run_invariant (fun hs hstep => hs.step hstep) h hrun⟩

theorem run_show (h : screen.Sound current format controller) {indexPath : IndexPath} {r : Nat}
    (hcan : screen.CanShow current indexPath r) (now : Date) :
    ∃ screen', (pickerMachine current format).run screen [.cellForItemAt indexPath r now] =
        some (screen', [none]) ∧
      screen'.shown = (indexPath, r) :: screen.shown ∧ r < screen'.cells.length ∧
      screen'.Sound current format controller := by
  refine ⟨screen.display current format indexPath r now,
    (Machine.run_singleton _).mpr ⟨none, if_pos hcan, rfl⟩, rfl, ?_, h.display hcan now⟩
  have hr : (screen.display current format indexPath r now).cells[r]? = some _ :=
    (display_getElem? hcan.2.2.1 indexPath now r).trans (if_pos rfl)
  exact (List.getElem?_eq_some_iff.mp hr).1

/-! ## The January of 2001 -/

theorem january (hmonth : current.monthOf controller.minimumDate = 24012)
    (hordered : controller.minimumDate ≤ controller.maximumDate) {item : Nat}
    (hitem : 8 ≤ item ∧ item < 39) :
    controller.IsDay current ⟨item, 0⟩ ∧
      controller.dayAt current ⟨item, 0⟩ = Gregorian.months.first 24012 + (item - 8) := by
  have hblank : Gregorian.months.first 24012 % 7 = 1 := by decide +kernel
  have hlength : Gregorian.months.length 24012 = 31 := by decide +kernel
  have hsections := (current.le_months_iff hordered 0).mpr
    (by rwa [Calendar.byAdding_month_zero])
  refine ⟨⟨?_, ?_, ?_⟩, ?_⟩
  · rw [numberOfSections]
    push_cast
    omega
  · simp only [blankItems_eq, hmonth, Nat.cast_zero, add_zero, hblank]
    omega
  · simp only [numberOfItemsInSection_eq, blankItems_eq, hmonth, Nat.cast_zero, add_zero, hblank,
      hlength]
    omega
  · simp only [dayAt, blankItems_eq, hmonth, Nat.cast_zero, add_zero, hblank]
    omega

theorem january_first :
    ninetyDays.IsDay ⟨0⟩ ⟨8, 0⟩ ∧
      Calendar.dayOf ⟨0⟩ ninetyDays.minimumDate = ninetyDays.dayAt ⟨0⟩ ⟨8, 0⟩ := by
  have hday : Calendar.dayOf ⟨0⟩ ninetyDays.minimumDate = Gregorian.months.first 24012 := by
    simp [Calendar.dayOf, ninetyDays, Calendar.referenceDay]
  have hmonth : Calendar.monthOf ⟨0⟩ ninetyDays.minimumDate = 24012 := by
    rw [Calendar.monthOf, hday]
    exact Gregorian.months.monthOf_eq le_rfl (Gregorian.months.first_strictMono (lt_add_one _))
  obtain ⟨hisDay, hdayAt⟩ := january hmonth (by norm_num [ninetyDays])
    (by decide : 8 ≤ 8 ∧ 8 < 39)
  exact ⟨hisDay, by rw [hday, hdayAt]; rfl⟩

/-- From the fifteenth of January on. -/
def fromMidJanuary : CalendarDateRangePickerViewController :=
  { ninetyDays with minimumDate := 14 * 86400 }

theorem dayOf_midJanuary :
    Calendar.dayOf ⟨0⟩ fromMidJanuary.minimumDate = Gregorian.months.first 24012 + 14 := by
  have hfloor : ⌊((14 * 86400 + 0 : ℚ)) / 86400⌋ = 14 := by norm_num
  rw [Calendar.dayOf, fromMidJanuary, hfloor, Calendar.referenceDay]
  ring_nf

theorem midJanuary {item : Nat} (hitem : 8 ≤ item ∧ item < 39) :
    fromMidJanuary.IsDay ⟨0⟩ ⟨item, 0⟩ ∧
      fromMidJanuary.dayAt ⟨0⟩ ⟨item, 0⟩ = Gregorian.months.first 24012 + (item - 8) := by
  have hmonth : Calendar.monthOf ⟨0⟩ fromMidJanuary.minimumDate = 24012 := by
    have hlength : Gregorian.months.length 24012 = 31 := by decide +kernel
    rw [Calendar.monthOf, dayOf_midJanuary]
    apply Gregorian.months.monthOf_eq (by omega)
    rw [Months.length] at hlength
    omega
  exact january hmonth (by norm_num [fromMidJanuary, ninetyDays]) hitem

theorem run_tap_midJanuary (h : screen.Sound ⟨0⟩ toString fromMidJanuary)
    (hshown : screen.shown = []) {item : Nat} (hitem : 22 ≤ item ∧ item < 39) :
    ∃ screen' log, (pickerMachine ⟨0⟩ toString).run screen
        [.cellForItemAt ⟨item, 0⟩ 0 0, .didSelectItemAt ⟨item, 0⟩] = some (screen', log) ∧
      screen'.controller = screen.controller.selectDate ⟨0⟩
        (Calendar.startOfDay ⟨0⟩ (Gregorian.months.first 24012 + (item - 8))) ∧
      screen'.shown = [] ∧ screen'.Sound ⟨0⟩ toString fromMidJanuary := by
  obtain ⟨hday, hdayAt⟩ := midJanuary (⟨by omega, hitem.2⟩ : 8 ≤ item ∧ item < 39)
  have hallowed : Calendar.dayOf ⟨0⟩ fromMidJanuary.minimumDate ≤
      fromMidJanuary.dayAt ⟨0⟩ ⟨item, 0⟩ := by
    rw [hdayAt, dayOf_midJanuary]
    omega
  have hrun := run_tap_day h hshown hday hallowed 0
  rwa [hdayAt] at hrun

/-- The sixteenth and the twentieth, in one cell. -/
def tapTwoDays : List PickerAction :=
  [.cellForItemAt ⟨23, 0⟩ 0 0, .didSelectItemAt ⟨23, 0⟩,
    .cellForItemAt ⟨27, 0⟩ 0 0, .didSelectItemAt ⟨27, 0⟩]

theorem run_tapTwoDays :
    ∃ screen log, (pickerMachine ⟨0⟩ toString).run { controller := fromMidJanuary } tapTwoDays =
        some (screen, log) ∧
      screen.controller = (fromMidJanuary.selectDate ⟨0⟩
        (Calendar.startOfDay ⟨0⟩ (Gregorian.months.first 24012 + 15))).selectDate ⟨0⟩
          (Calendar.startOfDay ⟨0⟩ (Gregorian.months.first 24012 + 19)) ∧
      screen.shown = [] ∧ screen.Sound ⟨0⟩ toString fromMidJanuary := by
  obtain ⟨first, log, hfirst, hcontroller, hshown, hsound⟩ :=
    run_tap_midJanuary sound_init rfl (by decide : 22 ≤ 23 ∧ 23 < 39)
  obtain ⟨second, log', hsecond, hcontroller', hshown', hsound'⟩ :=
    run_tap_midJanuary hsound hshown (by decide : 22 ≤ 27 ∧ 27 < 39)
  refine ⟨second, log ++ log', ?_, ?_, hshown', hsound'⟩
  · exact (Machine.run_append_eq_some _).mpr ⟨first, log, log', hfirst, hsecond, rfl⟩
  · rw [hcontroller', hcontroller]
    rfl

/-! ## Taps on days -/

/-- The day that a tap picks, where it is one on the cell of a day. -/
def tappedDay (current : Calendar) (controller : CalendarDateRangePickerViewController) :
    PickerAction → Option ℤ
  | .didSelectItemAt indexPath =>
    if current.dayOf controller.minimumDate ≤ controller.dayAt current indexPath then
      some (controller.dayAt current indexPath)
    else
      none
  | _ => none

theorem selects_step (h : screen.Sound current format controller) {selection : RangeSelection ℤ}
    (hselects : screen.controller.Selects current selection) {action : PickerAction}
    {event : Option PickerEvent}
    (hday : ∀ indexPath, action = .didSelectItemAt indexPath →
      7 + controller.blankItems current indexPath.sect ≤ indexPath.item)
    (hstep : (pickerMachine current format).step screen action = some (screen', event)) :
    screen'.controller.Selects current
      ((tappedDay current controller action).elim selection selection.tap) := by
  cases action with
  | cellForItemAt indexPath r now =>
    obtain ⟨_, hstep⟩ := Option.ite_none_right_eq_some.mp hstep
    cases hstep
    exact hselects
  | didSelectItemAt indexPath =>
    obtain ⟨_, hselect, hstep⟩ := Option.map_eq_some_iff.mp hstep
    cases hstep
    obtain ⟨cell, _, hdate, hresult⟩ := h.select hselect
    replace hdate := hdate (hday indexPath rfl)
    rcases hresult with ⟨rfl, hbefore⟩ | ⟨date, hcell, hle, rfl⟩
    · have hlt := hbefore _ hdate
      rw [Calendar.dayOf_startOfDay] at hlt
      rw [tappedDay, if_neg (not_le.mpr hlt)]
      exact hselects
    · obtain rfl := Option.some.inj (hdate.symm.trans hcell)
      have htap := hselects.selectDate (current.startOfDay (controller.dayAt current indexPath))
      rw [Calendar.dayOf_startOfDay] at hle htap
      rw [tappedDay, if_pos hle]
      exact htap
  | didEndDisplaying indexPath | didTapDone | didTapCancel =>
    cases hstep
    exact hselects

theorem selects_run {selection : RangeSelection ℤ} {actions : List PickerAction}
    {log : List (Option PickerEvent)} (h : screen.Sound current format controller)
    (hselects : screen.controller.Selects current selection)
    (hdays : ∀ indexPath, .didSelectItemAt indexPath ∈ actions →
      7 + controller.blankItems current indexPath.sect ≤ indexPath.item)
    (hrun : (pickerMachine current format).run screen actions = some (screen', log)) :
    screen'.controller.Selects current
      ((actions.filterMap (tappedDay current controller)).foldl .tap selection) := by
  induction actions generalizing screen selection log with
  | nil =>
    cases hrun
    exact hselects
  | cons action actions ih =>
    obtain ⟨next, event, rest, hstep, hrest, rfl⟩ := (Machine.run_cons_eq_some _).mp hrun
    have hnext := selects_step h hselects
      (fun indexPath haction => hdays indexPath (by rw [haction]; exact List.mem_cons_self)) hstep
    have htail := ih (h.step hstep) hnext
      (fun indexPath hmem => hdays indexPath (List.mem_cons_of_mem _ hmem)) hrest
    rw [List.filterMap_cons]
    cases htapped : tappedDay current controller action <;> rw [htapped] at htail <;> exact htail

/-- **Taps on days pick a range of days**, however the collection view shows and reuses its
cells in between: the selected dates are on the days that the taps pick one after the other. -/
theorem taps_on_days_pick_a_range {selection : RangeSelection ℤ} {actions : List PickerAction}
    {log : List (Option PickerEvent)} (hselects : controller.Selects current selection)
    (hdays : ∀ indexPath, .didSelectItemAt indexPath ∈ actions →
      7 + controller.blankItems current indexPath.sect ≤ indexPath.item)
    (hrun : (pickerMachine current format).run { controller } actions = some (screen, log)) :
    screen.controller.Selects current
      ((actions.filterMap (tappedDay current controller)).foldl .tap selection) :=
  selects_run sound_init hselects hdays hrun

/-- After the two days another start, in the cell of both. -/
def tapThreeDays : List PickerAction :=
  tapTwoDays ++ [.cellForItemAt ⟨24, 0⟩ 0 0, .didSelectItemAt ⟨24, 0⟩]

theorem a_new_range_is_begun :
    ∃ screen log, (pickerMachine ⟨0⟩ toString).run { controller := fromMidJanuary } tapThreeDays =
        some (screen, log) ∧
      screen.controller.Selects ⟨0⟩
        ((tapThreeDays.filterMap (tappedDay ⟨0⟩ fromMidJanuary)).foldl .tap .empty) := by
  obtain ⟨range, log, hrange, _, hshown, hsound⟩ := run_tapTwoDays
  obtain ⟨screen, log', hrun, _⟩ :=
    run_tap_midJanuary hsound hshown (by decide : 22 ≤ 24 ∧ 24 < 39)
  have hboth := (Machine.run_append_eq_some _).mpr ⟨range, log, log', hrange, hrun, rfl⟩
  refine ⟨screen, _, hboth, taps_on_days_pick_a_range ⟨rfl, rfl⟩ ?_ hboth⟩
  intro indexPath hmem
  have hitem : indexPath = ⟨23, 0⟩ ∨ indexPath = ⟨27, 0⟩ ∨ indexPath = ⟨24, 0⟩ := by
    simpa [tapThreeDays, tapTwoDays] using hmem
  rcases hitem with rfl | rfl | rfl
  all_goals exact (midJanuary (by decide)).1.2.1

/-! ## Taps on labels -/

/-- **A label is as good as the day that its cell showed before.** With one day in view and then a
label or a blank item in the cell that it left, a tap on that item picks the day. -/
theorem labels_pick_days {day label : IndexPath} (hday : controller.IsDay current day)
    (hallowed : current.dayOf controller.minimumDate ≤ controller.dayAt current day)
    (hsect : (label.sect : ℤ) < controller.numberOfSections current)
    (hlabel : (label.item : ℤ) < 7 + controller.blankItems current label.sect) (now : Date) :
    ∃ screen log, (pickerMachine current format).run { controller }
        [.cellForItemAt day 0 now, .didEndDisplaying day, .cellForItemAt label 0 now,
          .didSelectItemAt label] = some (screen, log) ∧
      screen.controller =
        controller.selectDate current (current.startOfDay (controller.dayAt current day)) := by
  have hcan : CanShow current { controller } day 0 :=
    ⟨hday.1, hday.2.2, le_rfl, by simp⟩
  have hitems := Gregorian.months.length_pos (current.monthOf controller.minimumDate + label.sect)
  have hcanLabel : CanShow current
      { controller
        cells := [controller.cellForItemAt current format now {} day] } label 0 := by
    refine ⟨hsect, ?_, Nat.zero_le _, by simp⟩
    change (label.item : ℤ) < controller.numberOfItemsInSection current label.sect
    rw [numberOfItemsInSection_eq]
    omega
  have hdate : (controller.cellForItemAt current format now
      (controller.cellForItemAt current format now {} day) label).date =
        some (current.startOfDay (controller.dayAt current day)) := by
    rw [cellForItemAt_date, if_neg (not_le.mpr hlabel), cellForItemAt_date, if_pos hday.2.1]
  obtain ⟨screen, log, hrun, hcontroller, _⟩ :=
    run_tap hcanLabel hdate (by rwa [Calendar.dayOf_startOfDay])
  refine ⟨screen, none :: none :: log, ?_, hcontroller⟩
  refine (Machine.run_cons_eq_some _).mpr ⟨_, none, _, if_pos hcan,
    (Machine.run_cons_eq_some _).mpr ⟨_, none, _, rfl, ?_, rfl⟩, rfl⟩
  simpa [DateRangePickerScreen.display, dequeue] using hrun

theorem sunday_picks_january_first :
    ∃ screen log, (pickerMachine ⟨0⟩ toString).run { controller := ninetyDays }
        [.cellForItemAt ⟨8, 0⟩ 0 0, .didEndDisplaying ⟨8, 0⟩, .cellForItemAt ⟨0, 0⟩ 0 0,
          .didSelectItemAt ⟨0, 0⟩] = some (screen, log) ∧
      screen.controller = ninetyDays.selectDate ⟨0⟩
        (Calendar.startOfDay ⟨0⟩ (ninetyDays.dayAt ⟨0⟩ ⟨8, 0⟩)) := by
  obtain ⟨hday, hallowed⟩ := january_first
  have hblank := ninetyDays.blankItems_nonneg ⟨0⟩ 0
  have hsect : ((⟨0, 0⟩ : IndexPath).sect : ℤ) < ninetyDays.numberOfSections ⟨0⟩ := hday.1
  exact labels_pick_days hday hallowed.le hsect (by simp only; omega) 0

/-! ## Ranges that are picked -/

/-- The day of the date is in the grid and not before the minimum date. -/
def IsPickable (current : Calendar) (controller : CalendarDateRangePickerViewController)
    (date : Date) : Prop :=
  current.dayOf controller.minimumDate ≤ current.dayOf date ∧
    controller.firstDay current ≤ current.dayOf date ∧
    current.dayOf date < controller.endDay current

/-- What is selected is in order and can be picked, and a range can be taken. -/
structure Fine (current : Calendar)
    (controller selecting : CalendarDateRangePickerViewController) : Prop where
  selects : ∃ selection, selecting.Selects current selection
  start : ∀ date ∈ selecting.selectedStartDate, IsPickable current controller date
  stop : ∀ date ∈ selecting.selectedEndDate, IsPickable current controller date
  enabled : selecting.selectedEndDate.isSome → selecting.isEnabled = true

theorem Fine.selectDate {selecting : CalendarDateRangePickerViewController}
    (h : Fine current controller selecting) {date : Date}
    (hdate : IsPickable current controller date) :
    Fine current controller (selecting.selectDate current date) := by
  obtain ⟨selection, hselects⟩ := h.selects
  have hnew : ∀ date' ∈ some date, IsPickable current controller date' := by
    rintro _ ⟨rfl⟩
    exact hdate
  refine ⟨⟨_, hselects.selectDate date⟩, ?_, ?_, ?_⟩ <;>
    unfold CalendarDateRangePickerViewController.selectDate
  · split
    · exact hnew
    · split
      · exact h.start
      · exact hnew
    · exact hnew
  · split
    · exact h.stop
    · split
      · exact hnew
      · exact h.stop
    · simp
  · split
    · exact h.enabled
    next hstop =>
      split
      · simp
      · simp [hstop]
    · simp

theorem Fine.ordered {selecting : CalendarDateRangePickerViewController}
    (h : Fine current controller selecting) {startDate endDate : Date}
    (hstart : selecting.selectedStartDate = some startDate)
    (hstop : selecting.selectedEndDate = some endDate) :
    current.dayOf startDate < current.dayOf endDate := by
  obtain ⟨selection, hselects⟩ := h.selects
  have hlower := hselects.start
  have hupper := hselects.stop
  rw [hstart, Option.map_some] at hlower
  rw [hstop, Option.map_some] at hupper
  cases selection with
  | empty => simp [RangeSelection.lower] at hlower
  | start a => simp [RangeSelection.upper] at hupper
  | range a b hlt =>
    simp only [RangeSelection.lower, RangeSelection.upper, Option.some.injEq] at hlower hupper
    rwa [hlower, hupper]

theorem Fine.exists_start {selecting : CalendarDateRangePickerViewController}
    (h : Fine current controller selecting) {endDate : Date}
    (hstop : selecting.selectedEndDate = some endDate) :
    ∃ startDate, selecting.selectedStartDate = some startDate := by
  obtain ⟨selection, hselects⟩ := h.selects
  have hlower := hselects.start
  have hupper := hselects.stop
  rw [hstop, Option.map_some] at hupper
  cases selection with
  | empty | start a => simp [RangeSelection.upper] at hupper
  | range a b hlt =>
    obtain ⟨startDate, hstart, _⟩ := Option.map_eq_some_iff.mp hlower
    exact ⟨startDate, hstart⟩

theorem selected_of_didPickDateRange {action : PickerAction} {startDate endDate : Date}
    (hstep : (pickerMachine current format).step screen action =
      some (screen', some (.didPickDateRange startDate endDate))) :
    screen.controller.selectedStartDate = some startDate ∧
      screen.controller.selectedEndDate = some endDate := by
  cases action with
  | cellForItemAt indexPath r now =>
    obtain ⟨_, hstep⟩ := Option.ite_none_right_eq_some.mp hstep
    cases hstep
  | didSelectItemAt indexPath =>
    obtain ⟨_, _, hstep⟩ := Option.map_eq_some_iff.mp hstep
    cases hstep
  | didEndDisplaying indexPath | didTapCancel => cases hstep
  | didTapDone =>
    obtain ⟨rfl, hdone⟩ := Prod.mk.inj (Option.some.inj hstep)
    rw [didTapDone] at hdone
    split at hdone
    next hstart hstop =>
      cases hdone
      exact ⟨hstart, hstop⟩
    next => exact absurd hdone (by simp)

theorem fine_step (h : screen.Sound current format controller)
    (hfine : Fine current controller screen.controller) {action : PickerAction}
    {event : Option PickerEvent}
    (hstep : (pickerMachine current format).step screen action = some (screen', event)) :
    Fine current controller screen'.controller := by
  cases action with
  | cellForItemAt indexPath r now =>
    obtain ⟨_, hstep⟩ := Option.ite_none_right_eq_some.mp hstep
    cases hstep
    exact hfine
  | didSelectItemAt indexPath =>
    obtain ⟨_, hselect, hstep⟩ := Option.map_eq_some_iff.mp hstep
    cases hstep
    obtain ⟨cell, hcell, _, ⟨rfl, _⟩ | ⟨date, hdate, hle, rfl⟩⟩ := h.select hselect
    · exact hfine
    · exact hfine.selectDate ⟨hle, h.dates cell hcell date hdate⟩
  | didEndDisplaying indexPath | didTapDone | didTapCancel =>
    cases hstep
    exact hfine

/-- **Every range that is picked is one**: over all runs, also with taps on labels, the end that
the delegate is given is on a later day than the start, both are in the grid and not before
the minimum date, and a range can be taken as soon as it is there. -/
theorem picked_ranges_are_fine {actions : List PickerAction} {log : List (Option PickerEvent)}
    (hstart : Fine current controller controller)
    (hrun : (pickerMachine current format).run { controller } actions = some (screen, log)) :
    (∀ startDate endDate, some (.didPickDateRange startDate endDate) ∈ log →
      current.dayOf startDate < current.dayOf endDate ∧
        IsPickable current controller startDate ∧ IsPickable current controller endDate) ∧
    (screen.controller.selectedEndDate.isSome → screen.controller.isEnabled = true ∧
      ∃ startDate endDate, screen.controller.didTapDone =
        some (.didPickDateRange startDate endDate)) := by
  have hinvariant : ∀ {actions : List PickerAction} {log : List (Option PickerEvent)}
      {screen : DateRangePickerScreen},
      (pickerMachine current format).run { controller } actions = some (screen, log) →
        screen.Sound current format controller ∧ Fine current controller screen.controller :=
    fun hrun => (pickerMachine current format).run_invariant
      (I := fun s => s.Sound current format controller ∧ Fine current controller s.controller)
      (fun hs hstep => ⟨hs.1.step hstep, fine_step hs.1 hs.2 hstep⟩) ⟨sound_init, hstart⟩ hrun
  constructor
  · intro startDate endDate hmem
    obtain ⟨before, action, _, at_, es, next, _, hbefore, hstep⟩ :=
      (pickerMachine current format).exists_step_of_mem hrun hmem
    have hfine := (hinvariant hbefore).2
    obtain ⟨hstartDate, hendDate⟩ := selected_of_didPickDateRange hstep
    exact ⟨hfine.ordered hstartDate hendDate, hfine.start _ hstartDate, hfine.stop _ hendDate⟩
  · intro hsome
    have hfine := (hinvariant hrun).2
    refine ⟨hfine.enabled hsome, ?_⟩
    obtain ⟨endDate, hendDate⟩ := Option.isSome_iff_exists.mp hsome
    obtain ⟨startDate, hstartDate⟩ := hfine.exists_start hendDate
    exact ⟨startDate, endDate, by rw [didTapDone, hstartDate, hendDate]⟩

theorem two_days_are_picked :
    ∃ screen log startDate endDate,
      (pickerMachine ⟨0⟩ toString).run { controller := fromMidJanuary }
        (tapTwoDays ++ [.didTapDone]) = some (screen, log) ∧
      some (.didPickDateRange startDate endDate) ∈ log ∧
      Calendar.dayOf ⟨0⟩ startDate < Calendar.dayOf ⟨0⟩ endDate ∧
      IsPickable ⟨0⟩ fromMidJanuary startDate ∧ IsPickable ⟨0⟩ fromMidJanuary endDate ∧
      screen.controller.isEnabled = true := by
  obtain ⟨screen, log, hrun, hcontroller, _⟩ := run_tapTwoDays
  have hbefore : isBefore ⟨0⟩ (Calendar.startOfDay ⟨0⟩ (Gregorian.months.first 24012 + 15))
      (Calendar.startOfDay ⟨0⟩ (Gregorian.months.first 24012 + 19)) = true := by
    simp [isBefore, Calendar.dayOf_startOfDay]
  have hselected : screen.controller.selectedStartDate =
        some (Calendar.startOfDay ⟨0⟩ (Gregorian.months.first 24012 + 15)) ∧
      screen.controller.selectedEndDate =
        some (Calendar.startOfDay ⟨0⟩ (Gregorian.months.first 24012 + 19)) := by
    simp [hcontroller, CalendarDateRangePickerViewController.selectDate, fromMidJanuary, ninetyDays,
      hbefore]
  have hdone := didTapDone.eq_def screen.controller
  simp only [hselected.1, hselected.2] at hdone
  have hstep : (pickerMachine ⟨0⟩ toString).step screen .didTapDone = some (screen, _) :=
    congrArg (fun event => some (screen, event)) hdone
  have hboth := (Machine.run_concat_eq_some _).mpr ⟨screen, log, _, hrun, hstep, rfl⟩
  have hfine : Fine ⟨0⟩ fromMidJanuary fromMidJanuary :=
    ⟨⟨.empty, rfl, rfl⟩, by simp [fromMidJanuary, ninetyDays], by simp [fromMidJanuary, ninetyDays],
      by simp [fromMidJanuary, ninetyDays]⟩
  obtain ⟨hpicked, henabled⟩ := picked_ranges_are_fine hfine hboth
  obtain ⟨hlt, hstart, hend⟩ := hpicked _ _ List.mem_concat_self
  exact ⟨screen, _, _, _, hboth, List.mem_concat_self, hlt, hstart, hend,
    (henabled (by rw [hselected.2]; rfl)).1⟩

end DateRangePickerScreen

end FinanceApp
