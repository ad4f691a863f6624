import FinanceApp.DateRangePicker.Selection

/-!
# What the cells look like

Cells are drawn when they are asked for and never after. They still show at all times what is
selected then.
-/

namespace FinanceApp

namespace CalendarDateRangePickerCell

/-- The cell looks like a day of the range. -/
def IsHighlighted (cell : CalendarDateRangePickerCell) : Prop :=
  cell.isHighlighted = true ∨ cell.roundHighlightView = true

/-- The cell has no decoration. -/
structure IsPlain (cell : CalendarDateRangePickerCell) : Prop where
  isHighlighted : cell.isHighlighted = false
  selectedView : cell.selectedView = false
  halfBackgroundView : cell.halfBackgroundView = none
  roundHighlightView : cell.roundHighlightView = false

end CalendarDateRangePickerCell

namespace CalendarDateRangePickerViewController

variable {current : Calendar} {self : CalendarDateRangePickerViewController}
  {selection : RangeSelection ℤ} {cell : CalendarDateRangePickerCell}

/-- What the selection says of the look of a day. -/
structure Shows (selection : RangeSelection ℤ) (minimumDay day : ℤ)
    (cell : CalendarDateRangePickerCell) : Prop where
  selectedView : cell.selectedView = true ↔ selection.IsEnd day
  highlighted : cell.IsHighlighted ↔ selection.Covers day
  textColor : cell.textColor =
    if cell.selectedView then .white
    else if day < minimumDay then .disabledColor else .defaultTextColor

theorem shows_plain {minimumDay day : ℤ} (hplain : cell.IsPlain)
    (hcolor : cell.textColor = if day < minimumDay then .disabledColor else .defaultTextColor)
    (hend : ¬selection.IsEnd day) (hcovers : ¬selection.Covers day) :
    Shows selection minimumDay day cell where
  selectedView := iff_of_false (by simp [hplain.selectedView]) hend
  highlighted := iff_of_false
    (by simp [CalendarDateRangePickerCell.IsHighlighted, hplain.isHighlighted,
      hplain.roundHighlightView]) hcovers
  textColor := by simp [hplain.selectedView, hcolor]

theorem shows_inside {minimumDay day : ℤ} {shown : CalendarDateRangePickerCell}
    (hcolor : cell.textColor = if day < minimumDay then .disabledColor else .defaultTextColor)
    (hview : shown.selectedView = false) (htext : shown.textColor = cell.textColor)
    (hshown : shown.IsHighlighted) (hend : ¬selection.IsEnd day)
    (hcovers : selection.Covers day) : Shows selection minimumDay day shown where
  selectedView := iff_of_false (by simp [hview]) hend
  highlighted := iff_of_true hshown hcovers
  textColor := by simp [hview, htext, hcolor]

theorem shows_decorate_start (hplain : cell.IsPlain) {minimumDay : ℤ} {date startDate : Date}
    (hstart : self.selectedStartDate = some startDate) (hstop : self.selectedEndDate = none)
    (hcolor : cell.textColor =
      if current.dayOf date < minimumDay then .disabledColor else .defaultTextColor)
    (dayOfMonth : ℤ) :
    Shows (.start (current.dayOf startDate)) minimumDay (current.dayOf date)
      (self.decorate current cell dayOfMonth date) := by
  by_cases hend : current.dayOf date = current.dayOf startDate
  · have hselect : self.decorate current cell dayOfMonth date = cell.select := by
      simp [decorate, hstart, hstop, areSameDay, hend]
    rw [hselect, hend]
    refine ⟨iff_of_true rfl (Or.inl rfl), iff_of_false ?_ id, rfl⟩
    simp [CalendarDateRangePickerCell.select, CalendarDateRangePickerCell.IsHighlighted,
      hplain.isHighlighted, hplain.roundHighlightView]
  · have hsame : self.decorate current cell dayOfMonth date = cell := by
      simp [decorate, hstart, hstop, areSameDay, hend]
    rw [hsame]
    exact shows_plain hplain hcolor
      (by simp [RangeSelection.IsEnd, RangeSelection.lower, RangeSelection.upper, Ne.symm hend])
      id

theorem shows_decorate_range (hplain : cell.IsPlain) {minimumDay : ℤ}
    {date startDate endDate : Date} (hstart : self.selectedStartDate = some startDate)
    (hstop : self.selectedEndDate = some endDate)
    (hlt : current.dayOf startDate < current.dayOf endDate)
    (hcolor : cell.textColor =
      if current.dayOf date < minimumDay then .disabledColor else .defaultTextColor)
    (dayOfMonth : ℤ) :
    Shows (.range (current.dayOf startDate) (current.dayOf endDate) hlt) minimumDay
      (current.dayOf date) (self.decorate current cell dayOfMonth date) := by
  have houtside : current.dayOf date < current.dayOf startDate ∨
      current.dayOf endDate < current.dayOf date →
      Shows (.range (current.dayOf startDate) (current.dayOf endDate) hlt) minimumDay
        (current.dayOf date) (self.decorate current cell dayOfMonth date) := by
    intro hout
    have hsame : self.decorate current cell dayOfMonth date = cell := by
      simp only [decorate, hstart, hstop, Option.any_some, isBefore, areSameDay,
        decide_eq_true_eq]
      rw [if_neg (by omega), if_neg (by omega), if_neg (by omega)]
    rw [hsame]
    apply shows_plain hplain hcolor
    · simp only [RangeSelection.IsEnd, RangeSelection.lower, RangeSelection.upper,
        Option.some.injEq]
      omega
    · simp only [RangeSelection.Covers]
      omega
  rcases lt_trichotomy (current.dayOf date) (current.dayOf startDate) with hbefore | hend | hafter
  · exact houtside (Or.inl hbefore)
  · have hselect : self.decorate current cell dayOfMonth date = cell.select.highlightRight := by
      simp [decorate, hstart, hstop, areSameDay, isBefore, hend]
    rw [hselect, hend]
    exact ⟨iff_of_true rfl (Or.inl rfl), iff_of_true (Or.inr rfl) ⟨Or.inr rfl, Or.inl hlt⟩, rfl⟩
  rcases lt_trichotomy (current.dayOf date) (current.dayOf endDate) with hbefore | hend | hbehind
  · have hnot : ¬RangeSelection.IsEnd
        (.range (current.dayOf startDate) (current.dayOf endDate) hlt) (current.dayOf date) := by
      simp only [RangeSelection.IsEnd, RangeSelection.lower, RangeSelection.upper,
        Option.some.injEq]
      omega
    simp only [decorate, hstart, hstop, Option.any_some, isBefore, hafter, hbefore, decide_true,
      and_self, if_true]
    -- The first and the last day of a month have a round end.
    split_ifs <;>
      refine shows_inside hcolor hplain.selectedView rfl ?_ hnot ⟨Or.inl hafter, Or.inl hbefore⟩
    · exact Or.inr rfl
    · exact Or.inr rfl
    · exact Or.inl rfl
  · have hselect : self.decorate current cell dayOfMonth date = cell.select.highlightLeft := by
      simp [decorate, hstart, hstop, areSameDay, isBefore, hend, hlt.ne']
    rw [hselect, hend]
    exact ⟨iff_of_true rfl (Or.inr rfl), iff_of_true (Or.inr rfl) ⟨Or.inl hlt, Or.inr rfl⟩, rfl⟩
  · exact houtside (Or.inr hbehind)

theorem shows_decorate (h : self.Selects current selection) (hplain : cell.IsPlain)
    {minimumDay day : ℤ} {date : Date} (hday : current.dayOf date = day)
    (hcolor : cell.textColor = if day < minimumDay then .disabledColor else .defaultTextColor)
    (dayOfMonth : ℤ) :
    Shows selection minimumDay day (self.decorate current cell dayOfMonth date) := by
  subst hday
  obtain ⟨hstart, hstop⟩ := h
  cases selection with
  | empty =>
    simp only [RangeSelection.lower, RangeSelection.upper, Option.map_eq_none_iff] at hstart hstop
    have hsame : self.decorate current cell dayOfMonth date = cell := by
      simp [decorate, hstart, hstop]
    rw [hsame]
    exact shows_plain hplain hcolor
      (by simp [RangeSelection.IsEnd, RangeSelection.lower, RangeSelection.upper]) id
  | start a =>
    simp only [RangeSelection.lower, RangeSelection.upper, Option.map_eq_none_iff,
      Option.map_eq_some_iff] at hstart hstop
    obtain ⟨startDate, hstart, rfl⟩ := hstart
    exact shows_decorate_start hplain hstart hstop hcolor dayOfMonth
  | range a b hlt =>
    simp only [RangeSelection.lower, RangeSelection.upper, Option.map_eq_some_iff] at hstart hstop
    obtain ⟨startDate, hstart, rfl⟩ := hstart
    obtain ⟨endDate, hstop, rfl⟩ := hstop
    exact shows_decorate_range hplain hstart hstop hlt hcolor dayOfMonth

end CalendarDateRangePickerViewController

namespace DateRangePickerScreen

open CalendarDateRangePickerViewController

variable {current : Calendar} {format : ℤ → String} {screen screen' : DateRangePickerScreen}
  {controller : CalendarDateRangePickerViewController}

theorem exists_selects_step (h : screen.Sound current format controller)
    (hselects : ∃ selection, screen.controller.Selects current selection) {action : PickerAction}
    {event : Option PickerEvent}
    (hstep : (pickerMachine current format).step screen action = some (screen', event)) :
    ∃ selection, screen'.controller.Selects current selection := by
  cases action with
  | cellForItemAt indexPath r now =>
    obtain ⟨_, hstep⟩ := Option.ite_none_right_eq_some.mp hstep
    cases hstep
    exact hselects
  | didSelectItemAt indexPath =>
    obtain ⟨_, hselect, hstep⟩ := Option.map_eq_some_iff.mp hstep
    cases hstep
    obtain ⟨cell, _, _, ⟨rfl, _⟩ | ⟨date, _, _, rfl⟩⟩ := h.select hselect
    · exact hselects
    · obtain ⟨selection, hselects⟩ := hselects
      exact ⟨_, hselects.selectDate date⟩
  | didEndDisplaying indexPath | didTapDone | didTapCancel =>
    cases hstep
    exact hselects

/-- **What is shown is what is selected**: at each moment of each run, whatever the cells showed
before, a day is circled just if it is an end of the selection, and gray just if the range
covers it; labels and blank items are plain. -/
theorem cells_show_the_selection {selection : RangeSelection ℤ} {actions : List PickerAction}
    {log : List (Option PickerEvent)} (hselects : controller.Selects current selection)
    (hrun : (pickerMachine current format).run { controller } actions = some (screen, log)) :
    ∃ selection', screen.controller.Selects current selection' ∧
      ∀ place ∈ screen.shown, ∃ cell, screen.cells[place.2]? = some cell ∧
        (7 + controller.blankItems current place.1.sect ≤ place.1.item →
          Shows selection' (current.dayOf controller.minimumDate)
            (controller.dayAt current place.1) cell) ∧
        ((place.1.item : ℤ) < 7 + controller.blankItems current place.1.sect → cell.IsPlain) := by
  obtain ⟨hsound, selection', hselects'⟩ := (pickerMachine current format).run_invariant
    (I := fun s => s.Sound current format controller ∧
      ∃ selection, s.controller.Selects current selection)
    (fun hs hstep => ⟨hs.1.step hstep, exists_selects_step hs.1 hs.2 hstep⟩)
    ⟨sound_init, selection, hselects⟩ hrun
  refine ⟨selection', hselects', fun place hplace => ?_⟩
  obtain ⟨dequeued, now, hcell⟩ := hsound.shown place hplace
  refine ⟨_, hcell, fun hday => ?_, fun hlabel => ?_⟩
  · rw [← hsound.sameGrid.blankItems] at hday
    rw [cellForItemAt_of_day _ _ _ _ hday, ← hsound.sameGrid.dayAt, ← hsound.sameGrid.minimumDate]
    exact shows_decorate hselects' ⟨rfl, rfl, rfl, rfl⟩ (current.dayOf_startOfDay _) rfl _
  · rw [← hsound.sameGrid.blankItems] at hlabel
    rw [cellForItemAt_of_not_day _ _ _ _ hlabel]
    exact ⟨rfl, rfl, rfl, rfl⟩

/-- After the sixteenth and the twentieth were tapped they are shown with the eighteenth, in the
cell in which the tenth was, which cannot be picked and is shown again. -/
def showFourDays : List PickerAction :=
  [.cellForItemAt ⟨23, 0⟩ 0 0, .cellForItemAt ⟨17, 0⟩ 1 0, .didEndDisplaying ⟨17, 0⟩,
    .cellForItemAt ⟨25, 0⟩ 1 0, .cellForItemAt ⟨27, 0⟩ 2 0, .cellForItemAt ⟨17, 0⟩ 3 0]

theorem run_show_midJanuary (h : screen.Sound ⟨0⟩ toString fromMidJanuary) {item r : Nat}
    (hitem : 8 ≤ item ∧ item < 39) (hr : r ≤ screen.cells.length)
    (hfree : ∀ place ∈ screen.shown, place.1 ≠ ⟨item, 0⟩ ∧ place.2 ≠ r) :
    ∃ screen', (pickerMachine ⟨0⟩ toString).run screen [.cellForItemAt ⟨item, 0⟩ r 0] =
        some (screen', [none]) ∧
      screen'.shown = (⟨item, 0⟩, r) :: screen.shown ∧ r < screen'.cells.length ∧
      screen'.Sound ⟨0⟩ toString fromMidJanuary := by
  obtain ⟨hsect, -, hlt⟩ := (midJanuary hitem).1
  exact run_show h (h.canShow hsect hlt hr hfree) 0

theorem run_showFourDays (h : screen.Sound ⟨0⟩ toString fromMidJanuary)
    (hshown : screen.shown = []) :
    ∃ screen' log, (pickerMachine ⟨0⟩ toString).run screen showFourDays = some (screen', log) ∧
      screen'.shown = [(⟨17, 0⟩, 3), (⟨27, 0⟩, 2), (⟨25, 0⟩, 1), (⟨23, 0⟩, 0)] := by
  obtain ⟨s₁, hrun₁, hshown₁, hr₁, h₁⟩ :=
    run_show_midJanuary h (by decide : 8 ≤ 23 ∧ 23 < 39) (Nat.zero_le _) (by simp [hshown])
  obtain ⟨s₂, hrun₂, hshown₂, hr₂, h₂⟩ :=
    run_show_midJanuary h₁ (by decide : 8 ≤ 17 ∧ 17 < 39) hr₁ (by simp [hshown₁, hshown])
  let s₃ : DateRangePickerScreen :=
    { s₂ with shown := s₂.shown.filter fun place => place.1 ≠ ⟨17, 0⟩ }
  have hend : (pickerMachine ⟨0⟩ toString).step s₂ (.didEndDisplaying ⟨17, 0⟩) = some (s₃, none) :=
    rfl
  have hshown₃ : s₃.shown = [(⟨23, 0⟩, 0)] := by simp [s₃, hshown₂, hshown₁, hshown]
  obtain ⟨s₄, hrun₄, hshown₄, hr₄, h₄⟩ :=
    run_show_midJanuary (h₂.step hend) (by decide : 8 ≤ 25 ∧ 25 < 39) hr₂.le
      (by simp [hshown₃])
  obtain ⟨s₅, hrun₅, hshown₅, hr₅, h₅⟩ :=
    run_show_midJanuary h₄ (by decide : 8 ≤ 27 ∧ 27 < 39) hr₄ (by simp [hshown₄, hshown₃])
  obtain ⟨s₆, hrun₆, hshown₆, _⟩ :=
    run_show_midJanuary h₅ (by decide : 8 ≤ 17 ∧ 17 < 39) hr₅
      (by simp [hshown₅, hshown₄, hshown₃])
  have hrun₃ := (Machine.run_singleton _).mpr ⟨none, hend, rfl⟩
  have hjoin := fun {a b c : DateRangePickerScreen} {as bs : List PickerAction}
    {log log' : List (Option PickerEvent)}
    (hab : (pickerMachine ⟨0⟩ toString).run a as = some (b, log))
    (hbc : (pickerMachine ⟨0⟩ toString).run b bs = some (c, log')) =>
      (Machine.run_append_eq_some _).mpr ⟨b, log, log', hab, hbc, rfl⟩
  exact ⟨s₆, _, hjoin hrun₁ (hjoin hrun₂ (hjoin hrun₃ (hjoin hrun₄ (hjoin hrun₅ hrun₆)))),
    by rw [hshown₆, hshown₅, hshown₄, hshown₃]⟩

theorem cells_show_a_range :
    ∃ screen log, (pickerMachine ⟨0⟩ toString).run { controller := fromMidJanuary }
        (tapTwoDays ++ showFourDays) = some (screen, log) ∧
      screen.shown = [(⟨17, 0⟩, 3), (⟨27, 0⟩, 2), (⟨25, 0⟩, 1), (⟨23, 0⟩, 0)] ∧
      ∃ selection, screen.controller.Selects ⟨0⟩ selection ∧
        ∀ place ∈ screen.shown, ∃ cell, screen.cells[place.2]? = some cell ∧
          (7 + fromMidJanuary.blankItems ⟨0⟩ place.1.sect ≤ place.1.item →
            Shows selection (Calendar.dayOf ⟨0⟩ fromMidJanuary.minimumDate)
              (fromMidJanuary.dayAt ⟨0⟩ place.1) cell) ∧
          ((place.1.item : ℤ) < 7 + fromMidJanuary.blankItems ⟨0⟩ place.1.sect →
            cell.IsPlain) := by
  obtain ⟨range, log, hrange, _, hshown, hsound⟩ := run_tapTwoDays
  obtain ⟨screen, log', hrun, hfour⟩ := run_showFourDays hsound hshown
  have hboth := (Machine.run_append_eq_some _).mpr ⟨range, log, log', hrange, hrun, rfl⟩
  have hselects : fromMidJanuary.Selects ⟨0⟩ .empty := ⟨rfl, rfl⟩
  exact ⟨screen, _, hboth, hfour, cells_show_the_selection hselects hboth⟩

end DateRangePickerScreen

end FinanceApp
