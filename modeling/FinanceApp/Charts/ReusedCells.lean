import FinanceApp.Charts.BarChartCell

/-!
# Reused cells of bar charts

What a cell shows depends on the charts that it was configured for before: the range and
the labels of the last one with several groups stay. Numbers are exact here, with nothing
rounded.
-/

namespace FinanceApp

namespace ATCBarChart

/-- The range that a chart of several groups leaves on the axis. -/
def range (chart : ATCBarChart) : ℚ × ℚ :=
  if chart.labels = [] then (-1, 1) else (0, chart.axisEnd id)

def lastGrouped (charts : List ATCBarChart) : Option ATCBarChart :=
  (charts.filter fun chart => chart.IsGrouped).getLast?

def IsNonnegative (chart : ATCBarChart) : Prop :=
  ∀ s i y, chart.number? s i = some y → 0 ≤ y

theorem lastGrouped_concat (charts : List ATCBarChart) (chart : ATCBarChart) :
    lastGrouped (charts ++ [chart]) =
      if chart.IsGrouped then some chart else lastGrouped charts := by
  rw [lastGrouped, List.filter_append]
  split
  next h => simp [h]
  next h => simp [h, lastGrouped]

theorem axisEnd_pos {chart : ATCBarChart} (h : chart.labels ≠ []) : 0 < chart.axisEnd id := by
  have hlabels : (0 : ℚ) < chart.labels.length := by
    exact_mod_cast List.length_pos_iff.mpr h
  rw [axisEnd_id]
  positivity

theorem yMax_le_leftAxisMax {chart : ATCBarChart} {set : BarChartDataSet}
    (h : set ∈ (chart.data id).dataSets) : set.yMax ≤ (chart.data id).leftAxisMax := by
  rw [data] at h ⊢
  by_cases hgrouped : chart.IsGrouped
  · rw [if_pos hgrouped] at h ⊢
    refine BarChartData.yMax_le_groupBars id ?_ h
    rwa [narrowData_dataSets, List.length_map]
  · rw [if_neg hgrouped] at h ⊢
    rw [plainData_dataSets] at h
    exact (BarChartData.leftAxisMax_le_iff.mp le_rfl).2 set h

theorem data_yMax (chart : ATCBarChart) (s : Nat) :
    (chart.data id).dataSets[s]?.map BarChartDataSet.yMax =
      chart.groups[s]?.map fun group => (BarChartDataSet.init (chart.entries id group)).yMax := by
  rw [data]
  split
  next hgrouped =>
    have hcount : 1 < (chart.narrowData id).dataSets.length := by
      rwa [narrowData_dataSets, List.length_map]
    rw [BarChartData.groupBars_dataSets id hcount, List.getElem?_mapIdx, narrowData_dataSets,
      List.getElem?_map, Option.map_map, Option.map_map]
    rfl
  next => rw [plainData_dataSets, List.getElem?_map, Option.map_map]; rfl

theorem le_leftAxisMax {chart : ATCBarChart} {s i : Nat} {y : ℚ}
    (h : chart.number? s i = some y) : y ≤ (chart.data id).leftAxisMax := by
  obtain ⟨group, hgroup, hy⟩ := Option.bind_eq_some_iff.mp h
  have hset := data_yMax chart s
  rw [hgroup, Option.map_some] at hset
  obtain ⟨set, hmem, hmax⟩ := Option.map_eq_some_iff.mp hset
  have hentry : ({ x := i, y } : BarChartDataEntry) ∈ chart.entries id group :=
    List.mem_of_getElem? (i := i) (by rw [entries, List.getElem?_mapIdx, hy]; rfl)
  calc y ≤ (BarChartDataSet.init (chart.entries id group)).yMax :=
        (BarChartDataSet.yMax_le_iff.mp le_rfl).2 _ hentry
    _ = set.yMax := hmax.symm
    _ ≤ (chart.data id).leftAxisMax := yMax_le_leftAxisMax (List.mem_of_getElem? hmem)

end ATCBarChart

namespace BarChartView

/-- A bar lies between the ends of both axes. -/
def Shows (view : BarChartView) (data : BarChartData) (e : BarChartDataEntry) : Prop :=
  view.xAxis.minimum ≤ data.left e ∧ data.right e ≤ view.xAxis.maximum ∧
    view.leftAxis.minimum ≤ e.y ∧ e.y ≤ view.leftAxis.maximum

def ShowsEveryBar (view : BarChartView) : Prop :=
  ∀ data, view.data = some data → ∀ s i e, data.entryForIndex s i = some e → view.Shows data e

/-- What a cell keeps of the charts that it was configured for. -/
structure Remembers (charts : List ATCBarChart) (view : BarChartView) : Prop where
  top_free : view.leftAxis.customAxisMax = false
  spaceMin : view.xAxis.spaceMin = 1 / 2
  spaceMax : view.xAxis.spaceMax = 1 / 2
  fresh : ATCBarChart.lastGrouped charts = none →
    view.xAxis.customAxisMin = false ∧ view.xAxis.customAxisMax = false
  grouped : ∀ chart, ATCBarChart.lastGrouped charts = some chart →
    view.xAxis.customAxisMin = true ∧ view.xAxis.customAxisMax = true ∧
      (view.xAxis.minimum, view.xAxis.maximum) = chart.range ∧
      view.xAxis.valueFormatter = some ⟨chart.labels⟩

theorem init_remembers : Remembers [] init where
  top_free := rfl
  spaceMin := rfl
  spaceMax := rfl
  fresh := fun _ => ⟨rfl, rfl⟩
  grouped := fun _ h => nomatch h

end BarChartView

/-! ## What is kept -/

theorem AxisBase.calculate_of_custom {axis : AxisBase} (hmin : axis.customAxisMin = true)
    (hmax : axis.customAxisMax = true) (hne : axis.minimum < axis.maximum) (a b : ℚ) :
    axis.calculate id a b = axis := by
  have hrange : |axis.maximum - axis.minimum| ≠ 0 := by
    rw [abs_ne_zero]
    linarith
  cases axis
  subst hmin hmax
  exact if_neg hrange

theorem AxisBase.calculate_frame (axis : AxisBase) (a b : ℚ) :
    axis.calculate id a b =
      { axis with
        minimum := (axis.calculate id a b).minimum
        maximum := (axis.calculate id a b).maximum } := by
  rw [calculate]
  split_ifs <;> rfl

namespace ATCBarChart

theorem range_lt (chart : ATCBarChart) : chart.range.1 < chart.range.2 := by
  rw [range]
  split
  next => norm_num
  next h => exact axisEnd_pos h

theorem calculate_prepare {chart : ATCBarChart} (h : chart.IsGrouped) (axis : AxisBase) (a b : ℚ) :
    (chart.prepare id axis).calculate id a b =
      { chart.prepare id axis with minimum := chart.range.1, maximum := chart.range.2 } := by
  rw [prepare, if_pos h, range]
  by_cases hlabels : chart.labels = []
  · have hend : chart.axisEnd id = 0 := by simp [axisEnd_id, hlabels]
    simp [AxisBase.calculate, hlabels, hend]
  · have hpos := axisEnd_pos hlabels
    rw [if_neg hlabels]
    exact AxisBase.calculate_of_custom rfl rfl hpos a b

end ATCBarChart

namespace BarChartView

variable {charts : List ATCBarChart} {chart : ATCBarChart} {view view' : BarChartView}

theorem Remembers.custom_eq (h : Remembers charts view) :
    view.xAxis.customAxisMin = view.xAxis.customAxisMax := by
  cases hlast : ATCBarChart.lastGrouped charts with
  | none => rw [(h.fresh hlast).1, (h.fresh hlast).2]
  | some chart => rw [(h.grouped chart hlast).1, (h.grouped chart hlast).2.1]

theorem Remembers.xAxis (h : Remembers charts view)
    (hview : ATCBarChartAdapter.configure id view chart = some view') :
    view'.xAxis =
      (chart.prepare id view.xAxis).calculate id (chart.data id).xMin (chart.data id).xMax := by
  rw [ATCBarChartAdapter.configure_eq hview]
  refine AxisBase.calculate_calculate ?_ _ _
  rw [ATCBarChart.prepare]
  split
  next => rfl
  next => exact h.custom_eq

theorem Remembers.xAxis_kept {last : ATCBarChart} (h : Remembers charts view)
    (hview : ATCBarChartAdapter.configure id view chart = some view') (hgrouped : ¬chart.IsGrouped)
    (hlast : ATCBarChart.lastGrouped charts = some last) : view'.xAxis = view.xAxis := by
  obtain ⟨hmin, hmax, hrange, -⟩ := h.grouped last hlast
  have hlt := last.range_lt
  rw [← hrange] at hlt
  rw [h.xAxis hview, ATCBarChart.prepare, if_neg hgrouped]
  exact AxisBase.calculate_of_custom hmin hmax hlt _ _

theorem Remembers.leftAxis (h : Remembers charts view)
    (hview : ATCBarChartAdapter.configure id view chart = some view') :
    view'.leftAxis =
      { view.leftAxis with
        customAxisMin := true
        minimum := 0
        maximum := if 0 < (chart.data id).leftAxisMax then (chart.data id).leftAxisMax * (11 / 10)
          else 1 } := by
  rw [ATCBarChartAdapter.configure_eq hview]
  exact AxisBase.calculateY_zero h.top_free _ _

theorem Remembers.configure (h : Remembers charts view)
    (hview : ATCBarChartAdapter.configure id view chart = some view') :
    Remembers (charts ++ [chart]) view' := by
  have hx := h.xAxis hview
  have hlast := ATCBarChart.lastGrouped_concat charts chart
  by_cases hgrouped : chart.IsGrouped
  · rw [ATCBarChart.calculate_prepare hgrouped, ATCBarChart.prepare, if_pos hgrouped] at hx
    rw [if_pos hgrouped] at hlast
    exact
      { top_free := by rw [h.leftAxis hview]; exact h.top_free
        spaceMin := by rw [hx]; exact h.spaceMin
        spaceMax := by rw [hx]; exact h.spaceMax
        fresh := fun hnone => absurd (hlast.symm.trans hnone) (Option.some_ne_none _)
        grouped := fun last hsome => by
          obtain rfl := Option.some.inj (hlast.symm.trans hsome)
          rw [hx]
          exact ⟨rfl, rfl, rfl, rfl⟩ }
  · rw [ATCBarChart.prepare, if_neg hgrouped, AxisBase.calculate_frame] at hx
    rw [if_neg hgrouped] at hlast
    exact
      { top_free := by rw [h.leftAxis hview]; exact h.top_free
        spaceMin := by rw [hx]; exact h.spaceMin
        spaceMax := by rw [hx]; exact h.spaceMax
        fresh := fun hnone => by
          rw [hx]
          exact h.fresh (hlast.symm.trans hnone)
        grouped := fun last hsome => by
          have hbefore := hlast.symm.trans hsome
          rw [h.xAxis_kept hview hgrouped hbefore]
          exact h.grouped last hbefore }

theorem remembers_run
    (h : charts.foldlM (ATCBarChartAdapter.configure id) init = some view) :
    Remembers charts view := by
  induction charts using List.reverseRecOn generalizing view with
  | nil =>
    cases h
    exact init_remembers
  | append_singleton charts chart ih =>
    obtain ⟨before, hbefore, hview⟩ := Loops.foldlM_concat_eq_some.mp h
    exact (ih hbefore).configure hview

/-! ## What is shown -/

theorem Remembers.leftAxis_shows (h : Remembers charts view)
    (hview : ATCBarChartAdapter.configure id view chart = some view') {s i : Nat} {y : ℚ}
    (hy : chart.number? s i = some y) :
    view'.leftAxis.minimum ≤ y ∧ y ≤ view'.leftAxis.maximum ↔ 0 ≤ y := by
  have hle := ATCBarChart.le_leftAxisMax hy
  rw [h.leftAxis hview]
  simp only [and_iff_left_iff_imp]
  intro hzero
  split
  next hpos => linarith
  next hneg => linarith

theorem Remembers.fresh_range (h : Remembers charts view)
    (hview : ATCBarChartAdapter.configure id view chart = some view') (hgrouped : ¬chart.IsGrouped)
    (hlast : ATCBarChart.lastGrouped charts = none) :
    view'.xAxis.minimum ≤ (chart.data id).xMin - 1 / 2 ∧
      (chart.data id).xMax + 1 / 2 ≤ view'.xAxis.maximum := by
  obtain ⟨hmin, hmax⟩ := h.fresh hlast
  rw [h.xAxis hview, ATCBarChart.prepare, if_neg hgrouped, AxisBase.calculate, h.spaceMin,
    h.spaceMax, hmin, hmax]
  simp only [Bool.false_eq_true, if_false, id_eq]
  split <;> constructor <;> dsimp only <;> linarith

/-- The range of the horizontal axis has place for a bar. -/
def Fits (range : ℚ × ℚ) (data : BarChartData) (e : BarChartDataEntry) : Prop :=
  range.1 ≤ data.left e ∧ data.right e ≤ range.2

theorem fits_grouped (hgrouped : chart.IsGrouped) {s i : Nat} {e : BarChartDataEntry}
    (he : (chart.data id).entryForIndex s i = some e) : Fits chart.range (chart.data id) e := by
  rw [ATCBarChart.data_entry_id] at he
  obtain ⟨y, hy, rfl⟩ := Option.map_eq_some_iff.mp he
  obtain ⟨hs, hi⟩ := ATCBarChart.number_bounds hy
  have hset : (s : ℚ) + 1 ≤ chart.groups.length := by exact_mod_cast hs
  have hlabel : (i : ℚ) + 1 ≤ chart.labels.length := by exact_mod_cast hi
  have hlabels : chart.labels ≠ [] := List.ne_nil_of_length_pos (Nat.zero_lt_of_lt hi)
  have hwidth : (0 : ℚ) ≤ chart.groups.length * (13 / 100) + 8 / 100 := by positivity
  have hgroups := mul_le_mul_of_nonneg_right hlabel hwidth
  have hbefore := mul_nonneg (Nat.cast_nonneg (α := ℚ) i) hwidth
  have hfirst : (0 : ℚ) ≤ s := Nat.cast_nonneg s
  simp only [Fits, ATCBarChart.range, if_neg hlabels, BarChartData.left, BarChartData.right,
    ATCBarChart.data_barWidth, ATCBarChart.middle, if_pos hgrouped, ATCBarChart.axisEnd_id, id_eq]
  constructor <;> linarith

theorem fits_fresh (hgrouped : ¬chart.IsGrouped) {s i : Nat} {e : BarChartDataEntry}
    (he : (chart.data id).entryForIndex s i = some e) :
    Fits ((chart.data id).xMin - 1 / 2, (chart.data id).xMax + 1 / 2) (chart.data id) e := by
  have hwidth := ATCBarChart.data_barWidth id chart
  rw [if_neg hgrouped, id] at hwidth
  rw [Fits, BarChartData.left, BarChartData.right, hwidth]
  rw [ATCBarChart.data, if_neg hgrouped] at he ⊢
  obtain ⟨set, hset, hmem⟩ := Option.bind_eq_some_iff.mp he
  have hsets := List.mem_of_getElem? hset
  have hxMin := (BarChartData.le_xMin_iff.mp (le_refl (chart.plainData id).xMin)).2 set
  have hxMax := (BarChartData.xMax_le_iff.mp (le_refl (chart.plainData id).xMax)).2 set
  rw [ATCBarChart.plainData_dataSets] at hsets
  obtain ⟨group, hgroup, rfl⟩ := List.mem_map.mp hsets
  rw [BarChartDataSet.init_entries] at hmem
  have hentry := List.mem_of_getElem? hmem
  have hleft := (BarChartDataSet.le_xMin_iff.mp (hxMin hsets)).2 e hentry
  have hright := (BarChartDataSet.xMax_le_iff.mp (hxMax hsets)).2 e hentry
  constructor <;> linarith

theorem fits_plain_iff (hgrouped : ¬chart.IsGrouped) {s i : Nat} {e : BarChartDataEntry}
    (he : (chart.data id).entryForIndex s i = some e) {range : ℚ × ℚ} :
    Fits range (chart.data id) e ↔ range.1 + 425 / 1000 ≤ i ∧ i + 425 / 1000 ≤ range.2 := by
  rw [ATCBarChart.data_entry_id] at he
  obtain ⟨y, hy, rfl⟩ := Option.map_eq_some_iff.mp he
  simp only [Fits, BarChartData.left, BarChartData.right, ATCBarChart.data_barWidth,
    ATCBarChart.middle, if_neg hgrouped, id_eq]
  constructor <;> rintro ⟨hleft, hright⟩ <;> constructor <;> linarith

theorem exists_number (hview : ATCBarChartAdapter.configure id view chart = some view') {s i : Nat}
    (hs : s < chart.groups.length) (hi : i < chart.labels.length) :
    ∃ y, chart.number? s i = some y := by
  obtain ⟨sets, hsets, -⟩ := Option.bind_eq_some_iff.mp hview
  obtain ⟨set, hset⟩ := Loops.exists_eq_some hsets (List.getElem_mem hs)
  have hle := (ATCBarChart.dataSet_eq_some.mp hset).1
  have hlt : i < ((chart.groups[s]).numbers.take chart.labels.length).length := by
    rw [List.length_take]
    omega
  rw [ATCBarChart.number?, List.getElem?_eq_getElem hs, Option.bind_some]
  exact ⟨_, List.getElem?_eq_getElem hlt⟩

theorem fits_kept_iff (hview : ATCBarChartAdapter.configure id view chart = some view')
    (hgrouped : ¬chart.IsGrouped) (last : ATCBarChart) :
    (∀ s i e, (chart.data id).entryForIndex s i = some e → Fits last.range (chart.data id) e) ↔
      chart.groups = [] ∨ chart.labels = [] ∨ last.labels = [] ∧ chart.labels.length = 1 := by
  -- In the range of an earlier chart the first bar has no place on the left, but where that chart
  -- had no labels: then the second has none on the right.
  constructor
  · intro hfits
    have hbar : ∀ i, 0 < chart.groups.length → i < chart.labels.length →
        last.range.1 + 425 / 1000 ≤ i ∧ i + 425 / 1000 ≤ last.range.2 := by
      intro i hs hi
      obtain ⟨y, hy⟩ := exists_number hview hs hi
      have he := ATCBarChart.data_entry_id chart 0 i
      rw [hy] at he
      exact (fits_plain_iff hgrouped he).mp (hfits _ _ _ he)
    by_cases hgroups : chart.groups = []
    · exact Or.inl hgroups
    by_cases hlabels : chart.labels = []
    · exact Or.inr (Or.inl hlabels)
    have hs := List.length_pos_iff.mpr hgroups
    have hi := List.length_pos_iff.mpr hlabels
    have hfirst := (hbar 0 hs hi).1
    have hlast : last.labels = [] := by
      by_contra hne
      rw [ATCBarChart.range, if_neg hne] at hfirst
      norm_num at hfirst
    refine Or.inr (Or.inr ⟨hlast, ?_⟩)
    by_contra hlength
    have hsecond := (hbar 1 hs (by omega)).2
    rw [ATCBarChart.range, if_pos hlast] at hsecond
    norm_num at hsecond
  · intro hcases s i e he
    have hnumber := he
    rw [ATCBarChart.data_entry_id] at hnumber
    obtain ⟨y, hy, -⟩ := Option.map_eq_some_iff.mp hnumber
    obtain ⟨hs, hi⟩ := ATCBarChart.number_bounds hy
    rcases hcases with hgroups | hlabels | ⟨hlast, hlength⟩
    · simp [hgroups] at hs
    · simp [hlabels] at hi
    · obtain rfl : i = 0 := by omega
      rw [fits_plain_iff hgrouped he, ATCBarChart.range, if_pos hlast]
      norm_num

theorem Remembers.showsEveryBar_iff (h : Remembers charts view)
    (hview : ATCBarChartAdapter.configure id view chart = some view') :
    view'.ShowsEveryBar ↔ chart.IsNonnegative ∧
      ∀ s i e, (chart.data id).entryForIndex s i = some e →
        Fits (view'.xAxis.minimum, view'.xAxis.maximum) (chart.data id) e := by
  have hdata := ATCBarChartAdapter.configure_data hview
  constructor
  · intro hshows
    refine ⟨fun s i y hy => ?_, fun s i e he => ?_⟩
    · have hentry : (chart.data id).entryForIndex s i = some { x := chart.middle s i, y } := by
        rw [ATCBarChart.data_entry_id, hy]
        rfl
      exact (h.leftAxis_shows hview hy).mp (hshows _ hdata s i _ hentry).2.2
    · obtain ⟨hleft, hright, -⟩ := hshows _ hdata s i e he
      exact ⟨hleft, hright⟩
  · rintro ⟨hpos, hfits⟩ data hsome s i e he
    obtain rfl := Option.some.inj (hdata.symm.trans hsome)
    obtain ⟨hleft, hright⟩ := hfits s i e he
    rw [ATCBarChart.data_entry_id] at he
    obtain ⟨y, hy, rfl⟩ := Option.map_eq_some_iff.mp he
    exact ⟨hleft, hright, (h.leftAxis_shows hview hy).mpr (hpos s i y hy)⟩

/-- **When every bar is in view**, in every run of uses of a cell: no number is negative, and
the chart has several groups or finds no range of an earlier one with several. A range that it
finds has place only where that chart had no labels, and for a single label. -/
theorem every_bar_is_in_view_iff
    (h : (charts ++ [chart]).foldlM (ATCBarChartAdapter.configure id) init = some view) :
    view.ShowsEveryBar ↔ chart.IsNonnegative ∧
      (chart.IsGrouped ∨ chart.groups = [] ∨ chart.labels = [] ∨
        ∀ last, ATCBarChart.lastGrouped charts = some last →
          last.labels = [] ∧ chart.labels.length = 1) := by
  obtain ⟨before, hbefore, hview⟩ := Loops.foldlM_concat_eq_some.mp h
  have hrun := remembers_run hbefore
  rw [hrun.showsEveryBar_iff hview, and_congr_right_iff]
  intro _
  by_cases hgrouped : chart.IsGrouped
  · have hrange := hrun.xAxis hview
    rw [ATCBarChart.calculate_prepare hgrouped] at hrange
    rw [hrange]
    exact iff_of_true (fun s i e he => fits_grouped hgrouped he) (Or.inl hgrouped)
  cases hlast : ATCBarChart.lastGrouped charts with
  | none =>
    obtain ⟨hmin, hmax⟩ := hrun.fresh_range hview hgrouped hlast
    refine iff_of_true (fun s i e he => ?_) (by simp)
    obtain ⟨hleft, hright⟩ := fits_fresh hgrouped he
    exact ⟨hmin.trans hleft, hright.trans hmax⟩
  | some last =>
    rw [hrun.xAxis_kept hview hgrouped hlast, (hrun.grouped last hlast).2.2.1,
      fits_kept_iff hview hgrouped last]
    simp [hgrouped]

/-- A chart of one group. -/
def firstQuarter : ATCBarChart where
  groups := [⟨[3], "India"⟩]
  name := ""
  labels := ["Q1"]
  valueFormat := ""

theorem first_quarter_is_cut_off :
    ∃ view, ([FinanceStaticDataProvider.barChart] ++ [firstQuarter]).foldlM
      (ATCBarChartAdapter.configure id) init = some view ∧ ¬view.ShowsEveryBar := by
  -- The chart has no place after the revenue by country.
  obtain ⟨view, hview⟩ := Option.isSome_iff_exists.mp
    (by decide : (([FinanceStaticDataProvider.barChart] ++ [firstQuarter]).foldlM
      (ATCBarChartAdapter.configure id) init).isSome)
  refine ⟨view, hview, fun hshows => ?_⟩
  obtain ⟨-, hgrouped | hgroups | hlabels | hlast⟩ := (every_bar_is_in_view_iff hview).mp hshows
  · exact absurd hgrouped (by decide)
  · simp [firstQuarter] at hgroups
  · simp [firstQuarter] at hlabels
  · have hnone := (hlast FinanceStaticDataProvider.barChart (by decide)).1
    simp [FinanceStaticDataProvider.barChart] at hnone

end BarChartView

end FinanceApp
