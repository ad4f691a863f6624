import FinanceApp.Charts.Positions
import FinanceApp.Lib.Binary64

/-!
# The cell of a bar chart

A cell is used again for other charts. A chart of several groups sets the range of the
horizontal axis and the labels; nothing takes them back.
-/

namespace FinanceApp

structure ATCStaticLabelFormatter where
  labels : List String
  deriving DecidableEq, Repr

/-- An axis of a chart. The flags say that a bound was set and is not calculated. -/
structure AxisBase where
  spaceMin : ℚ := 0
  spaceMax : ℚ := 0
  customAxisMin : Bool := false
  customAxisMax : Bool := false
  minimum : ℚ := 0
  maximum : ℚ := 0
  valueFormatter : Option ATCStaticLabelFormatter := none
  granularityEnabled : Bool := false
  granularity : ℚ := 1
  centerAxisLabelsEnabled : Bool := false
  deriving DecidableEq, Repr

namespace AxisBase

def setAxisMinimum (axis : AxisBase) (value : ℚ) : AxisBase :=
  { axis with customAxisMin := true, minimum := value }

def setAxisMaximum (axis : AxisBase) (value : ℚ) : AxisBase :=
  { axis with customAxisMax := true, maximum := value }

def setGranularity (axis : AxisBase) (value : ℚ) : AxisBase :=
  { axis with granularity := value, granularityEnabled := true }

def calculate (fl : ℚ → ℚ) (axis : AxisBase) (dataMin dataMax : ℚ) : AxisBase :=
  let min := if axis.customAxisMin then axis.minimum else fl (dataMin - axis.spaceMin)
  let max := if axis.customAxisMax then axis.maximum else fl (dataMax + axis.spaceMax)
  if |fl (max - min)| = 0 then
    { axis with minimum := fl (min - 1), maximum := fl (max + 1) }
  else
    { axis with minimum := min, maximum := max }

/-- The vertical axis, with a tenth of its range as space at both ends. -/
def calculateY (fl : ℚ → ℚ) (axis : AxisBase) (dataMin dataMax : ℚ) : AxisBase :=
  let min := if axis.customAxisMin then axis.minimum else dataMin
  let max := if axis.customAxisMax then axis.maximum else dataMax
  let (min, max) :=
    if max < min then
      match axis.customAxisMax, axis.customAxisMin with
      | true, true => (max, min)
      | true, false => (if max < 0 then fl (max * (3 / 2)) else fl (max * (1 / 2)), max)
      | false, true => (min, if min < 0 then fl (min * (1 / 2)) else fl (min * (3 / 2)))
      | false, false => (min, max)
    else (min, max)
  let range := |fl (max - min)|
  let (min, max) := if range = 0 then (fl (min - 1), fl (max + 1)) else (min, max)
  let space := fl (range * fl (1 / 10))
  { axis with
    minimum := if axis.customAxisMin then axis.minimum else fl (min - space)
    maximum := if axis.customAxisMax then axis.maximum else fl (max + space) }

end AxisBase

/-- What the cell of a chart keeps between two uses. -/
structure BarChartView where
  xAxis : AxisBase
  leftAxis : AxisBase
  data : Option BarChartData
  deriving DecidableEq, Repr

namespace BarChartView

/-- As it is loaded. -/
def init : BarChartView where
  xAxis := { spaceMin := 1 / 2, spaceMax := 1 / 2 }
  leftAxis := {}
  data := none

def notifyDataSetChanged (fl : ℚ → ℚ) (view : BarChartView) : BarChartView :=
  match view.data with
  | none => view
  | some data =>
    { view with
      xAxis := view.xAxis.calculate fl data.xMin data.xMax
      leftAxis := view.leftAxis.calculateY fl data.leftAxisMin data.leftAxisMax }

def setData (fl : ℚ → ℚ) (view : BarChartView) (data : BarChartData) : BarChartView :=
  notifyDataSetChanged fl { view with data := some data }

end BarChartView

namespace ATCBarChart

/-- The data set of a group. It traps where the group has fewer numbers than there are labels. -/
def dataSet (fl : ℚ → ℚ) (chart : ATCBarChart) (group : ATCBarChartGroup) :
    Option BarChartDataSet :=
  ((List.range chart.labels.length).mapM fun index : Nat =>
    group.numbers[index]?.map fun y => ({ x := fl index, y } : BarChartDataEntry)).map
      BarChartDataSet.init

end ATCBarChart

namespace FinanceStaticDataProvider

def barChart : ATCBarChart where
  groups := [
    ⟨[4000, 5500, 7400, 6500], "United States"⟩,
    ⟨[4000, 5000, 6000, 5500], "United Kingdom"⟩,
    ⟨[4400, 4900, 5500, 7200], "India"⟩]
  name := "Revenue by Country"
  labels := ["Q4 17", "Q1", "Q2", "Q3"]
  valueFormat := "$%.00f"

end FinanceStaticDataProvider

namespace ATCBarChartAdapter

def groupSpace : ℚ := 8 / 100

def barSpace : ℚ := 3 / 100

/-- The cell after it is configured for a chart. -/
def configure (fl : ℚ → ℚ) (chartView : BarChartView) (chart : ATCBarChart) :
    Option BarChartView := do
  let dataSets ← chart.groups.mapM (chart.dataSet fl)
  let data := BarChartData.init fl dataSets
  let (data, xAxis) :=
    if 1 < dataSets.length then
      let groupSpace := fl groupSpace
      let barSpace := fl barSpace
      let data := { data with barWidth := fl (1 / 10) }
      let xAxis := chartView.xAxis.setGranularity 1
      let xAxis := { xAxis with centerAxisLabelsEnabled := true }
      let xAxis := xAxis.setAxisMinimum 0
      let xAxis := { xAxis with valueFormatter := some ⟨chart.labels⟩ }
      let xAxis := xAxis.setAxisMaximum
        (fl (0 + fl (data.groupWidth fl groupSpace barSpace * fl chart.labels.length)))
      (data.groupBars fl 0 groupSpace barSpace, xAxis)
    else
      (data, chartView.xAxis)
  let chartView := { chartView with xAxis }.setData fl data
  let chartView := { chartView with leftAxis := chartView.leftAxis.setAxisMinimum 0 }
  some (chartView.notifyDataSetChanged fl)

end ATCBarChartAdapter

/-! ## Data of a chart -/

namespace ATCBarChart

section Data

variable (fl : ℚ → ℚ) (chart : ATCBarChart)

def entries (group : ATCBarChartGroup) : List BarChartDataEntry :=
  (group.numbers.take chart.labels.length).mapIdx fun i y => { x := fl i, y }

variable {fl chart} in
theorem dataSet_eq_some {group : ATCBarChartGroup} {set : BarChartDataSet} :
    chart.dataSet fl group = some set ↔
      chart.labels.length ≤ group.numbers.length ∧
        set = BarChartDataSet.init (chart.entries fl group) := by
  have hloop : ∀ es : List BarChartDataEntry,
      ((List.range chart.labels.length).mapM fun index : Nat =>
        group.numbers[index]?.map fun y => ({ x := fl index, y } : BarChartDataEntry)) = some es ↔
      chart.labels.length ≤ group.numbers.length ∧ es = chart.entries fl group := by
    intro es
    rw [Loops.mapM_eq_some, List.forall₂_iff_get]
    simp only [List.length_range, List.get_eq_getElem, List.getElem_range]
    constructor
    · rintro ⟨hlength, hget⟩
      have hle : chart.labels.length ≤ group.numbers.length := by
        refine Nat.le_of_not_lt fun hlt => ?_
        have hmissing := hget group.numbers.length hlt (hlength ▸ hlt)
        simp at hmissing
      refine ⟨hle, List.ext_getElem (by simp [entries, ← hlength, hle]) fun i hi hi' => ?_⟩
      have hat := hget i (hlength ▸ hi) hi
      have hnumber : i < group.numbers.length := Nat.lt_of_lt_of_le (hlength ▸ hi) hle
      rw [List.getElem?_eq_getElem hnumber, Option.map_some, Option.some.injEq] at hat
      simp [entries, ← hat]
    · rintro ⟨hle, rfl⟩
      refine ⟨by simp [entries, hle], fun i hi hi' => ?_⟩
      simp [entries, List.getElem?_eq_getElem (Nat.lt_of_lt_of_le hi hle)]
  rw [dataSet, Option.map_eq_some_iff]
  constructor
  · rintro ⟨es, hes, rfl⟩
    obtain ⟨hle, rfl⟩ := (hloop es).mp hes
    exact ⟨hle, rfl⟩
  · rintro ⟨hle, rfl⟩
    exact ⟨_, (hloop _).mpr ⟨hle, rfl⟩, rfl⟩

variable {fl chart} in
theorem mapM_dataSet {sets : List BarChartDataSet}
    (h : chart.groups.mapM (chart.dataSet fl) = some sets) :
    sets = chart.groups.map fun group => BarChartDataSet.init (chart.entries fl group) :=
  Loops.eq_map h fun _ _ hset => (dataSet_eq_some.mp hset).2

def IsGrouped : Prop := 1 < chart.groups.length

instance : DecidablePred IsGrouped := fun _ => Nat.decLt _ _

/-- The data before the bars are grouped. -/
def plainData : BarChartData :=
  BarChartData.init fl (chart.groups.map fun group => BarChartDataSet.init (chart.entries fl group))

/-- The same with narrow bars, of which several have place side by side. -/
def narrowData : BarChartData :=
  { chart.plainData fl with barWidth := fl (1 / 10) }

/-- What the cell shows of a chart. -/
def data : BarChartData :=
  if chart.IsGrouped then
    (chart.narrowData fl).groupBars fl 0 (fl ATCBarChartAdapter.groupSpace)
      (fl ATCBarChartAdapter.barSpace)
  else chart.plainData fl

/-- The end of the horizontal axis for a chart of several groups. -/
def axisEnd : ℚ :=
  fl (0 + fl ((chart.narrowData fl).groupWidth fl (fl ATCBarChartAdapter.groupSpace)
    (fl ATCBarChartAdapter.barSpace) * fl chart.labels.length))

/-- What a chart makes of the horizontal axis before it is calculated. -/
def prepare (axis : AxisBase) : AxisBase :=
  if chart.IsGrouped then
    { axis with
      granularity := 1
      granularityEnabled := true
      centerAxisLabelsEnabled := true
      customAxisMin := true
      customAxisMax := true
      minimum := 0
      maximum := chart.axisEnd fl
      valueFormatter := some ⟨chart.labels⟩ }
  else axis

@[simp] theorem plainData_dataSets :
    (chart.plainData fl).dataSets =
      chart.groups.map fun group => BarChartDataSet.init (chart.entries fl group) :=
  BarChartData.notifyDataChanged_dataSets _

@[simp] theorem narrowData_dataSets :
    (chart.narrowData fl).dataSets =
      chart.groups.map fun group => BarChartDataSet.init (chart.entries fl group) :=
  plainData_dataSets fl chart

theorem data_barWidth :
    (chart.data fl).barWidth = if chart.IsGrouped then fl (1 / 10) else fl (85 / 100) := by
  rw [data]
  split
  next => exact BarChartData.groupBars_barWidth _ _ _ _ _
  next => exact BarChartData.notifyDataChanged_barWidth _

theorem axisEnd_id :
    chart.axisEnd id = (chart.groups.length * (13 / 100) + 8 / 100) * chart.labels.length := by
  simp only [axisEnd, BarChartData.groupWidth, narrowData_dataSets, List.length_map, id_eq,
    zero_add]
  rw [narrowData, ATCBarChartAdapter.groupSpace, ATCBarChartAdapter.barSpace, id]
  ring

end Data

end ATCBarChart

/-! ## One use of the cell -/

namespace AxisBase

theorem calculate_calculate {axis : AxisBase} (h : axis.customAxisMin = axis.customAxisMax)
    (a b : ℚ) : (axis.calculate id a b).calculate id a b = axis.calculate id a b := by
  cases hcustom : axis.customAxisMin with
  | false =>
    simp only [calculate, id_eq, hcustom, ← h, Bool.false_eq_true, if_false]
    by_cases hrange : |b + axis.spaceMax - (a - axis.spaceMin)| = 0
    · rw [if_pos hrange]
      simp only [Bool.false_eq_true, if_false, if_pos hrange]
    · rw [if_neg hrange]
      simp only [Bool.false_eq_true, if_false, if_neg hrange]
  | true =>
    simp only [calculate, id_eq, hcustom, ← h, if_true]
    by_cases hrange : |axis.maximum - axis.minimum| = 0
    · -- The widened range is two wide.
      have hwide : |axis.maximum + 1 - (axis.minimum - 1)| ≠ 0 := by
        have heq : axis.maximum - axis.minimum = 0 := abs_eq_zero.mp hrange
        rw [abs_ne_zero]
        linarith
      rw [if_pos hrange]
      simp only [if_true, if_neg hwide]
    · rw [if_neg hrange]
      simp only [if_true, if_neg hrange]

theorem calculateY_of_custom {axis : AxisBase} (hmin : axis.customAxisMin = true)
    (hmax : axis.customAxisMax = false) (hzero : axis.minimum = 0) (a b : ℚ) :
    axis.calculateY id a b = { axis with maximum := if 0 < b then b * (11 / 10) else 1 } := by
  rcases lt_trichotomy b 0 with hb | rfl | hb
  · simp [calculateY, hmin, hmax, hzero, hb, not_lt_of_gt hb]
  · simp [calculateY, hmin, hmax, hzero]
  · simp [calculateY, hmin, hmax, hzero, hb, not_lt_of_gt hb, ne_of_gt hb, abs_of_pos hb]
    ring

theorem calculateY_zero {axis : AxisBase} (h : axis.customAxisMax = false) (a b : ℚ) :
    ((axis.calculateY id a b).setAxisMinimum 0).calculateY id a b =
      { axis with
        customAxisMin := true
        minimum := 0
        maximum := if 0 < b then b * (11 / 10) else 1 } := by
  have hfirst : (axis.calculateY id a b).setAxisMinimum 0 =
      { axis with
        customAxisMin := true
        minimum := 0
        maximum := (axis.calculateY id a b).maximum } := rfl
  rw [hfirst]
  refine calculateY_of_custom ?_ ?_ ?_ a b
  · rfl
  · exact h
  · rfl

end AxisBase

namespace ATCBarChartAdapter

theorem configure_eq {fl : ℚ → ℚ} {view view' : BarChartView} {chart : ATCBarChart}
    (h : configure fl view chart = some view') :
    view' =
      { xAxis := ((chart.prepare fl view.xAxis).calculate fl (chart.data fl).xMin
          (chart.data fl).xMax).calculate fl (chart.data fl).xMin (chart.data fl).xMax
        leftAxis := ((view.leftAxis.calculateY fl (chart.data fl).leftAxisMin
          (chart.data fl).leftAxisMax).setAxisMinimum 0).calculateY fl (chart.data fl).leftAxisMin
            (chart.data fl).leftAxisMax
        data := some (chart.data fl) } := by
  obtain ⟨sets, hsets, hview⟩ := Option.bind_eq_some_iff.mp h
  have hmap := ATCBarChart.mapM_dataSet hsets
  subst hmap
  rw [List.length_map] at hview
  rw [ATCBarChart.prepare, ATCBarChart.data]
  by_cases hgrouped : chart.IsGrouped
  · have hcount : 1 < chart.groups.length := hgrouped
    simp only [hcount, if_true] at hview
    rw [if_pos hgrouped, if_pos hgrouped]
    exact (Option.some.inj hview).symm
  · have hcount : ¬1 < chart.groups.length := hgrouped
    simp only [hcount, if_false] at hview
    rw [if_neg hgrouped, if_neg hgrouped]
    exact (Option.some.inj hview).symm

end ATCBarChartAdapter

/-! ## Bars of a chart -/

namespace ATCBarChart

/-- The number of a group for a label. -/
def number? (chart : ATCBarChart) (s i : Nat) : Option ℚ :=
  chart.groups[s]?.bind fun group => (group.numbers.take chart.labels.length)[i]?

/-- The middle of a bar. -/
def place (fl : ℚ → ℚ) (chart : ATCBarChart) (s i : Nat) : ℚ :=
  if chart.IsGrouped then
    (chart.narrowData fl).position fl 0 (fl ATCBarChartAdapter.groupSpace)
      (fl ATCBarChartAdapter.barSpace) s i
  else fl i

/-- The middle of a bar if nothing is rounded. -/
def middle (chart : ATCBarChart) (s i : Nat) : ℚ :=
  if chart.IsGrouped then
    i * (chart.groups.length * (13 / 100) + 8 / 100) + s * (13 / 100) + 105 / 1000
  else i

theorem number_bounds {chart : ATCBarChart} {s i : Nat} {y : ℚ} (h : chart.number? s i = some y) :
    s < chart.groups.length ∧ i < chart.labels.length := by
  obtain ⟨group, hgroup, hy⟩ := Option.bind_eq_some_iff.mp h
  obtain ⟨hi, -⟩ := List.getElem?_eq_some_iff.mp hy
  rw [List.length_take] at hi
  exact ⟨(List.getElem?_eq_some_iff.mp hgroup).1, by omega⟩

theorem plainData_entry (fl : ℚ → ℚ) (chart : ATCBarChart) (s i : Nat) :
    (chart.plainData fl).entryForIndex s i =
      (chart.number? s i).map fun y => ({ x := fl i, y } : BarChartDataEntry) := by
  rw [BarChartData.entryForIndex, plainData_dataSets, List.getElem?_map, number?]
  cases chart.groups[s]? with
  | none => rfl
  | some group => simp [entries]

theorem data_entry (fl : ℚ → ℚ) (chart : ATCBarChart) (s i : Nat) :
    (chart.data fl).entryForIndex s i =
      (chart.number? s i).map fun y => ({ x := chart.place fl s i, y } : BarChartDataEntry) := by
  rw [data]
  by_cases hgrouped : chart.IsGrouped
  · have hcount : 1 < (chart.narrowData fl).dataSets.length := by
      rwa [narrowData_dataSets, List.length_map]
    rw [if_pos hgrouped, BarChartData.entryForIndex,
      BarChartData.groupBars_dataSets fl hcount, place, if_pos hgrouped]
    simp only [narrowData_dataSets, List.getElem?_mapIdx, List.getElem?_map, number?]
    cases chart.groups[s]? with
    | none => rfl
    | some group =>
      simp only [Option.map_some, Option.bind_some, BarChartDataSet.init_entries, entries,
        List.getElem?_mapIdx, Option.map_map]
      rfl
  · rw [if_neg hgrouped, plainData_entry, place, if_neg hgrouped]

/-! ## How far the bars are off -/

section Rounded

variable {fl : ℚ → ℚ} {M ε : ℚ} {chart : ATCBarChart}

theorem narrowData_spaced (h : RoundedSums.Rounds fl M ε) (hM : 1 ≤ M) :
    (chart.narrowData fl).Spaced (fl ATCBarChartAdapter.groupSpace)
      (fl ATCBarChartAdapter.barSpace) (1 / 10) (3 / 100) (8 / 100) ε where
  width_nonneg := by norm_num
  bar_nonneg := by norm_num
  group_nonneg := by norm_num
  barWidth := h.near _ (by rw [abs_of_nonneg (by norm_num)]; linarith)
  barSpace := h.near _ (by rw [ATCBarChartAdapter.barSpace, abs_of_nonneg (by norm_num)]; linarith)
  groupSpace :=
    h.near _ (by rw [ATCBarChartAdapter.groupSpace, abs_of_nonneg (by norm_num)]; linarith)

theorem place_near (h : RoundedSums.Rounds fl M ε) (hgrouped : chart.IsGrouped) {s i : Nat}
    (hs : s < chart.groups.length) (hlength : chart.groups.length ≤ M)
    (hM : (i + 1) * (chart.groups.length + 1) * (13 / 100 + 16 * ε) ≤ M) :
    |chart.place fl s i - chart.middle s i| ≤ 10 * (i + 1) * (chart.groups.length + 1) * ε := by
  have hcount : (chart.narrowData fl).dataSets.length = chart.groups.length := by
    rw [narrowData_dataSets, List.length_map]
  have hone : (1 : ℚ) ≤ M := by
    refine le_trans ?_ hlength
    exact_mod_cast Nat.one_le_of_lt hgrouped
  have hbudget : ((i + 1 : Nat) : ℚ) *
      ((chart.narrowData fl).interval (1 / 10) (3 / 100) (8 / 100) +
        16 * (chart.narrowData fl).groupError ε) ≤ M := by
    refine le_trans ?_ hM
    rw [BarChartData.interval, BarChartData.groupError, hcount, mul_assoc ((i : ℚ) + 1)]
    push_cast
    exact mul_le_mul_of_nonneg_left (by linarith) (by positivity)
  have hnear := (narrowData_spaced h hone).position_near h (by rwa [hcount])
    (by rwa [hcount] : s < (chart.narrowData fl).dataSets.length) hbudget
  rw [BarChartData.groupError, hcount, BarChartData.middle, BarChartData.interval, hcount,
    ← mul_assoc] at hnear
  rw [place, if_pos hgrouped, middle, if_pos hgrouped]
  convert hnear using 3
  ring

theorem place_id {s : Nat} (hs : s < chart.groups.length) (i : Nat) :
    chart.place id s i = chart.middle s i := by
  by_cases hgrouped : chart.IsGrouped
  · have hlength : (chart.groups.length : ℚ) ≤ (i + 1) * (chart.groups.length + 1) := by
      have hproduct : (0 : ℚ) ≤ i * (chart.groups.length + 1) := by positivity
      linarith
    have hnear := place_near (i := i) (RoundedSums.rounds_id _) hgrouped hs hlength (by linarith)
    rw [mul_zero] at hnear
    exact sub_eq_zero.mp (abs_eq_zero.mp (le_antisymm hnear (abs_nonneg _)))
  · rw [place, if_neg hgrouped, middle, if_neg hgrouped, id]

theorem data_entry_id (chart : ATCBarChart) (s i : Nat) :
    (chart.data id).entryForIndex s i =
      (chart.number? s i).map fun y => ({ x := chart.middle s i, y } : BarChartDataEntry) := by
  rw [data_entry]
  cases hnumber : chart.number? s i with
  | none => rfl
  | some y => rw [Option.map_some, place_id (number_bounds hnumber).1, Option.map_some]

/-- What rounding may take from a chart, in units of which a few are lost. -/
def tolerance (chart : ATCBarChart) : ℚ :=
  ((chart.groups.length + 1) * chart.labels.length) ^ 2 / 2 ^ 53

/-- Up to a million bars in double precision. -/
def IsModest (chart : ATCBarChart) : Prop :=
  (chart.groups.length + 1) * chart.labels.length ≤ 2 ^ 20

theorem IsModest.size_le (h : chart.IsModest) :
    ((chart.groups.length + 1) * chart.labels.length : ℚ) ≤ 2 ^ 20 := by exact_mod_cast h

theorem one_le_size (hlabels : 0 < chart.labels.length) :
    (1 : ℚ) ≤ (chart.groups.length + 1) * chart.labels.length := by
  have hone : 1 ≤ (chart.groups.length + 1) * chart.labels.length :=
    Nat.mul_pos (Nat.succ_pos _) hlabels
  exact_mod_cast hone

theorem IsModest.tolerance_le (h : chart.IsModest) : chart.tolerance ≤ 1 / 2 ^ 13 := by
  calc chart.tolerance ≤ (2 ^ 20) ^ 2 / 2 ^ 53 :=
        div_le_div_of_nonneg_right (pow_le_pow_left₀ (by positivity) h.size_le 2) (by positivity)
    _ = 1 / 2 ^ 13 := by norm_num

theorem IsModest.rounds (h : chart.IsModest) (hlabels : 0 < chart.labels.length) :
    RoundedSums.Rounds Binary64.nearest ((chart.groups.length + 1) * chart.labels.length)
      ((chart.groups.length + 1) * chart.labels.length / 2 ^ 53) :=
  Binary64.rounds_nearest (one_le_size hlabels) (h.size_le.trans_lt (by norm_num))

theorem IsModest.place_near (h : chart.IsModest) (hgrouped : chart.IsGrouped) {s i : Nat}
    (hs : s < chart.groups.length) (hi : i < chart.labels.length) :
    |chart.place Binary64.nearest s i - chart.middle s i| ≤ 10 * chart.tolerance := by
  have hlabel : (i : ℚ) + 1 ≤ chart.labels.length := by exact_mod_cast hi
  have hbars : ((i : ℚ) + 1) * (chart.groups.length + 1) ≤
      (chart.groups.length + 1) * chart.labels.length := by
    rw [mul_comm]
    exact mul_le_mul_of_nonneg_left hlabel (by positivity)
  have hlength : (chart.groups.length : ℚ) ≤ (chart.groups.length + 1) * chart.labels.length := by
    have hproduct : (0 : ℚ) ≤ i * (chart.groups.length + 1) := by positivity
    linarith
  refine (ATCBarChart.place_near (h.rounds (by omega)) hgrouped hs hlength ?_).trans ?_
  · refine le_trans (mul_le_mul_of_nonneg_right hbars (by positivity)) ?_
    refine mul_le_of_le_one_right (by positivity) ?_
    have hsmall :
        ((chart.groups.length + 1) * chart.labels.length : ℚ) / 2 ^ 53 ≤ 2 ^ 20 / 2 ^ 53 :=
      div_le_div_of_nonneg_right h.size_le (by positivity)
    linarith
  · have hunits : 0 ≤ ((chart.groups.length + 1) * chart.labels.length : ℚ) / 2 ^ 53 := by
      positivity
    have hproduct := mul_le_mul_of_nonneg_right hbars hunits
    rw [tolerance]
    linarith

theorem IsModest.barWidth_near (h : chart.IsModest) (hlabels : 0 < chart.labels.length) :
    |Binary64.nearest (1 / 10) - 1 / 10| ≤ chart.tolerance := by
  have hone := one_le_size hlabels
  refine ((h.rounds hlabels).near _ ?_).trans ?_
  · rw [abs_of_nonneg (by norm_num)]
    linarith
  · rw [tolerance, pow_two]
    exact div_le_div_of_nonneg_right (le_mul_of_one_le_left (by positivity) hone) (by positivity)

end Rounded

end ATCBarChart

namespace ATCBarChartAdapter

variable {view view' : BarChartView} {chart : ATCBarChart}

theorem configure_data {fl : ℚ → ℚ} (h : configure fl view chart = some view') :
    view'.data = some (chart.data fl) := by
  rw [configure_eq h]

theorem exists_configure {fl : ℚ → ℚ} (view : BarChartView)
    (h : (chart.groups.mapM (chart.dataSet fl)).isSome) :
    ∃ view', configure fl view chart = some view' := by
  obtain ⟨sets, hsets⟩ := Option.isSome_iff_exists.mp h
  rw [configure, hsets]
  exact ⟨_, rfl⟩

theorem gap_near (hgrouped : chart.IsGrouped) (hmodest : chart.IsModest) {s i t j : Nat}
    {e e' : BarChartDataEntry} (he : (chart.data Binary64.nearest).entryForIndex s i = some e)
    (he' : (chart.data Binary64.nearest).entryForIndex t j = some e') :
    |(chart.data Binary64.nearest).left e' - (chart.data Binary64.nearest).right e -
      (chart.middle t j - chart.middle s i - 1 / 10)| ≤ 21 * chart.tolerance := by
  rw [ATCBarChart.data_entry] at he he'
  obtain ⟨y, hy, rfl⟩ := Option.map_eq_some_iff.mp he
  obtain ⟨y', hy', rfl⟩ := Option.map_eq_some_iff.mp he'
  obtain ⟨hs, hi⟩ := ATCBarChart.number_bounds hy
  obtain ⟨ht, hj⟩ := ATCBarChart.number_bounds hy'
  have hplace := hmodest.place_near hgrouped hs hi
  have hplace' := hmodest.place_near hgrouped ht hj
  have hwidth := hmodest.barWidth_near (by omega)
  rw [BarChartData.left, BarChartData.right, ATCBarChart.data_barWidth, if_pos hgrouped]
  rw [abs_le] at *
  constructor <;> linarith

/-- **Bars of several groups stand in order, in double precision**: each in its place up to a
few units, with the number of its group for its label as height. The bars of a label are side
by side in the order of the groups with the bar space between them, with the group space more
between labels, and no two bars touch. -/
theorem grouped_bars_in_order {data : BarChartData}
    (h : configure Binary64.nearest view chart = some view') (hgrouped : chart.IsGrouped)
    (hmodest : chart.IsModest) (hdata : view'.data = some data) :
    (∀ s i, (data.entryForIndex s i).map BarChartDataEntry.y = chart.number? s i) ∧
      (∀ s i e, data.entryForIndex s i = some e → |e.x - chart.middle s i| ≤ 10 * chart.tolerance) ∧
      (∀ s i e e', data.entryForIndex s i = some e → data.entryForIndex (s + 1) i = some e' →
        |data.left e' - data.right e - barSpace| ≤ 21 * chart.tolerance) ∧
      (∀ s i e e', s + 1 = chart.groups.length → data.entryForIndex s i = some e →
        data.entryForIndex 0 (i + 1) = some e' →
          |data.left e' - data.right e - (barSpace + groupSpace)| ≤ 21 * chart.tolerance) ∧
      ∀ s i e t j e', data.entryForIndex s i = some e → data.entryForIndex t j = some e' →
        (i < j ∨ i = j ∧ s < t) → data.right e < data.left e' := by
  obtain rfl := Option.some.inj ((configure_data h).symm.trans hdata)
  refine ⟨fun s i => ?_, fun s i e he => ?_, fun s i e e' he he' => ?_,
    fun s i e e' hlast he he' => ?_, fun s i e t j e' he he' hbefore => ?_⟩
  · rw [ATCBarChart.data_entry, Option.map_map]
    exact congrFun Option.map_id _
  · rw [ATCBarChart.data_entry] at he
    obtain ⟨y, hy, rfl⟩ := Option.map_eq_some_iff.mp he
    obtain ⟨hs, hi⟩ := ATCBarChart.number_bounds hy
    exact hmodest.place_near hgrouped hs hi
  · have hgap := gap_near hgrouped hmodest he he'
    have hspace : chart.middle (s + 1) i - chart.middle s i - 1 / 10 = barSpace := by
      rw [ATCBarChart.middle, ATCBarChart.middle, if_pos hgrouped, if_pos hgrouped, barSpace]
      push_cast
      ring
    rwa [hspace] at hgap
  · have hgap := gap_near hgrouped hmodest he he'
    have hspace : chart.middle 0 (i + 1) - chart.middle s i - 1 / 10 = barSpace + groupSpace := by
      rw [ATCBarChart.middle, ATCBarChart.middle, if_pos hgrouped, if_pos hgrouped, ← hlast,
        barSpace, groupSpace]
      push_cast
      ring
    rwa [hspace] at hgap
  · have hgap := (abs_le.mp (gap_near hgrouped hmodest he he')).1
    have htolerance := hmodest.tolerance_le
    have hspace : barSpace ≤ chart.middle t j - chart.middle s i - 1 / 10 := by
      rw [ATCBarChart.data_entry] at he
      obtain ⟨y, hy, -⟩ := Option.map_eq_some_iff.mp he
      have hset : (s : ℚ) + 1 ≤ chart.groups.length := by
        exact_mod_cast (ATCBarChart.number_bounds hy).1
      simp only [ATCBarChart.middle, if_pos hgrouped, barSpace]
      rcases hbefore with hij | ⟨rfl, hst⟩
      · have hlabel : (i : ℚ) + 1 ≤ j := by exact_mod_cast hij
        have hwidth : (0 : ℚ) ≤ chart.groups.length * (13 / 100) + 8 / 100 := by positivity
        have hgroups := mul_le_mul_of_nonneg_right hlabel hwidth
        have ht : (0 : ℚ) ≤ t := Nat.cast_nonneg t
        linarith
      · have hsets : (s : ℚ) + 1 ≤ t := by exact_mod_cast hst
        linarith
    rw [barSpace] at hspace
    linarith

theorem revenue_in_order :
    ∃ view data, configure Binary64.nearest .init FinanceStaticDataProvider.barChart = some view ∧
      view.data = some data ∧ (data.entryForIndex 2 3).map BarChartDataEntry.y = some 7200 ∧
      (∀ s i e, data.entryForIndex s i = some e →
        |e.x - FinanceStaticDataProvider.barChart.middle s i| ≤
          10 * FinanceStaticDataProvider.barChart.tolerance) ∧
      ∀ s i e t j e', data.entryForIndex s i = some e → data.entryForIndex t j = some e' →
        (i < j ∨ i = j ∧ s < t) → data.right e < data.left e' := by
  obtain ⟨view, hview⟩ := exists_configure .init
    (rfl : (FinanceStaticDataProvider.barChart.groups.mapM
      (FinanceStaticDataProvider.barChart.dataSet Binary64.nearest)).isSome = true)
  have hgrouped : FinanceStaticDataProvider.barChart.IsGrouped := by decide
  have hmodest : FinanceStaticDataProvider.barChart.IsModest := by
    unfold ATCBarChart.IsModest
    decide
  have hdata := configure_data hview
  obtain ⟨hnumbers, hplaces, -, -, horder⟩ :=
    grouped_bars_in_order hview hgrouped hmodest hdata
  exact ⟨view, _, hview, hdata, hnumbers 2 3, hplaces, horder⟩

end ATCBarChartAdapter

end FinanceApp
