import FinanceApp.Lib.Loops
import FinanceApp.Lib.RoundedSums
import Mathlib.Algebra.Order.Field.Rat
import Mathlib.Data.List.Induction
import Mathlib.Tactic.FieldSimp
import Mathlib.Tactic.Linarith
import Mathlib.Tactic.Ring

/-!
# Bar charts

The groups of a chart are data sets with one bar for each label. With several groups the
bars of a label stand side by side: one loop moves along the axis and sets every position. The
results of its operations are rounded by `fl`, and with `id` for it numbers are exact.
-/

namespace FinanceApp

open RoundedSums

def greatestFiniteMagnitude : ℚ := (2 ^ 53 - 1) * 2 ^ 971

structure ATCBarChartGroup where
  numbers : List ℚ
  name : String
  deriving DecidableEq, Repr

structure ATCBarChart where
  groups : List ATCBarChartGroup
  name : String
  labels : List String
  valueFormat : String
  deriving DecidableEq, Repr

structure BarChartDataEntry where
  x : ℚ
  y : ℚ
  deriving DecidableEq, Repr

/-- The bounds are those of the entries at the time they are calculated. -/
structure BarChartDataSet where
  entries : List BarChartDataEntry
  xMin : ℚ := greatestFiniteMagnitude
  xMax : ℚ := -greatestFiniteMagnitude
  yMin : ℚ := greatestFiniteMagnitude
  yMax : ℚ := -greatestFiniteMagnitude
  deriving DecidableEq, Repr

namespace BarChartDataSet

def calcMinMaxEntry (set : BarChartDataSet) (e : BarChartDataEntry) : BarChartDataSet :=
  { set with
    yMin := if e.y < set.yMin then e.y else set.yMin
    yMax := if set.yMax < e.y then e.y else set.yMax
    xMin := if e.x < set.xMin then e.x else set.xMin
    xMax := if set.xMax < e.x then e.x else set.xMax }

def init (entries : List BarChartDataEntry) : BarChartDataSet :=
  entries.foldl calcMinMaxEntry { entries }

/-- An entry is an object: the position is set in the set that has it. -/
def setX (set : BarChartDataSet) (i : Nat) (x : ℚ) : BarChartDataSet :=
  { set with entries := set.entries.modify i fun e => { e with x } }

end BarChartDataSet

structure BarChartData where
  dataSets : List BarChartDataSet
  barWidth : ℚ
  xMin : ℚ := greatestFiniteMagnitude
  xMax : ℚ := -greatestFiniteMagnitude
  leftAxisMin : ℚ := greatestFiniteMagnitude
  leftAxisMax : ℚ := -greatestFiniteMagnitude
  deriving DecidableEq, Repr

namespace BarChartData

/-- Every set belongs to the left axis. -/
def calcMinMaxSet (data : BarChartData) (d : BarChartDataSet) : BarChartData :=
  { data with
    xMax := if data.xMax < d.xMax then d.xMax else data.xMax
    xMin := if d.xMin < data.xMin then d.xMin else data.xMin
    leftAxisMax := if data.leftAxisMax < d.yMax then d.yMax else data.leftAxisMax
    leftAxisMin := if d.yMin < data.leftAxisMin then d.yMin else data.leftAxisMin }

def notifyDataChanged (data : BarChartData) : BarChartData :=
  data.dataSets.foldl calcMinMaxSet
    { dataSets := data.dataSets, barWidth := data.barWidth }

def init (fl : ℚ → ℚ) (dataSets : List BarChartDataSet) : BarChartData :=
  notifyDataChanged { dataSets, barWidth := fl (85 / 100) }

def groupWidth (fl : ℚ → ℚ) (data : BarChartData) (groupSpace barSpace : ℚ) : ℚ :=
  fl (fl (fl data.dataSets.length * fl (data.barWidth + barSpace)) + groupSpace)

def maxEntryCount (data : BarChartData) : Nat :=
  (data.dataSets.map fun set => set.entries.length).max?.getD 0

/-- The loop over the sets for the entry at one index: the sets, and where it ends. -/
def placeEntries (fl : ℚ → ℚ) (barWidthHalf barSpaceHalf : ℚ) (i : Nat) :
    List BarChartDataSet → ℚ → List BarChartDataSet × ℚ
  | [], fromX => ([], fromX)
  | set :: sets, fromX =>
    let fromX := fl (fromX + barSpaceHalf)
    let fromX := fl (fromX + barWidthHalf)
    let set := if i < set.entries.length then set.setX i fromX else set
    let fromX := fl (fromX + barWidthHalf)
    let fromX := fl (fromX + barSpaceHalf)
    let rest := placeEntries fl barWidthHalf barSpaceHalf i sets fromX
    (set :: rest.1, rest.2)

/-- The body of the loop over the indices. What rounding took from the group is added. -/
def placeGroup (fl : ℚ → ℚ) (data : BarChartData) (groupSpace barSpace : ℚ)
    (state : List BarChartDataSet × ℚ) (i : Nat) : List BarChartDataSet × ℚ :=
  let start := state.2
  let placed := placeEntries fl (fl (data.barWidth / 2)) (fl (barSpace / 2)) i state.1
    (fl (start + fl (groupSpace / 2)))
  let fromX := fl (placed.2 + fl (groupSpace / 2))
  let diff := fl (data.groupWidth fl groupSpace barSpace - fl (fromX - start))
  (placed.1, if 0 < diff ∨ diff < 0 then fl (fromX + diff) else fromX)

/-- A single set is left as it is. -/
def groupBars (fl : ℚ → ℚ) (data : BarChartData) (fromX groupSpace barSpace : ℚ) :
    BarChartData :=
  if data.dataSets.length ≤ 1 then
    data
  else
    let placed := (List.range data.maxEntryCount).foldl (data.placeGroup fl groupSpace barSpace)
      (data.dataSets, fromX)
    notifyDataChanged { data with dataSets := placed.1 }

end BarChartData

namespace BarChartData

def entryForIndex (data : BarChartData) (s i : Nat) : Option BarChartDataEntry :=
  data.dataSets[s]?.bind fun set => set.entries[i]?

def left (data : BarChartData) (e : BarChartDataEntry) : ℚ := e.x - data.barWidth / 2

def right (data : BarChartData) (e : BarChartDataEntry) : ℚ := e.x + data.barWidth / 2

end BarChartData

/-! ## Bounds -/

namespace BarChartDataSet

variable {entries : List BarChartDataEntry} {b : ℚ}

theorem foldl_calcMinMaxEntry (entries : List BarChartDataEntry) (set : BarChartDataSet) :
    (entries.foldl calcMinMaxEntry set).entries = set.entries := by
  induction entries generalizing set with
  | nil => rfl
  | cons e es ih => exact ih (set.calcMinMaxEntry e)

@[simp] theorem init_entries (entries : List BarChartDataEntry) :
    (init entries).entries = entries :=
  foldl_calcMinMaxEntry entries _

theorem le_xMin_iff :
    b ≤ (init entries).xMin ↔ b ≤ greatestFiniteMagnitude ∧ ∀ e ∈ entries, b ≤ e.x :=
  Loops.foldl_iff (P := fun set : BarChartDataSet => b ≤ set.xMin) fun set e => by
    simp only [calcMinMaxEntry]
    rw [← min_def_lt, le_min_iff, and_comm]

theorem xMax_le_iff :
    (init entries).xMax ≤ b ↔ -greatestFiniteMagnitude ≤ b ∧ ∀ e ∈ entries, e.x ≤ b :=
  Loops.foldl_iff (P := fun set : BarChartDataSet => set.xMax ≤ b) fun set e => by
    simp only [calcMinMaxEntry]
    rw [← max_def_lt, max_le_iff]

theorem yMax_le_iff :
    (init entries).yMax ≤ b ↔ -greatestFiniteMagnitude ≤ b ∧ ∀ e ∈ entries, e.y ≤ b :=
  Loops.foldl_iff (P := fun set : BarChartDataSet => set.yMax ≤ b) fun set e => by
    simp only [calcMinMaxEntry]
    rw [← max_def_lt, max_le_iff]

end BarChartDataSet

namespace BarChartData

variable {data : BarChartData} {b : ℚ}

theorem foldl_calcMinMaxSet (sets : List BarChartDataSet) (data : BarChartData) :
    (sets.foldl calcMinMaxSet data).dataSets = data.dataSets ∧
      (sets.foldl calcMinMaxSet data).barWidth = data.barWidth := by
  induction sets generalizing data with
  | nil => exact ⟨rfl, rfl⟩
  | cons set sets ih => exact ih (data.calcMinMaxSet set)

@[simp] theorem notifyDataChanged_dataSets (data : BarChartData) :
    data.notifyDataChanged.dataSets = data.dataSets :=
  (foldl_calcMinMaxSet _ _).1

@[simp] theorem notifyDataChanged_barWidth (data : BarChartData) :
    data.notifyDataChanged.barWidth = data.barWidth :=
  (foldl_calcMinMaxSet _ _).2

theorem le_xMin_iff :
    b ≤ data.notifyDataChanged.xMin ↔
      b ≤ greatestFiniteMagnitude ∧ ∀ set ∈ data.dataSets, b ≤ set.xMin :=
  Loops.foldl_iff (P := fun data : BarChartData => b ≤ data.xMin) fun data set => by
    simp only [calcMinMaxSet]
    rw [← min_def_lt, le_min_iff, and_comm]

theorem xMax_le_iff :
    data.notifyDataChanged.xMax ≤ b ↔
      -greatestFiniteMagnitude ≤ b ∧ ∀ set ∈ data.dataSets, set.xMax ≤ b :=
  Loops.foldl_iff (P := fun data : BarChartData => data.xMax ≤ b) fun data set => by
    simp only [calcMinMaxSet]
    rw [← max_def_lt, max_le_iff]

theorem leftAxisMax_le_iff :
    data.notifyDataChanged.leftAxisMax ≤ b ↔
      -greatestFiniteMagnitude ≤ b ∧ ∀ set ∈ data.dataSets, set.yMax ≤ b :=
  Loops.foldl_iff (P := fun data : BarChartData => data.leftAxisMax ≤ b) fun data set => by
    simp only [calcMinMaxSet]
    rw [← max_def_lt, max_le_iff]

/-! ## Where the loop puts the bars -/

section Loop

variable (fl : ℚ → ℚ)

/-- What the loop adds for the first `s` sets. -/
def steps (w b : ℚ) (s : Nat) : List ℚ := (List.replicate s [b, w, w, b]).flatten

/-- Where the group after one that begins at `start` begins. -/
def nextStart (data : BarChartData) (groupSpace barSpace start : ℚ) : ℚ :=
  let w := fl (data.barWidth / 2)
  let b := fl (barSpace / 2)
  let g := fl (groupSpace / 2)
  let fromX := accumulate fl start (g :: steps w b data.dataSets.length ++ [g])
  let diff := fl (data.groupWidth fl groupSpace barSpace - fl (fromX - start))
  if 0 < diff ∨ diff < 0 then fl (fromX + diff) else fromX

/-- The middle of the bar of the set at index `s` and the entry at index `i`. -/
def position (data : BarChartData) (fromX groupSpace barSpace : ℚ) (s i : Nat) : ℚ :=
  let w := fl (data.barWidth / 2)
  let b := fl (barSpace / 2)
  accumulate fl ((data.nextStart fl groupSpace barSpace)^[i] fromX)
    (fl (groupSpace / 2) :: steps w b s ++ [b, w])

/-- Positions for the first `n` entries of a set. -/
def placeFirst (x : Nat → ℚ) (n : Nat) (set : BarChartDataSet) : BarChartDataSet :=
  { set with entries := set.entries.mapIdx fun i e => if i < n then { e with x := x i } else e }

@[simp] theorem length_placeFirst (x : Nat → ℚ) (n : Nat) (set : BarChartDataSet) :
    (placeFirst x n set).entries.length = set.entries.length := by
  simp [placeFirst]

theorem placeFirst_zero (x : Nat → ℚ) (set : BarChartDataSet) : placeFirst x 0 set = set := by
  simp [placeFirst, List.mapIdx_eq_zipIdx_map]

theorem setX_placeFirst (x : Nat → ℚ) (n : Nat) (set : BarChartDataSet) :
    (placeFirst x n set).setX n (x n) = placeFirst x (n + 1) set := by
  have hentries : ((set.entries.mapIdx fun i e => if i < n then { e with x := x i } else e).modify n
      fun e => { e with x := x n }) =
      set.entries.mapIdx fun i e => if i < n + 1 then { e with x := x i } else e := by
    refine List.ext_getElem? fun i => ?_
    rw [List.getElem?_modify, List.getElem?_mapIdx, List.getElem?_mapIdx]
    cases set.entries[i]? with
    | none => simp
    | some e =>
      rcases Nat.lt_trichotomy i n with hlt | rfl | hgt
      · simp [hlt, Nat.lt_succ_of_lt hlt, Nat.ne_of_gt hlt]
      · simp
      · simp [Nat.not_lt_of_gt hgt, Nat.not_lt.mpr (Nat.succ_le_of_lt hgt), Nat.ne_of_lt hgt]
  rw [BarChartDataSet.setX, placeFirst, placeFirst, hentries]

theorem steps_succ (w b : ℚ) (s : Nat) : steps w b (s + 1) = [b, w, w, b] ++ steps w b s := by
  rw [steps, List.replicate_succ, List.flatten_cons, steps]

theorem placeEntries_eq (w b : ℚ) (i : Nat) (sets : List BarChartDataSet) (fromX : ℚ) :
    placeEntries fl w b i sets fromX =
      (sets.mapIdx fun s set => set.setX i (accumulate fl fromX (steps w b s ++ [b, w])),
        accumulate fl fromX (steps w b sets.length)) := by
  induction sets generalizing fromX with
  | nil => rfl
  | cons set sets ih =>
    have hbound : ∀ x, (if i < set.entries.length then set.setX i x else set) = set.setX i x := by
      intro x
      split
      next => rfl
      next hge => rw [BarChartDataSet.setX, List.modify_eq_self (Nat.le_of_not_lt hge)]
    have hnext : ∀ terms, accumulate fl (fl (fl (fl (fl (fromX + b) + w) + w) + b)) terms =
        accumulate fl fromX ([b, w, w, b] ++ terms) :=
      fun terms => (accumulate_append fl fromX [b, w, w, b] terms).symm
    rw [placeEntries]
    simp only [ih, hbound, hnext, List.mapIdx_cons, List.length_cons, steps_succ, List.append_assoc]
    rfl

theorem foldl_placeGroup (data : BarChartData) (fromX groupSpace barSpace : ℚ) (n : Nat) :
    (List.range n).foldl (data.placeGroup fl groupSpace barSpace) (data.dataSets, fromX) =
      (data.dataSets.mapIdx fun s set =>
          placeFirst (data.position fl fromX groupSpace barSpace s) n set,
        (data.nextStart fl groupSpace barSpace)^[n] fromX) := by
  induction n with
  | zero => simp [placeFirst_zero, List.mapIdx_eq_zipIdx_map]
  | succ n ih =>
    rw [List.range_succ, List.foldl_append, ih, List.foldl_cons, List.foldl_nil, placeGroup,
      placeEntries_eq, Function.iterate_succ_apply', nextStart]
    have hplaced : ∀ s (hs : s < data.dataSets.length),
        (placeFirst (data.position fl fromX groupSpace barSpace s) n data.dataSets[s]).setX n
          (data.position fl fromX groupSpace barSpace s n) =
        placeFirst (data.position fl fromX groupSpace barSpace s) (n + 1) data.dataSets[s] :=
      fun s _ => setX_placeFirst _ n _
    simp only [List.length_mapIdx, List.mapIdx_mapIdx, List.cons_append, accumulate_cons,
      accumulate_append, accumulate_nil, Prod.mk.injEq, and_true]
    refine List.mapIdx_eq_mapIdx_iff.mpr fun s hs => ?_
    rw [← hplaced s hs, position]
    simp only [List.cons_append, accumulate_cons, accumulate_append, accumulate_nil]
    rfl

theorem length_le_maxEntryCount {data : BarChartData} {set : BarChartDataSet}
    (h : set ∈ data.dataSets) : set.entries.length ≤ data.maxEntryCount := by
  have hmem := List.mem_map_of_mem (f := fun set => set.entries.length) h
  rw [maxEntryCount]
  exact List.le_max?_getD_of_mem hmem

theorem groupBars_dataSets {data : BarChartData} (h : 1 < data.dataSets.length)
    (fromX groupSpace barSpace : ℚ) :
    (data.groupBars fl fromX groupSpace barSpace).dataSets = data.dataSets.mapIdx fun s set =>
      { set with entries := set.entries.mapIdx fun i e =>
          { e with x := data.position fl fromX groupSpace barSpace s i } } := by
  rw [groupBars, if_neg (Nat.not_le.mpr h), foldl_placeGroup]
  simp only [notifyDataChanged_dataSets]
  refine List.mapIdx_eq_mapIdx_iff.mpr fun s hs => ?_
  have hlength := length_le_maxEntryCount (List.getElem_mem hs)
  rw [placeFirst]
  congr 1
  refine List.mapIdx_eq_mapIdx_iff.mpr fun i hi => ?_
  rw [if_pos (Nat.lt_of_lt_of_le hi hlength)]

theorem yMax_le_groupBars {data : BarChartData} (h : 1 < data.dataSets.length)
    {fromX groupSpace barSpace : ℚ} {set : BarChartDataSet}
    (hset : set ∈ (data.groupBars fl fromX groupSpace barSpace).dataSets) :
    set.yMax ≤ (data.groupBars fl fromX groupSpace barSpace).leftAxisMax := by
  rw [groupBars, if_neg (Nat.not_le.mpr h)] at hset ⊢
  rw [notifyDataChanged_dataSets] at hset
  exact (leftAxisMax_le_iff.mp le_rfl).2 set hset

@[simp] theorem groupBars_barWidth (data : BarChartData) (fromX groupSpace barSpace : ℚ) :
    (data.groupBars fl fromX groupSpace barSpace).barWidth = data.barWidth := by
  rw [groupBars]
  split
  next => rfl
  next => exact notifyDataChanged_barWidth _

end Loop

end BarChartData

end FinanceApp
