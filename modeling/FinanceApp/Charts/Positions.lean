import FinanceApp.Charts.BarChart

/-!
# How far the bars are off

Where the bars stand if nothing is rounded, and how far from there the loop puts them if its
operations are. The loop corrects what it lost with every group, so the error grows with the
groups that were placed and not with their bars.
-/

namespace FinanceApp

open RoundedSums

namespace BarChartData

variable {fl : ℚ → ℚ} {M ε : ℚ}

/-! ## The terms of a group -/

theorem steps_sum (w b : ℚ) (s : Nat) : (steps w b s).sum = s * (2 * w + 2 * b) := by
  induction s with
  | zero => simp [steps]
  | succ s ih =>
    rw [steps_succ, List.sum_append, ih]
    simp only [List.sum_cons, List.sum_nil]
    push_cast
    ring

theorem length_steps (w b : ℚ) (s : Nat) : (steps w b s).length = 4 * s := by
  induction s with
  | zero => rfl
  | succ s ih =>
    rw [steps_succ, List.length_append, ih]
    simp only [List.length_cons, List.length_nil]
    omega

theorem steps_nonneg {w b : ℚ} (hw : 0 ≤ w) (hb : 0 ≤ b) (s : Nat) :
    ∀ y ∈ steps w b s, 0 ≤ y := by
  intro y hy
  obtain ⟨terms, hterms, hmem⟩ := List.mem_flatten.mp hy
  rw [List.eq_of_mem_replicate hterms] at hmem
  simp only [List.mem_cons, List.not_mem_nil, or_false] at hmem
  rcases hmem with rfl | rfl | rfl | rfl <;> assumption

theorem steps_near {w b w' b' d : ℚ} (hw : |w' - w| ≤ d) (hb : |b' - b| ≤ d) (s : Nat) :
    List.Forall₂ (fun term y => |term - y| ≤ d) (steps w' b' s) (steps w b s) := by
  induction s with
  | zero => exact .nil
  | succ s ih =>
    rw [steps_succ, steps_succ]
    exact .cons hb (.cons hw (.cons hw (.cons hb ih)))

theorem half_near (h : Rounds fl M ε) {a x : ℚ} (hx : 0 ≤ x) (ha : |a - x| ≤ ε)
    (hM : x + ε ≤ M) : |fl (a / 2) - x / 2| ≤ 3 / 2 * ε := by
  have hhalf : |a / 2 - x / 2| ≤ ε / 2 := by
    rw [← sub_div, abs_div, abs_two]
    exact div_le_div_of_nonneg_right ha two_pos.le
  refine (h.near_of hhalf ?_).trans (by linarith)
  rw [abs_of_nonneg (by positivity)]
  linarith [h.nonneg]

/-! ## One group -/

/-- The numbers are those of `w`, `b` and `g` up to `ε`. -/
structure Spaced (data : BarChartData) (groupSpace barSpace w b g ε : ℚ) : Prop where
  width_nonneg : 0 ≤ w
  bar_nonneg : 0 ≤ b
  group_nonneg : 0 ≤ g
  barWidth : |data.barWidth - w| ≤ ε
  barSpace : |barSpace - b| ≤ ε
  groupSpace : |groupSpace - g| ≤ ε

/-- From the beginning of a group to that of the next. -/
def interval (data : BarChartData) (w b g : ℚ) : ℚ := data.dataSets.length * (w + b) + g

def middle (data : BarChartData) (w b g : ℚ) (s i : Nat) : ℚ :=
  i * data.interval w b g + (g / 2 + s * (w + b) + b / 2 + w / 2)

/-- What a group costs is a multiple of this. -/
def groupError (data : BarChartData) (ε : ℚ) : ℚ := (data.dataSets.length + 1) * ε

section Group

variable {data : BarChartData} {groupSpace barSpace w b g : ℚ}

theorem Spaced.interval_nonneg (hs : Spaced data groupSpace barSpace w b g ε) :
    0 ≤ data.interval w b g := by
  have hbars : 0 ≤ (data.dataSets.length : ℚ) * (w + b) :=
    mul_nonneg (Nat.cast_nonneg _) (add_nonneg hs.width_nonneg hs.bar_nonneg)
  exact add_nonneg hbars hs.group_nonneg

/-- The first `s` bars of a group are in the interval. -/
theorem Spaced.bars_le (hs : Spaced data groupSpace barSpace w b g ε) {s : Nat}
    (h : s ≤ data.dataSets.length) : s * (w + b) + g ≤ data.interval w b g := by
  have hcount : (s : ℚ) ≤ data.dataSets.length := by exact_mod_cast h
  have hbars := mul_le_mul_of_nonneg_right hcount (add_nonneg hs.width_nonneg hs.bar_nonneg)
  exact add_le_add_left hbars g

theorem le_groupError (h : Rounds fl M ε) : ε ≤ data.groupError ε := by
  rw [groupError, add_one_mul]
  exact le_add_of_nonneg_left (mul_nonneg (Nat.cast_nonneg _) h.nonneg)

theorem groupError_nonneg (h : Rounds fl M ε) : 0 ≤ data.groupError ε :=
  mul_nonneg (by positivity) h.nonneg

theorem Spaced.groupWidth_near (hs : Spaced data groupSpace barSpace w b g ε)
    (h : Rounds fl M ε) (hcount : 0 < data.dataSets.length) (hlength : data.dataSets.length ≤ M)
    (hM : data.interval w b g + 3 * data.groupError ε ≤ M) :
    |data.groupWidth fl groupSpace barSpace - data.interval w b g| ≤ 3 * data.groupError ε := by
  have hbar := hs.bars_le (s := 1) hcount
  have hbars := hs.bars_le (s := data.dataSets.length) le_rfl
  have hunit : ε ≤ data.groupError ε := le_groupError h
  have hε := h.nonneg
  have hw := hs.width_nonneg
  have hb := hs.bar_nonneg
  have hg := hs.group_nonneg
  set n : ℚ := (data.dataSets.length : ℚ) with hn
  have hcount' : 0 ≤ n := Nat.cast_nonneg _
  have hcost : data.groupError ε = n * ε + ε := by rw [groupError, add_one_mul]
  have hnε : 0 ≤ n * ε := mul_nonneg hcount' hε
  have hone : |fl (data.barWidth + barSpace) - (w + b)| ≤ 3 * ε := by
    refine (h.add_near hw hb hs.barWidth hs.barSpace ?_).trans (by linarith)
    push_cast at hbar
    linarith
  have hproduct : |n * fl (data.barWidth + barSpace) - n * (w + b)| ≤ 3 * (n * ε) := by
    rw [← mul_sub, abs_mul, abs_of_nonneg hcount']
    linarith [mul_le_mul_of_nonneg_left hone hcount']
  have hall : |fl (fl n * fl (data.barWidth + barSpace)) - n * (w + b)| ≤ 3 * (n * ε) + ε := by
    rw [hn, h.natCast _ hlength, ← hn]
    refine h.near_of hproduct ?_
    rw [abs_of_nonneg (mul_nonneg hcount' (add_nonneg hw hb))]
    linarith
  refine (h.add_near (mul_nonneg hcount' (add_nonneg hw hb)) hg hall hs.groupSpace ?_).trans ?_
  · rw [interval] at hM
    linarith
  · linarith

/-- The halves that the loop adds. -/
structure Halved (fl : ℚ → ℚ) (data : BarChartData) (groupSpace barSpace w b g ε : ℚ) : Prop where
  barWidth : |fl (data.barWidth / 2) - w / 2| ≤ 3 / 2 * ε
  barSpace : |fl (barSpace / 2) - b / 2| ≤ 3 / 2 * ε
  groupSpace : |fl (groupSpace / 2) - g / 2| ≤ 3 / 2 * ε

theorem Spaced.halved (hs : Spaced data groupSpace barSpace w b g ε) (h : Rounds fl M ε)
    (hcount : 0 < data.dataSets.length) (hM : data.interval w b g + data.groupError ε ≤ M) :
    Halved fl data groupSpace barSpace w b g ε := by
  have hbar := hs.bars_le (s := 1) hcount
  rw [Nat.cast_one, one_mul] at hbar
  have hε : ε ≤ data.groupError ε := le_groupError h
  have hw := hs.width_nonneg
  have hb := hs.bar_nonneg
  have hg := hs.group_nonneg
  exact ⟨half_near h hw hs.barWidth (by linarith), half_near h hb hs.barSpace (by linarith),
    half_near h hg hs.groupSpace (by linarith)⟩

theorem Spaced.steps_nonneg (hs : Spaced data groupSpace barSpace w b g ε) (s : Nat) :
    ∀ y ∈ steps (w / 2) (b / 2) s, 0 ≤ y :=
  BarChartData.steps_nonneg (div_nonneg hs.width_nonneg two_pos.le)
    (div_nonneg hs.bar_nonneg two_pos.le) s

/-- A group costs six errors of a group, however many bars it has. -/
theorem Spaced.nextStart_near (hs : Spaced data groupSpace barSpace w b g ε) (h : Rounds fl M ε)
    (hcount : 0 < data.dataSets.length) (hlength : data.dataSets.length ≤ M) {start x e : ℚ}
    (hx : 0 ≤ x) (he : 0 ≤ e) (hstart : |start - x| ≤ e)
    (hM : x + data.interval w b g + 2 * e + 16 * data.groupError ε ≤ M) :
    |data.nextStart fl groupSpace barSpace start - (x + data.interval w b g)| ≤
      e + 6 * data.groupError ε := by
  have hunit : 0 ≤ data.groupError ε := groupError_nonneg h
  have hε : ε ≤ data.groupError ε := le_groupError h
  have hinterval := hs.interval_nonneg
  have hhalved := hs.halved h hcount (by linarith)
  have hwidth := hs.groupWidth_near h hcount hlength (by linarith)
  have hg : 0 ≤ g / 2 := div_nonneg hs.group_nonneg two_pos.le
  have hnonneg : ∀ y ∈ g / 2 :: steps (w / 2) (b / 2) data.dataSets.length ++ [g / 2], 0 ≤ y := by
    simp only [List.cons_append, List.forall_mem_cons, List.forall_mem_append]
    exact ⟨hg, hs.steps_nonneg _, hg, List.forall_mem_nil _⟩
  have hterms : List.Forall₂ (fun term y => |term - y| ≤ 3 / 2 * ε)
      (fl (groupSpace / 2) :: steps (fl (data.barWidth / 2)) (fl (barSpace / 2))
        data.dataSets.length ++ [fl (groupSpace / 2)])
      (g / 2 :: steps (w / 2) (b / 2) data.dataSets.length ++ [g / 2]) :=
    List.rel_append (R := fun term y : ℚ => |term - y| ≤ 3 / 2 * ε)
      (.cons hhalved.groupSpace (steps_near hhalved.barWidth hhalved.barSpace _))
      (.cons hhalved.groupSpace .nil)
  have hsum : (g / 2 :: steps (w / 2) (b / 2) data.dataSets.length ++ [g / 2]).sum =
      data.interval w b g := by
    rw [List.sum_append, List.sum_cons, steps_sum, List.sum_singleton, interval]
    ring
  have hcost : ((fl (groupSpace / 2) :: steps (fl (data.barWidth / 2)) (fl (barSpace / 2))
      data.dataSets.length ++ [fl (groupSpace / 2)]).length : ℚ) * (3 / 2 * ε + ε) ≤
        10 * data.groupError ε := by
    rw [List.length_append, List.length_cons, length_steps, List.length_singleton, groupError]
    push_cast
    linarith [h.nonneg]
  -- Before the correction every bar counts.
  have hlast := h.accumulate_near (mul_nonneg (by norm_num) h.nonneg) hnonneg hterms hx hstart
    (by rw [hsum]; linarith)
  rw [hsum] at hlast
  obtain ⟨hcorrected, hexact⟩ := h.corrected_near hx hinterval hstart
    (hlast.trans (add_le_add_right hcost e)) hwidth rfl (by linarith) (by linarith) (by linarith)
  rw [nextStart]
  split
  next => exact hcorrected.trans (by linarith)
  next hzero =>
    rw [not_or, not_lt, not_lt] at hzero
    exact (hexact (le_antisymm hzero.1 hzero.2)).trans (by linarith)

/-! ## All groups -/

/-- The budget for the first `i` groups is in that for more of them. -/
theorem Spaced.budget_mono (hs : Spaced data groupSpace barSpace w b g ε) (h : Rounds fl M ε)
    {i k : Nat} (hik : i ≤ k) :
    i * (data.interval w b g + 16 * data.groupError ε) ≤
      k * (data.interval w b g + 16 * data.groupError ε) := by
  have hcast : (i : ℚ) ≤ k := by exact_mod_cast hik
  have hunit : 0 ≤ data.groupError ε := groupError_nonneg h
  exact mul_le_mul_of_nonneg_right hcast (by linarith [hs.interval_nonneg])

theorem Spaced.start_near (hs : Spaced data groupSpace barSpace w b g ε) (h : Rounds fl M ε)
    (hcount : 0 < data.dataSets.length) (hlength : data.dataSets.length ≤ M) (i : Nat)
    (hM : i * (data.interval w b g + 16 * data.groupError ε) ≤ M) :
    |(data.nextStart fl groupSpace barSpace)^[i] 0 - i * data.interval w b g| ≤
      6 * i * data.groupError ε := by
  have hunit : 0 ≤ data.groupError ε := groupError_nonneg h
  induction i with
  | zero => simp
  | succ i ih =>
    have hbefore := ih ((hs.budget_mono h i.le_succ).trans hM)
    have herror : 0 ≤ (i : ℚ) * data.groupError ε := mul_nonneg (Nat.cast_nonneg _) hunit
    push_cast at hM
    rw [Function.iterate_succ_apply']
    have hnext := hs.nextStart_near h hcount hlength
      (mul_nonneg (Nat.cast_nonneg i) hs.interval_nonneg) (by linarith) hbefore (by linarith)
    push_cast
    rw [add_one_mul]
    exact hnext.trans (by linarith)

/-- Every bar stands where it would without rounding, up to ten errors of a group for each group
from the first to its own. -/
theorem Spaced.position_near (hs : Spaced data groupSpace barSpace w b g ε) (h : Rounds fl M ε)
    (hlength : data.dataSets.length ≤ M) {s i : Nat} (hset : s < data.dataSets.length)
    (hM : (i + 1 : Nat) * (data.interval w b g + 16 * data.groupError ε) ≤ M) :
    |data.position fl 0 groupSpace barSpace s i - data.middle w b g s i| ≤
      10 * (i + 1) * data.groupError ε := by
  have hcount : 0 < data.dataSets.length := by omega
  have hunit : 0 ≤ data.groupError ε := groupError_nonneg h
  have hε : ε ≤ data.groupError ε := le_groupError h
  have hinterval := hs.interval_nonneg
  have hbefore := (hs.budget_mono h i.le_succ).trans hM
  have herror : 0 ≤ (i : ℚ) * data.groupError ε := mul_nonneg (Nat.cast_nonneg _) hunit
  have hplace : 0 ≤ (i : ℚ) * data.interval w b g := mul_nonneg (Nat.cast_nonneg _) hinterval
  have hbars := hs.bars_le (s := s + 1) hset
  push_cast at hM hbars
  have hhalved := hs.halved h hcount (by linarith)
  have hw := hs.width_nonneg
  have hb := hs.bar_nonneg
  have hg := hs.group_nonneg
  have hnonneg : ∀ y ∈ g / 2 :: steps (w / 2) (b / 2) s ++ [b / 2, w / 2], 0 ≤ y := by
    simp only [List.cons_append, List.forall_mem_cons, List.forall_mem_append]
    exact ⟨by linarith, hs.steps_nonneg _, by linarith, by linarith, List.forall_mem_nil _⟩
  have hterms : List.Forall₂ (fun term y => |term - y| ≤ 3 / 2 * ε)
      (fl (groupSpace / 2) :: steps (fl (data.barWidth / 2)) (fl (barSpace / 2)) s ++
        [fl (barSpace / 2), fl (data.barWidth / 2)])
      (g / 2 :: steps (w / 2) (b / 2) s ++ [b / 2, w / 2]) :=
    List.rel_append (R := fun term y : ℚ => |term - y| ≤ 3 / 2 * ε)
      (.cons hhalved.groupSpace (steps_near hhalved.barWidth hhalved.barSpace _))
      (.cons hhalved.barSpace (.cons hhalved.barWidth .nil))
  have hsum : (g / 2 :: steps (w / 2) (b / 2) s ++ [b / 2, w / 2]).sum =
      g / 2 + s * (w + b) + b / 2 + w / 2 := by
    rw [List.sum_append, List.sum_cons, steps_sum, List.sum_cons, List.sum_singleton]
    ring
  have hcost : ((fl (groupSpace / 2) :: steps (fl (data.barWidth / 2)) (fl (barSpace / 2)) s ++
      [fl (barSpace / 2), fl (data.barWidth / 2)]).length : ℚ) * (3 / 2 * ε + ε) ≤
        10 * data.groupError ε := by
    have hsets : (s : ℚ) + 1 ≤ data.dataSets.length := by exact_mod_cast hset
    have hbars := mul_le_mul_of_nonneg_right hsets h.nonneg
    rw [List.length_append, List.length_cons, length_steps, groupError]
    simp only [List.length_cons, List.length_nil]
    push_cast
    linarith [h.nonneg]
  have hposition := h.accumulate_near (mul_nonneg (by norm_num) h.nonneg) hnonneg hterms hplace
    (hs.start_near h hcount hlength i hbefore) (by rw [hsum]; linarith)
  rw [hsum] at hposition
  exact hposition.trans (by linarith)

end Group

end BarChartData

end FinanceApp
