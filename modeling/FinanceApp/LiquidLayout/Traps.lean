import FinanceApp.LiquidLayout.Reload

/-!
# When the liquid layout traps

A first row needs a column. Cells that are wider than the content leave none, and with
much negative content the number of columns is itself negative, or one less than the
divisor allows.
-/

namespace FinanceApp

/-! ## Truncated numbers -/

theorem truncate_neg (q : ℚ) : truncate (-q) = -truncate q := by
  rw [truncate, truncate, Rat.neg_num, Rat.neg_den, Int.neg_tdiv]

theorem truncate_of_neg {q : ℚ} (h : q < 0) : truncate q = -⌊-q⌋ := by
  have hneg := truncate_neg (-q)
  rw [neg_neg] at hneg
  rw [hneg, truncate_eq_floor (by linarith)]

theorem truncate_pos_iff {q : ℚ} : 0 < truncate q ↔ 1 ≤ q := by
  by_cases h : 0 ≤ q
  · rw [truncate_eq_floor h, Int.floor_pos]
  · have hfloor : 0 ≤ ⌊-q⌋ := Int.floor_nonneg.mpr (by linarith)
    rw [truncate_of_neg (by linarith)]
    constructor
    · intro hpos; omega
    · intro hone; linarith

theorem truncate_eq_zero_iff {q : ℚ} : truncate q = 0 ↔ -1 < q ∧ q < 1 := by
  by_cases h : 0 ≤ q
  · rw [truncate_eq_floor h, Int.floor_eq_zero_iff, Set.mem_Ico]
    exact ⟨fun ⟨_, hone⟩ => ⟨by linarith, hone⟩, fun ⟨_, hone⟩ => ⟨h, hone⟩⟩
  · rw [truncate_of_neg (by linarith), neg_eq_zero, Int.floor_eq_zero_iff, Set.mem_Ico]
    exact ⟨fun ⟨_, hone⟩ => ⟨by linarith, by linarith⟩, fun ⟨hone, _⟩ => ⟨by linarith, by linarith⟩⟩

theorem truncate_eq_neg_one_iff {q : ℚ} : truncate q = -1 ↔ -2 < q ∧ q ≤ -1 := by
  by_cases h : 0 ≤ q
  · have hfloor : 0 ≤ ⌊q⌋ := Int.floor_nonneg.mpr h
    rw [truncate_eq_floor h]
    constructor
    · intro hone; omega
    · rintro ⟨_, hone⟩; linarith
  · rw [truncate_of_neg (by linarith), neg_inj, Int.floor_eq_iff]
    push_cast
    exact ⟨fun ⟨hone, htwo⟩ => ⟨by linarith, by linarith⟩,
      fun ⟨htwo, hone⟩ => ⟨by linarith, by linarith⟩⟩

/-! ## The number of columns -/

section Columns

variable {contentWidth cellWidth : ℚ}

theorem numberOfColumns_of_nonpos (h : cellWidth ≤ 0) :
    numberOfColumns contentWidth cellWidth = 1 := by
  rw [numberOfColumns, if_neg (by linarith)]

theorem numberOfColumns_of_pos (h : 0 < cellWidth) :
    numberOfColumns contentWidth cellWidth = truncate (contentWidth / cellWidth) := by
  rw [numberOfColumns, if_pos h]

theorem numberOfColumns_pos_iff :
    0 < numberOfColumns contentWidth cellWidth ↔ cellWidth ≤ 0 ∨ cellWidth ≤ contentWidth := by
  rcases le_or_gt cellWidth 0 with h | h
  · simp [numberOfColumns_of_nonpos h, h]
  · rw [numberOfColumns_of_pos h, truncate_pos_iff, one_le_div h]
    exact ⟨.inr, fun hor => hor.resolve_left (not_le.mpr h)⟩

theorem numberOfColumns_eq_zero_iff (h : 0 < cellWidth) :
    numberOfColumns contentWidth cellWidth = 0 ↔
      -cellWidth < contentWidth ∧ contentWidth < cellWidth := by
  rw [numberOfColumns_of_pos h, truncate_eq_zero_iff, lt_div_iff₀ h, div_lt_one h, neg_one_mul]

theorem numberOfColumns_eq_neg_one_iff :
    numberOfColumns contentWidth cellWidth = -1 ↔
      0 < cellWidth ∧ -2 * cellWidth < contentWidth ∧ contentWidth ≤ -cellWidth := by
  rcases le_or_gt cellWidth 0 with h | h
  · simp [numberOfColumns_of_nonpos h, h.not_gt]
  · rw [numberOfColumns_of_pos h, truncate_eq_neg_one_iff, lt_div_iff₀ h, div_le_iff₀ h,
      neg_one_mul]
    simp [h]

end Columns

namespace ATCLiquidCollectionViewLayout

/-- `prepare` comes to its end, and the number of gaps that it divides by is not 0. -/
structure PreparesSafely (layout : ATCLiquidCollectionViewLayout) : Prop where
  returns : ∃ r, layout.prepare = .ok r
  divides : ∀ view delegate, layout.collectionView = some view → layout.delegate = some delegate →
    numberOfColumns layout.contentWidth delegate.cellWidth + 1 ≠ 0

variable (self : ATCLiquidCollectionViewLayout)

/-- The cache is empty, or stands for another width or number of items. -/
def CacheIsStale (view : UICollectionView) : Prop :=
  self.cache = [] ∨ self.contentWidth ≠ self.cachedWidth ∨ self.numberOfItems ≠ view.numberOfItems

/-- Where a cache has to be filled, a cell fits into the content, or there is none to place
and the content is not a whole cell below zero. Nowhere is it one to two cells below. -/
def CellsFit : Prop :=
  ∀ view delegate, self.collectionView = some view → self.delegate = some delegate →
    (self.CacheIsStale view →
      delegate.cellWidth ≤ 0 ∨ delegate.cellWidth ≤ self.contentWidth ∨
        view.numberOfItems = 0 ∧ -delegate.cellWidth < self.contentWidth) ∧
    ¬(0 < delegate.cellWidth ∧ -2 * delegate.cellWidth < self.contentWidth ∧
      self.contentWidth ≤ -delegate.cellWidth)

variable {self} {view : UICollectionView} {delegate : ATCLiquidLayoutDelegate}

theorem hasColumns_iff :
    self.HasColumns view delegate ↔
      delegate.cellWidth ≤ 0 ∨ delegate.cellWidth ≤ self.contentWidth ∨
        view.numberOfItems = 0 ∧ -delegate.cellWidth < self.contentWidth := by
  rw [HasColumns, numberOfColumns_pos_iff, or_assoc]
  rcases le_or_gt delegate.cellWidth 0 with h | h
  · simp [h]
  · rw [numberOfColumns_eq_zero_iff h]
    rcases le_or_gt delegate.cellWidth self.contentWidth with hfits | hwide
    · simp [hfits]
    · simp [hwide, and_comm]

theorem prepare_of_current (hview : self.collectionView = some view)
    (hdelegate : self.delegate = some delegate) (h : ¬self.CacheIsStale view) :
    self.prepare = .ok self := by
  obtain ⟨hcache, hwidth, hitems⟩ : self.cache ≠ [] ∧ self.contentWidth = self.cachedWidth ∧
      self.numberOfItems = view.numberOfItems := by
    simpa [CacheIsStale] using h
  have hreset : self.resetChanged view = self := by simp [resetChanged, hwidth, hitems]
  simp [prepare, hview, hdelegate, hreset, hcache]

theorem prepare_of_stale (hview : self.collectionView = some view)
    (hdelegate : self.delegate = some delegate) (h : self.CacheIsStale view) :
    (∃ r, self.prepare = .ok r) ↔ self.HasColumns view delegate := by
  have hempty : (self.resetChanged view).cache = [] := by
    unfold resetChanged
    split
    · rfl
    · next hsame =>
      rcases h with hcache | hchanged
      · exact hcache
      · exact absurd hchanged hsame
  have hcolumns : (self.resetChanged view).HasColumns view delegate ↔
      self.HasColumns view delegate := by
    unfold HasColumns
    rw [self.resetChanged_contentWidth view]
  have hprepare : self.prepare = (self.resetChanged view).fillCache view delegate := by
    simp [prepare, hview, hdelegate, hempty]
  simp only [hprepare, fillCache_eq_ok hempty, hcolumns, exists_and_left, exists_eq, and_true]

end ATCLiquidCollectionViewLayout

/-- A cell of the full width of the bounds, as the row adapters ask for, beside an inset. -/
def fullWidthCell : ATCLiquidCollectionViewLayout where
  collectionView := some { boundsWidth := 10, contentInsetLeft := 1, numberOfItems := 1 }
  delegate := some { heightForCell := fun _ _ => 5, cellWidth := 10 }

end FinanceApp
