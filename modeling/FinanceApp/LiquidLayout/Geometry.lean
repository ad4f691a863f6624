import FinanceApp.LiquidLayout.Prepare
import Mathlib.Data.Set.Basic
import Mathlib.Order.CompletePartialOrder
import Mathlib.Tactic.FieldSimp

/-!
# Where the liquid layout puts its items

With a cell width that fits the content, the frames that `prepare` computes do not
overlap, stay inside the content, and stand one below the other in each column.
-/

namespace FinanceApp

def CGRect.interior (r : CGRect) : Set (ℚ × ℚ) :=
  {p | r.x < p.1 ∧ p.1 < r.x + r.width ∧ r.y < p.2 ∧ p.2 < r.y + r.height}

theorem CGRect.disjoint_interior {f g : CGRect}
    (h : f.x + f.width ≤ g.x ∨ f.y + f.height ≤ g.y) : Disjoint f.interior g.interior := by
  rw [Set.disjoint_left]
  rintro p ⟨_, hright, _, hbottom⟩ ⟨hleft, _, htop, _⟩
  rcases h with h | h
  · linarith
  · linarith

/-- The geometry of a list of frames in a content of the given size. A column is what
begins at one `x`. -/
structure LiquidGeometry (contentWidth contentHeight cellWidth cellPadding : ℚ)
    (height : Nat → ℚ) (frames : List CGRect) : Prop where
  widths : ∀ f ∈ frames, f.width = cellWidth
  heights : frames.map (·.height) = (List.range frames.length).map height
  disjoint : frames.Pairwise fun f g => Disjoint f.interior g.interior
  inside : ∀ f ∈ frames, 0 ≤ f.x ∧ f.x + f.width ≤ contentWidth ∧
    0 ≤ f.y ∧ f.y + f.height ≤ contentHeight
  stacked : ∀ (i j : Nat) (f g : CGRect), i < j → frames[i]? = some f → frames[j]? = some g →
    f.x = g.x → f.y + f.height + 2 * cellPadding ≤ g.y
  gap : ∀ (i j : Nat) (f g : CGRect), i < j → frames[i]? = some f → frames[j]? = some g →
    f.x = g.x → (∀ (l : Nat) (e : CGRect), i < l → l < j → frames[l]? = some e → e.x ≠ f.x) →
    g.y = f.y + f.height + 2 * cellPadding
  bounded : ∀ f ∈ frames, f.y + f.height + cellPadding ≤ contentHeight
  reached : frames = [] ∧ contentHeight = 0 ∨
    ∃ f ∈ frames, f.y + f.height + cellPadding = contentHeight

/-! ## The columns -/

theorem columns_fill {contentWidth cellWidth : ℚ} (hwidth : 0 < cellWidth)
    (hfits : cellWidth ≤ contentWidth) :
    ∃ n : Nat, 0 < n ∧ numberOfColumns contentWidth cellWidth = n ∧
      0 ≤ horizontalPadding contentWidth cellWidth ∧
      Columns.left cellWidth (horizontalPadding contentWidth cellWidth) n = contentWidth := by
  have hone : 1 ≤ contentWidth / cellWidth := (one_le_div hwidth).mpr hfits
  have hcolumns : numberOfColumns contentWidth cellWidth = ⌊contentWidth / cellWidth⌋ := by
    rw [numberOfColumns, if_pos hwidth, truncate_eq_floor (by linarith)]
  have hpos : 1 ≤ ⌊contentWidth / cellWidth⌋ := Int.le_floor.mpr (by exact_mod_cast hone)
  obtain ⟨n, hn⟩ := Int.eq_ofNat_of_zero_le (by omega : 0 ≤ ⌊contentWidth / cellWidth⌋)
  have hle : (n : ℚ) * cellWidth ≤ contentWidth := by
    have hfloor := Int.floor_le (contentWidth / cellWidth)
    rw [hn, le_div_iff₀ hwidth] at hfloor
    exact_mod_cast hfloor
  have hsucc : (0 : ℚ) < n + 1 := n.cast_add_one_pos
  unfold horizontalPadding
  rw [hcolumns, hn]
  refine ⟨n, by omega, rfl, ?_, ?_⟩
  · apply div_nonneg
    · push_cast; linarith
    · push_cast; exact hsucc.le
  · unfold Columns.left
    push_cast
    rw [mul_div_cancel₀ _ hsucc.ne']
    ring

/-! ## The frames -/

section Frames

variable (n : Nat) (cellWidth padding cellPadding : ℚ) (heightForCell : Nat → ℚ → ℚ)

def cellFrame (row : Nat) : CGRect where
  x := Columns.left cellWidth padding (row % n)
  y := Columns.top n (paddedHeight cellWidth cellPadding heightForCell) (row % n) row + cellPadding
  width := cellWidth
  height := heightForCell row cellWidth

variable {n cellWidth padding cellPadding heightForCell} {k : Nat} (hn : 0 < n)
  (hwidth : 0 < cellWidth) (hpadding : 0 ≤ padding) (hcell : 0 ≤ cellPadding)
  (hheight : ∀ row, row < k → 0 ≤ heightForCell row cellWidth)

include hcell hheight in
theorem paddedHeight_nonneg (row : Nat) (hrow : row < k) :
    0 ≤ paddedHeight cellWidth cellPadding heightForCell row := by
  have h := hheight row hrow
  unfold paddedHeight
  linarith

include hwidth hcell hheight in
theorem paddedFrame_inset (row : Nat) (hrow : row < k) :
    (paddedFrame n cellWidth padding cellPadding heightForCell row).insetBy 0 cellPadding =
      some (cellFrame n cellWidth padding cellPadding heightForCell row) := by
  have h := hheight row hrow
  have htwice : 2 * cellPadding ≤ paddedHeight cellWidth cellPadding heightForCell row := by
    unfold paddedHeight; linarith
  rw [CGRect.insetBy_vertical hwidth.le hcell htwice]
  simp only [cellFrame, paddedFrame, paddedHeight, Option.some.injEq, CGRect.mk.injEq, true_and]
  ring

include hcell hheight in
theorem paddedFrame_maxY (row : Nat) (hrow : row < k) :
    let f := cellFrame n cellWidth padding cellPadding heightForCell row
    (paddedFrame n cellWidth padding cellPadding heightForCell row).maxY =
      f.y + f.height + cellPadding := by
  have h := paddedHeight_nonneg hcell hheight row hrow
  simp only [CGRect.maxY, paddedFrame, cellFrame]
  rw [max_eq_right (by linarith)]
  unfold paddedHeight
  ring

variable (padding) in
include hcell hheight in
theorem cellFrame_stacked {i j : Nat} (hlt : i < j) (hj : j < k) (hsame : j % n = i % n) :
    let f := cellFrame n cellWidth padding cellPadding heightForCell i
    let g := cellFrame n cellWidth padding cellPadding heightForCell j
    f.y + f.height + 2 * cellPadding ≤ g.y := by
  have hbelow := Columns.top_add_le
    (fun l hl => paddedHeight_nonneg hcell hheight l (hl.trans hj)) hlt hsame
  simp only [cellFrame]
  unfold paddedHeight at hbelow ⊢
  linarith

theorem cellFrame_gap {i j : Nat} (hlt : i < j) (hsame : j % n = i % n)
    (hnext : ∀ l, i < l → l < j → l % n ≠ i % n) :
    let f := cellFrame n cellWidth padding cellPadding heightForCell i
    let g := cellFrame n cellWidth padding cellPadding heightForCell j
    g.y = f.y + f.height + 2 * cellPadding := by
  have hbelow :=
    Columns.top_next n (paddedHeight cellWidth cellPadding heightForCell) hlt hsame hnext
  simp only [cellFrame, hbelow]
  unfold paddedHeight
  ring

include hn hwidth hpadding hcell hheight in
theorem cellFrame_disjoint {i j : Nat} (hlt : i < j) (hj : j < k) :
    Disjoint (cellFrame n cellWidth padding cellPadding heightForCell i).interior
      (cellFrame n cellWidth padding cellPadding heightForCell j).interior := by
  have hi' := Nat.mod_lt i hn
  rcases lt_trichotomy (i % n) (j % n) with hcolumns | hcolumns | hcolumns
  · have hright := Columns.left_add_width_add_gap_le hwidth.le hpadding hcolumns
    apply CGRect.disjoint_interior
    left
    simp only [cellFrame]
    linarith
  · have hstacked := cellFrame_stacked padding hcell hheight hlt hj hcolumns.symm
    apply CGRect.disjoint_interior
    right
    simp only [cellFrame] at hstacked ⊢
    linarith
  · have hright := Columns.left_add_width_add_gap_le hwidth.le hpadding hcolumns
    apply Disjoint.symm
    apply CGRect.disjoint_interior
    left
    simp only [cellFrame]
    linarith

variable (padding) in
include hcell hheight in
theorem contentHeight_spec :
    let bottom := fun row => (cellFrame n cellWidth padding cellPadding heightForCell row).y +
      heightForCell row cellWidth + cellPadding
    let contentHeight :=
      (placement n cellWidth padding cellPadding heightForCell 0 k).contentHeight
    (∀ row, row < k → bottom row ≤ contentHeight) ∧
      (k = 0 ∧ contentHeight = 0 ∨ ∃ row, row < k ∧ bottom row = contentHeight) := by
  intro bottom contentHeight
  have hmaxY : ∀ row, row < k →
      (paddedFrame n cellWidth padding cellPadding heightForCell row).maxY = bottom row :=
    fun row hrow => paddedFrame_maxY hcell hheight row hrow
  have hbound : ∀ row, row < k → bottom row ≤ contentHeight := by
    intro row hrow
    exact (Finset.le_fold_max _).mpr
      (.inr ⟨row, Finset.mem_range.mpr hrow, (hmaxY row hrow).ge⟩)
  refine ⟨hbound, ?_⟩
  rcases Nat.eq_zero_or_pos k with rfl | hk
  · exact .inl ⟨rfl, rfl⟩
  · right
    have hself : contentHeight ≤ (Finset.range k).fold max 0 fun row =>
      (paddedFrame n cellWidth padding cellPadding heightForCell row).maxY := le_rfl
    rcases (Finset.le_fold_max _).mp hself with hzero | ⟨row, hrow, hle⟩
    · -- Every bottom is at least 0, and the height is at most 0.
      have htop := Columns.top_nonneg (n := n) (c := 0 % n)
        fun l hl => paddedHeight_nonneg hcell hheight l (hl.trans hk)
      have hfirst := hheight 0 hk
      refine ⟨0, hk, le_antisymm (hbound 0 hk) (hzero.trans ?_)⟩
      simp only [bottom, cellFrame]
      linarith
    · rw [Finset.mem_range] at hrow
      exact ⟨row, hrow, le_antisymm (hbound row hrow) (hle.trans (hmaxY row hrow).le)⟩

theorem getElem?_cellFrames {i : Nat} {f : CGRect}
    (h : ((List.range k).map (cellFrame n cellWidth padding cellPadding heightForCell))[i]? =
      some f) : i < k ∧ f = cellFrame n cellWidth padding cellPadding heightForCell i := by
  obtain ⟨row, hrow, rfl⟩ := List.getElem?_map .. ▸ h |> Option.map_eq_some_iff.mp
  obtain ⟨hi, rfl⟩ := List.getElem?_eq_some_iff.mp hrow
  simp at hi
  exact ⟨hi, by simp⟩

include hn hwidth hpadding hcell hheight in
theorem cellFrames_geometry :
    LiquidGeometry (Columns.left cellWidth padding n)
      (placement n cellWidth padding cellPadding heightForCell 0 k).contentHeight cellWidth
      cellPadding (fun row => heightForCell row cellWidth)
      ((List.range k).map (cellFrame n cellWidth padding cellPadding heightForCell)) := by
  obtain ⟨hbound, hreached⟩ := contentHeight_spec (n := n) padding hcell hheight
  have hmem : ∀ {f}, f ∈ (List.range k).map
      (cellFrame n cellWidth padding cellPadding heightForCell) →
      ∃ row, row < k ∧ cellFrame n cellWidth padding cellPadding heightForCell row = f := by
    simp
  have hcolumn : ∀ {i j}, (cellFrame n cellWidth padding cellPadding heightForCell i).x =
      (cellFrame n cellWidth padding cellPadding heightForCell j).x → j % n = i % n :=
    fun heq => (Columns.left_injective hwidth hpadding heq).symm
  constructor
  case widths =>
    intro f hf
    obtain ⟨row, _, rfl⟩ := hmem hf
    rfl
  case heights => simp [cellFrame]
  case disjoint =>
    rw [List.pairwise_iff_getElem]
    intro i j hi hj hlt
    simp only [List.length_map, List.length_range] at hj
    simp only [List.getElem_map, List.getElem_range]
    exact cellFrame_disjoint hn hwidth hpadding hcell hheight hlt hj
  case inside =>
    intro f hf
    obtain ⟨row, hrow, rfl⟩ := hmem hf
    have hright := Columns.left_add_width_add_gap_le hwidth.le hpadding (Nat.mod_lt row hn)
    have htop := Columns.top_nonneg (n := n) (c := row % n)
      fun l hl => paddedHeight_nonneg hcell hheight l (hl.trans hrow)
    have hbottom := hbound row hrow
    refine ⟨Columns.left_nonneg hwidth.le hpadding _, ?_, ?_, ?_⟩
    · simp only [cellFrame]; linarith
    · simp only [cellFrame]; linarith
    · simp only [cellFrame] at hbottom ⊢; linarith
  case stacked =>
    intro i j f g hlt hf hg hx
    obtain ⟨_, rfl⟩ := getElem?_cellFrames hf
    obtain ⟨hj, rfl⟩ := getElem?_cellFrames hg
    exact cellFrame_stacked padding hcell hheight hlt hj (hcolumn hx)
  case gap =>
    intro i j f g hlt hf hg hx hnext
    obtain ⟨_, rfl⟩ := getElem?_cellFrames hf
    obtain ⟨hj, rfl⟩ := getElem?_cellFrames hg
    refine cellFrame_gap hlt (hcolumn hx) fun l hil hlj hsame => ?_
    have hl : ((List.range k).map
        (cellFrame n cellWidth padding cellPadding heightForCell))[l]? =
          some (cellFrame n cellWidth padding cellPadding heightForCell l) := by
      simp [List.getElem?_range (hlj.trans hj)]
    exact hnext l _ hil hlj hl (by simp [cellFrame, hsame])
  case bounded =>
    intro f hf
    obtain ⟨row, hrow, rfl⟩ := hmem hf
    exact hbound row hrow
  case reached =>
    rcases hreached with ⟨rfl, hzero⟩ | ⟨row, hrow, heq⟩
    · exact .inl ⟨rfl, hzero⟩
    · exact .inr ⟨_, List.mem_map.mpr ⟨row, List.mem_range.mpr hrow, rfl⟩, heq⟩

end Frames

/-! ## The layout -/

/-- **The geometry of a prepared layout.** An empty layout whose cells fit the content
caches one frame for each item, in order, and lays them out without overlap. -/
theorem prepare_geometry {layout : ATCLiquidCollectionViewLayout} {view : UICollectionView}
    {delegate : ATCLiquidLayoutDelegate} (hview : layout.collectionView = some view)
    (hdelegate : layout.delegate = some delegate) (hcache : layout.cache = [])
    (hempty : layout.contentHeight = 0) (hwidth : 0 < delegate.cellWidth)
    (hfits : delegate.cellWidth ≤ layout.contentWidth) (hcell : 0 ≤ layout.cellPadding)
    (hheight : ∀ row, row < view.numberOfItems →
      0 ≤ delegate.heightForCell row delegate.cellWidth) :
    ∃ prepared frames, layout.prepare = .ok prepared ∧ frames.length = view.numberOfItems ∧
      prepared.cache = frames.mapIdx (fun row frame => ⟨row, some frame⟩) ∧
      LiquidGeometry layout.contentWidth prepared.contentHeight delegate.cellWidth
        layout.cellPadding (fun row => delegate.heightForCell row delegate.cellWidth) frames := by
  obtain ⟨n, hn, hcolumns, hpadding, hleft⟩ := columns_fill hwidth hfits
  obtain ⟨hcell', hview', _, hcache', hempty'⟩ := layout.resetChanged_keeps view
  have hcontent := layout.resetChanged_contentWidth view
  have hhas : (layout.resetChanged view).HasColumns view delegate := by
    left
    rw [hcontent, hcolumns]
    exact_mod_cast hn
  have hprepared := ATCLiquidCollectionViewLayout.fillCache_ok (hcache' hcache) hhas
  unfold ATCLiquidCollectionViewLayout.filled at hprepared
  rw [← ATCLiquidCollectionViewLayout.prepare_of_empty hview hdelegate hcache,
    hempty' hempty] at hprepared
  refine ⟨_, (List.range view.numberOfItems).map (cellFrame n delegate.cellWidth
    (horizontalPadding layout.contentWidth delegate.cellWidth) layout.cellPadding
    delegate.heightForCell), hprepared, by simp, ?_, ?_⟩
  · unfold ATCLiquidCollectionViewLayout.placed placement
    rw [hcontent, hcolumns, hcell']
    apply List.ext_getElem (by simp)
    intro row hrow _
    simp only [List.length_map, List.length_range] at hrow
    simp [paddedFrame_inset hwidth hcell hheight row hrow]
  · have hgeometry := cellFrames_geometry hn hwidth hpadding hcell hheight
    unfold ATCLiquidCollectionViewLayout.placed
    rw [hleft] at hgeometry
    rw [hcontent, hcolumns, hcell']
    exact hgeometry

def twoColumns : ATCLiquidCollectionViewLayout where
  cellPadding := 1
  collectionView := some
    { boundsWidth := 12, contentInsetLeft := 1, contentInsetRight := 1, numberOfItems := 3 }
  delegate := some { heightForCell := fun row _ => row + 1, cellWidth := 4 }

theorem prepare_geometry_twoColumns :
    ∃ prepared frames, twoColumns.prepare = .ok prepared ∧ frames.length = 3 ∧
      prepared.contentHeight = 8 ∧ LiquidGeometry 10 8 4 1 (fun row => row + 1) frames := by
  have hwidth : twoColumns.contentWidth = 10 := by decide +kernel
  have hheight : twoColumns.prepare.map (·.contentHeight) = .ok 8 := by decide +kernel
  have hview : twoColumns.collectionView = some ⟨12, 1, 1, 3⟩ := rfl
  obtain ⟨prepared, frames, hprepared, hlength, _, hgeometry⟩ :=
    prepare_geometry hview rfl rfl rfl (by norm_num) (by rw [hwidth]; norm_num)
      (by norm_num [twoColumns]) (fun row _ => by positivity)
  have hcontent : prepared.contentHeight = 8 := by
    rw [hprepared] at hheight
    exact Except.ok.inj hheight
  rw [hwidth, hcontent] at hgeometry
  exact ⟨prepared, frames, hprepared, hlength, hcontent, hgeometry⟩

end FinanceApp
