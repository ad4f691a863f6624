import FinanceApp.DataSources
import FinanceApp.LiquidLayout.Geometry

/-!
# Lists in cards

A card on the home screen is as high as its number of objects says, at 67 points each. The
list inside lays out its rows by the heights of their adapters, which are 70.
-/

namespace FinanceApp

/-! ## Heights -/

theorem contentHeight_one_column {cellWidth padding cellPadding : ℚ} {heightForCell : Nat → ℚ → ℚ}
    {k : Nat} (hcell : 0 ≤ cellPadding)
    (hheight : ∀ row, row < k → 0 ≤ heightForCell row cellWidth) :
    (placement 1 cellWidth padding cellPadding heightForCell 0 k).contentHeight =
      ∑ row ∈ Finset.range k, paddedHeight cellWidth cellPadding heightForCell row := by
  have htop : ∀ row,
      Columns.top 1 (paddedHeight cellWidth cellPadding heightForCell) (row % 1) row =
      ∑ i ∈ Finset.range row, paddedHeight cellWidth cellPadding heightForCell i := by
    intro row
    simp [Columns.top, Nat.mod_one]
  have hbottom : ∀ row, (cellFrame 1 cellWidth padding cellPadding heightForCell row).y +
      heightForCell row cellWidth + cellPadding =
        ∑ i ∈ Finset.range (row + 1), paddedHeight cellWidth cellPadding heightForCell i := by
    intro row
    rw [Finset.sum_range_succ, ← htop]
    simp only [cellFrame, paddedHeight]
    ring
  obtain ⟨hbound, hreached⟩ := contentHeight_spec (n := 1) padding hcell hheight
  simp only [hbottom] at hbound hreached
  rcases hreached with ⟨rfl, hzero⟩ | ⟨row, hrow, hreached⟩
  · simpa using hzero
  · -- The last row ends the lowest, and no row ends lower.
    obtain ⟨last, rfl⟩ : ∃ last, k = last + 1 := ⟨k - 1, by omega⟩
    refine le_antisymm ?_ (hbound last (by omega))
    rw [← hreached]
    apply Finset.sum_le_sum_of_subset_of_nonneg (Finset.range_mono (by omega))
    intro i hi _
    exact paddedHeight_nonneg hcell hheight i (Finset.mem_range.mp hi)

theorem prepare_one_column {layout : ATCLiquidCollectionViewLayout} {view : UICollectionView}
    {delegate : ATCLiquidLayoutDelegate} (hview : layout.collectionView = some view)
    (hdelegate : layout.delegate = some delegate) (hcache : layout.cache = [])
    (hempty : layout.contentHeight = 0)
    (hcolumns : numberOfColumns layout.contentWidth delegate.cellWidth = 1)
    (hcell : 0 ≤ layout.cellPadding)
    (hheight : ∀ row, row < view.numberOfItems →
      0 ≤ delegate.heightForCell row delegate.cellWidth) :
    ∃ prepared, layout.prepare = .ok prepared ∧ prepared.contentHeight =
      ∑ row ∈ Finset.range view.numberOfItems,
        paddedHeight delegate.cellWidth layout.cellPadding delegate.heightForCell row := by
  obtain ⟨hcell', _, _, hcache', hempty'⟩ := layout.resetChanged_keeps view
  have hcontent := layout.resetChanged_contentWidth view
  have hhas : (layout.resetChanged view).HasColumns view delegate := by
    left
    rw [hcontent, hcolumns]
    exact one_pos
  have hprepared := ATCLiquidCollectionViewLayout.fillCache_ok (hcache' hcache) hhas
  rw [← ATCLiquidCollectionViewLayout.prepare_of_empty hview hdelegate hcache] at hprepared
  refine ⟨_, hprepared, ?_⟩
  unfold ATCLiquidCollectionViewLayout.filled ATCLiquidCollectionViewLayout.placed
  rw [hempty' hempty, hcontent, hcolumns, hcell']
  exact contentHeight_one_column hcell hheight

/-! ## The list in a card -/

structure CGSize where
  width : ℚ
  height : ℚ
  deriving DecidableEq, Repr

def CGSize.zero : CGSize := ⟨0, 0⟩

/-- The objects of the lists in the cards: the header, and the accounts. -/
inductive CardObject where
  | cardHeaderModel (title : String)
  | financeAccount (title : String)
  deriving DecidableEq, Repr

def CardHeaderRowAdapter.size (containerBoundsWidth : ℚ) : CardObject → CGSize
  | .cardHeaderModel _ => ⟨containerBoundsWidth, 70⟩
  | .financeAccount _ => .zero

def FinanceAccountRowAdapter.size (containerBoundsWidth : ℚ) : CardObject → CGSize
  | .cardHeaderModel _ => .zero
  | .financeAccount _ => ⟨containerBoundsWidth, 70⟩

/-- `adapter(at:)` and then its `size`: there is an adapter for each class. -/
def CardObject.size (object : CardObject) (containerBoundsWidth : ℚ) : CGSize :=
  match object with
  | .cardHeaderModel _ => CardHeaderRowAdapter.size containerBoundsWidth object
  | .financeAccount _ => FinanceAccountRowAdapter.size containerBoundsWidth object

@[simp] theorem CardObject.size_eq (object : CardObject) (width : ℚ) :
    object.size width = ⟨width, 70⟩ := by
  cases object <;> rfl

/-- `size(collectionView:indexPath:)`. -/
def cardRowSize (dataSource : ATCGenericLocalHeteroDataSource CardObject) (boundsWidth : ℚ)
    (row : Nat) : CGSize :=
  match dataSource.items[row]? with
  | some object => object.size boundsWidth
  | none => .zero

/-- The view controller of the list, as the delegate of its layout. -/
def cardDelegate (dataSource : ATCGenericLocalHeteroDataSource CardObject) (boundsWidth : ℚ) :
    ATCLiquidLayoutDelegate where
  heightForCell row _ := (cardRowSize dataSource boundsWidth row).height
  cellWidth := (cardRowSize dataSource boundsWidth 0).width

/-- The layout of the list, when its view has got its width. -/
def cardLayout (dataSource : ATCGenericLocalHeteroDataSource CardObject) (boundsWidth : ℚ) :
    ATCLiquidCollectionViewLayout where
  collectionView := some { boundsWidth, numberOfItems := dataSource.numberOfObjects }
  delegate := some (cardDelegate dataSource boundsWidth)

theorem cardRowSize_of_lt {dataSource : ATCGenericLocalHeteroDataSource CardObject} {row : Nat}
    (boundsWidth : ℚ) (h : row < dataSource.numberOfObjects) :
    cardRowSize dataSource boundsWidth row = ⟨boundsWidth, 70⟩ := by
  have hget : dataSource.items[row]? = some dataSource.items[row] := List.getElem?_eq_getElem h
  rw [cardRowSize, hget]
  exact CardObject.size_eq _ _

theorem cardLayout_columns (dataSource : ATCGenericLocalHeteroDataSource CardObject)
    (boundsWidth : ℚ) :
    numberOfColumns (cardLayout dataSource boundsWidth).contentWidth
      (cardRowSize dataSource boundsWidth 0).width = 1 := by
  have hwidth : (cardLayout dataSource boundsWidth).contentWidth = boundsWidth := by
    simp [cardLayout, ATCLiquidCollectionViewLayout.contentWidth]
  rw [hwidth, numberOfColumns]
  split
  · next hpos =>
    have hfirst : (cardRowSize dataSource boundsWidth 0).width = boundsWidth := by
      rcases Nat.eq_zero_or_pos dataSource.numberOfObjects with hnone | hsome
      · have hnil : dataSource.items = [] := List.length_eq_zero_iff.mp hnone
        simp [cardRowSize, hnil, CGSize.zero] at hpos
      · rw [cardRowSize_of_lt boundsWidth hsome]
    rw [hfirst] at hpos ⊢
    rw [div_self hpos.ne']
    rfl
  · rfl

theorem cardLayout_prepare (dataSource : ATCGenericLocalHeteroDataSource CardObject)
    (boundsWidth : ℚ) :
    ∃ layout, (cardLayout dataSource boundsWidth).prepare = .ok layout ∧
      layout.contentHeight = 70 * dataSource.numberOfObjects := by
  have hheight : ∀ row, row < dataSource.numberOfObjects →
      (cardRowSize dataSource boundsWidth row).height = 70 := by
    intro row hrow
    rw [cardRowSize_of_lt boundsWidth hrow]
  have hnonneg : ∀ row, row < dataSource.numberOfObjects →
      0 ≤ (cardRowSize dataSource boundsWidth row).height := by
    intro row hrow
    rw [hheight row hrow]
    norm_num
  obtain ⟨layout, hprepare, hcontent⟩ := @prepare_one_column (cardLayout dataSource boundsWidth) _
    (cardDelegate dataSource boundsWidth) rfl rfl rfl rfl
    (cardLayout_columns dataSource boundsWidth) le_rfl hnonneg
  refine ⟨layout, hprepare, ?_⟩
  rw [hcontent, Finset.sum_congr rfl (g := fun _ => 70)]
  · simp [mul_comm]
  · intro row hrow
    simp [paddedHeight, cardDelegate, cardLayout, hheight row (Finset.mem_range.mp hrow)]

/-! ## The card -/

/-- `genericDataSource` is that of the view controller, where that is a collection view
controller and has one. -/
structure ATCViewControllerContainerViewModel where
  cellHeight : Option ℚ := none
  subcellHeight : Option ℚ := none
  genericDataSource : Option (ATCGenericLocalHeteroDataSource CardObject) := none

/-- `none` is the fatal error. -/
def ATCCardViewControllerContainerRowAdapter.size (containerBoundsWidth : ℚ)
    (viewModel : ATCViewControllerContainerViewModel) : Option CGSize :=
  match viewModel.cellHeight, viewModel.genericDataSource, viewModel.subcellHeight with
  | some cellHeight, _, _ => some ⟨containerBoundsWidth, cellHeight⟩
  | none, some dataSource, some subcellHeight =>
    some ⟨containerBoundsWidth, dataSource.numberOfObjects * subcellHeight⟩
  | none, _, _ => none

/-- The cards for cash, investments and liabilities. -/
def homeCard (dataSource : ATCGenericLocalHeteroDataSource CardObject) :
    ATCViewControllerContainerViewModel where
  subcellHeight := some 67
  genericDataSource := some dataSource

/-- No row of the list is cut off by the end of its card. -/
def CardShowsAll (containerBoundsWidth boundsWidth : ℚ) (items : List CardObject) : Prop :=
  ∃ size layout,
    ATCCardViewControllerContainerRowAdapter.size containerBoundsWidth (homeCard ⟨items⟩) =
        some size ∧
      (cardLayout ⟨items⟩ boundsWidth).prepare = .ok layout ∧ layout.contentHeight ≤ size.height

/-- **A card shows all its rows exactly when** it has none: each is 3 points too high. -/
theorem card_shows_all_iff (containerBoundsWidth boundsWidth : ℚ) (items : List CardObject) :
    CardShowsAll containerBoundsWidth boundsWidth items ↔ items = [] := by
  obtain ⟨layout, hprepare, hheight⟩ := cardLayout_prepare ⟨items⟩ boundsWidth
  have hfits : CardShowsAll containerBoundsWidth boundsWidth items ↔
      (70 : ℚ) * items.length ≤ items.length * 67 := by
    constructor
    · rintro ⟨size, layout', ⟨⟩, hprepare', hle⟩
      obtain rfl := Except.ok.inj (hprepare.symm.trans hprepare')
      rw [hheight] at hle
      exact hle
    · intro hle
      refine ⟨_, layout, rfl, hprepare, ?_⟩
      rw [hheight]
      exact hle
  rw [hfits, ← List.length_eq_zero_iff]
  constructor
  · intro hle
    have hlength : (items.length : ℚ) ≤ 0 := by linarith
    exact Nat.le_zero.mp (by exact_mod_cast hlength)
  · intro hzero
    simp [hzero]

theorem header_is_clipped :
    ¬ ∀ containerBoundsWidth boundsWidth items,
      CardShowsAll containerBoundsWidth boundsWidth items := by
  -- The header alone is cut off.
  intro hall
  obtain ⟨size, layout, ⟨⟩, hprepare, hle⟩ := hall 375 355 [.cardHeaderModel "Cash"]
  obtain ⟨layout', hprepare', hheight⟩ := cardLayout_prepare ⟨[.cardHeaderModel "Cash"]⟩ 355
  obtain rfl := Except.ok.inj (hprepare'.symm.trans hprepare)
  rw [hheight] at hle
  norm_num [ATCGenericLocalHeteroDataSource.numberOfObjects] at hle

end FinanceApp
