import FinanceApp.Lib.Columns
import Mathlib.Data.Rat.Floor
import Mathlib.Data.Finset.Fold

/-!
# The liquid layout

`ATCLiquidCollectionViewLayout` over exact coordinates: the frames it caches in
`prepare`, and the closed form of the loop that computes them.
-/

namespace FinanceApp

/-! ## Rectangles -/

structure CGRect where
  x : ℚ
  y : ℚ
  width : ℚ
  height : ℚ
  deriving DecidableEq, Repr

namespace CGRect

def standardized (r : CGRect) : CGRect where
  x := min r.x (r.x + r.width)
  y := min r.y (r.y + r.height)
  width := |r.width|
  height := |r.height|

def maxY (r : CGRect) : ℚ := max r.y (r.y + r.height)

/-- `none` is the null rectangle, the result when nothing is left. -/
def insetBy (r : CGRect) (dx dy : ℚ) : Option CGRect :=
  let r := r.standardized
  if r.width - 2 * dx < 0 ∨ r.height - 2 * dy < 0 then none
  else some ⟨r.x + dx, r.y + dy, r.width - 2 * dx, r.height - 2 * dy⟩

theorem insetBy_vertical {r : CGRect} {dy : ℚ} (hwidth : 0 ≤ r.width) (hdy : 0 ≤ dy)
    (hheight : 2 * dy ≤ r.height) :
    r.insetBy 0 dy = some ⟨r.x, r.y + dy, r.width, r.height - 2 * dy⟩ := by
  have hnonneg : 0 ≤ r.height := by linarith
  have hkept : ¬ (r.width < 0 ∨ r.height < 2 * dy) := by
    rw [not_or, not_lt, not_lt]
    exact ⟨hwidth, hheight⟩
  simp [insetBy, standardized, abs_of_nonneg hwidth, abs_of_nonneg hnonneg, hwidth, hnonneg, hkept]

end CGRect

/-! ## The layout -/

structure UICollectionView where
  boundsWidth : ℚ
  contentInsetLeft : ℚ := 0
  contentInsetRight : ℚ := 0
  numberOfItems : Nat

structure ATCLiquidLayoutDelegate where
  heightForCell : Nat → ℚ → ℚ
  cellWidth : ℚ

structure LayoutAttributes where
  row : Nat
  frame : Option CGRect
  deriving DecidableEq, Repr

structure ATCLiquidCollectionViewLayout where
  cellPadding : ℚ := 0
  collectionView : Option UICollectionView := none
  delegate : Option ATCLiquidLayoutDelegate := none
  cachedWidth : ℚ := 0
  cache : List LayoutAttributes := []
  contentHeight : ℚ := 0
  numberOfItems : Nat := 0

inductive Trap where
  | negativeRange
  | indexOutOfRange
  deriving DecidableEq, Repr

def truncate (q : ℚ) : Int := q.num.tdiv q.den

theorem truncate_eq_floor {q : ℚ} (h : 0 ≤ q) : truncate q = ⌊q⌋ := by
  rw [truncate, Int.tdiv_eq_ediv_of_nonneg (Rat.num_nonneg.mpr h), Rat.floor_def']

example : truncate (-7 / 2) = -3 := by decide +kernel

def numberOfColumns (contentWidth cellWidth : ℚ) : Int :=
  if cellWidth > 0 then truncate (contentWidth / cellWidth) else 1

/-- With -1 columns this divides by zero, which gives no trap and is not used: the range
of the columns traps, or the cache is not filled. -/
def horizontalPadding (contentWidth cellWidth : ℚ) : ℚ :=
  (contentWidth - numberOfColumns contentWidth cellWidth * cellWidth) /
    (numberOfColumns contentWidth cellWidth + 1)

structure Placement where
  column : Nat
  yOffset : List ℚ
  cache : List LayoutAttributes
  contentHeight : ℚ
  deriving DecidableEq

/-- The body of the loop. -/
def place (numberOfColumns : Int) (xOffset : List ℚ) (cellWidth cellPadding : ℚ)
    (heightForCell : Nat → ℚ → ℚ) (p : Placement) (row : Nat) : Except Trap Placement :=
  let cellHeight := heightForCell row cellWidth
  let height := cellPadding + cellHeight + cellPadding
  match xOffset[p.column]?, p.yOffset[p.column]? with
  | some x, some y =>
    let frame : CGRect := ⟨x, y, cellWidth, height⟩
    .ok {
      column := if p.column ≥ numberOfColumns - 1 then 0 else p.column + 1
      yOffset := p.yOffset.set p.column (y + height)
      cache := p.cache ++ [⟨row, frame.insetBy 0 cellPadding⟩]
      contentHeight := max p.contentHeight frame.maxY }
  | _, _ => .error .indexOutOfRange

namespace ATCLiquidCollectionViewLayout

variable (self : ATCLiquidCollectionViewLayout)

def contentWidth : ℚ :=
  match self.collectionView with
  | some view => view.boundsWidth - (view.contentInsetLeft + view.contentInsetRight)
  | none => 0

def collectionViewContentSize : ℚ × ℚ := (self.contentWidth, self.contentHeight)

/-- What `prepare` does when the cache is empty. -/
def fillCache (view : UICollectionView) (delegate : ATCLiquidLayoutDelegate) :
    Except Trap ATCLiquidCollectionViewLayout :=
  let cellWidth := delegate.cellWidth
  let columns := numberOfColumns self.contentWidth cellWidth
  let padding := horizontalPadding self.contentWidth cellWidth
  if columns < 0 then .error .negativeRange
  else
    let xOffset := (List.range columns.toNat).map fun column : Nat =>
      column * cellWidth + (column + 1) * padding
    let start : Placement :=
      ⟨0, List.replicate columns.toNat 0, self.cache, self.contentHeight⟩
    ((List.range view.numberOfItems).foldlM
      (place columns xOffset cellWidth self.cellPadding delegate.heightForCell) start).map fun p =>
        { self with
          cachedWidth := self.contentWidth
          cache := p.cache
          contentHeight := p.contentHeight }

def resetChanged (view : UICollectionView) : ATCLiquidCollectionViewLayout :=
  if self.contentWidth ≠ self.cachedWidth ∨ self.numberOfItems ≠ view.numberOfItems then
    { self with cache := [], contentHeight := 0, numberOfItems := view.numberOfItems }
  else self

def prepare : Except Trap ATCLiquidCollectionViewLayout :=
  match self.collectionView, self.delegate with
  | some view, some delegate =>
    let self := self.resetChanged view
    if self.cache.isEmpty then self.fillCache view delegate else .ok self
  | _, _ => .ok self

/-- `intersects` is `CGRect.intersects`; the null rectangle has no common point with any. -/
def layoutAttributesForElements (intersects : CGRect → CGRect → Bool) (rect : CGRect) :
    List LayoutAttributes :=
  self.cache.filter fun attributes => attributes.frame.any fun frame => intersects frame rect

def layoutAttributesForItem (row : Nat) : Option LayoutAttributes := self.cache[row]?

def invalidateCache : ATCLiquidCollectionViewLayout := { self with cache := [] }

end ATCLiquidCollectionViewLayout

/-! ## The loop in closed form -/

section Closed

variable (n : Nat) (cellWidth padding cellPadding : ℚ) (heightForCell : Nat → ℚ → ℚ)

def paddedHeight (row : Nat) : ℚ := cellPadding + heightForCell row cellWidth + cellPadding

/-- The frame of a row with its padding, from the heights of the rows above it. -/
def paddedFrame (row : Nat) : CGRect where
  x := Columns.left cellWidth padding (row % n)
  y := Columns.top n (paddedHeight cellWidth cellPadding heightForCell) (row % n) row
  width := cellWidth
  height := paddedHeight cellWidth cellPadding heightForCell row

/-- The variables of the loop after `k` rows. -/
def placement (contentHeight : ℚ) (k : Nat) : Placement :=
  let frame := paddedFrame n cellWidth padding cellPadding heightForCell
  { column := k % n
    yOffset := (List.range n).map fun c =>
      Columns.top n (paddedHeight cellWidth cellPadding heightForCell) c k
    cache := (List.range k).map fun row => ⟨row, (frame row).insetBy 0 cellPadding⟩
    contentHeight := (Finset.range k).fold max contentHeight fun row => (frame row).maxY }

end Closed

theorem next_column {n : Nat} (hn : 0 < n) (k : Nat) :
    (if ((k % n : Nat) : Int) ≥ (n : Int) - 1 then 0 else k % n + 1) = (k + 1) % n := by
  have hlt := Nat.mod_lt k hn
  rw [← Nat.mod_add_mod k n 1]
  split
  · have hlast : k % n + 1 = n := by omega
    rw [hlast, Nat.mod_self]
  · exact (Nat.mod_eq_of_lt (by omega)).symm

theorem set_yOffset (n : Nat) (height : Nat → ℚ) (k : Nat) :
    ((List.range n).map fun c => Columns.top n height c k).set (k % n)
        (Columns.top n height (k % n) k + height k) =
      (List.range n).map fun c => Columns.top n height c (k + 1) := by
  apply List.ext_getElem (by simp)
  intro c _ _
  rw [List.getElem_set]
  split
  · next heq =>
    subst heq
    simp [Columns.top_succ_self]
  · next hne => simp [Columns.top_succ_other n height hne]

section Loop

variable {n : Nat} (hn : 0 < n) (cellWidth padding cellPadding contentHeight : ℚ)
  (heightForCell : Nat → ℚ → ℚ)
include hn

theorem place_spec (k : Nat) :
    place n ((List.range n).map fun column : Nat => column * cellWidth + (column + 1) * padding)
        cellWidth cellPadding heightForCell
        (placement n cellWidth padding cellPadding heightForCell contentHeight k) k =
      .ok (placement n cellWidth padding cellPadding heightForCell contentHeight (k + 1)) := by
  have hlt := Nat.mod_lt k hn
  unfold place placement
  simp only [List.getElem?_map, List.getElem?_range hlt, Option.map_some]
  rw [next_column hn]
  have hset := set_yOffset n (paddedHeight cellWidth cellPadding heightForCell) k
  unfold paddedHeight at hset ⊢
  rw [hset, List.range_succ, List.map_append, Finset.range_add_one,
    Finset.fold_insert Finset.notMem_range_self, max_comm]
  rfl

theorem foldlM_place (k : Nat) :
    (List.range k).foldlM
        (place n
          ((List.range n).map fun column : Nat => column * cellWidth + (column + 1) * padding)
          cellWidth cellPadding heightForCell)
        (⟨0, List.replicate n 0, [], contentHeight⟩ : Placement) =
      .ok (placement n cellWidth padding cellPadding heightForCell contentHeight k) := by
  induction k with
  | zero =>
    simp [placement]
    rfl
  | succ k ih =>
    rw [List.range_succ, List.foldlM_append, ih]
    show (List.foldlM _ _ [k] : Except Trap Placement) = _
    rw [List.foldlM_cons, place_spec hn]
    rfl

end Loop

namespace ATCLiquidCollectionViewLayout

variable (self : ATCLiquidCollectionViewLayout) (view : UICollectionView)
  (delegate : ATCLiquidLayoutDelegate)

/-- The variables of the loop at its end, for a content height that it starts from. -/
def placed (contentHeight : ℚ) : Placement :=
  placement (numberOfColumns self.contentWidth delegate.cellWidth).toNat delegate.cellWidth
    (horizontalPadding self.contentWidth delegate.cellWidth) self.cellPadding
    delegate.heightForCell contentHeight view.numberOfItems

/-- There is a column, or nothing to put into one. -/
def HasColumns : Prop :=
  0 < numberOfColumns self.contentWidth delegate.cellWidth ∨
    numberOfColumns self.contentWidth delegate.cellWidth = 0 ∧ view.numberOfItems = 0

def filled : ATCLiquidCollectionViewLayout :=
  { self with
    cachedWidth := self.contentWidth
    cache := (self.placed view delegate self.contentHeight).cache
    contentHeight := (self.placed view delegate self.contentHeight).contentHeight }

variable {self view delegate}

theorem fillCache_ok (hcache : self.cache = []) (h : self.HasColumns view delegate) :
    self.fillCache view delegate = .ok (self.filled view delegate) := by
  unfold fillCache filled placed
  rw [hcache]
  rcases h with hpos | ⟨hzero, hitems⟩
  · obtain ⟨n, hn⟩ := Int.eq_ofNat_of_zero_le hpos.le
    rw [hn] at hpos
    have hloop := foldlM_place (n := n) (by omega) delegate.cellWidth
      (horizontalPadding self.contentWidth delegate.cellWidth) self.cellPadding
      self.contentHeight delegate.heightForCell view.numberOfItems
    simp only [hn, Int.toNat_natCast]
    rw [if_neg (by omega), hloop]
    rfl
  · simp [hzero, hitems, placement]
    rfl

theorem fillCache_error (h : ¬ self.HasColumns view delegate) :
    ∃ trap, self.fillCache view delegate = .error trap := by
  unfold HasColumns at h
  unfold fillCache
  by_cases hneg : numberOfColumns self.contentWidth delegate.cellWidth < 0
  · exact ⟨.negativeRange, by simp [hneg]⟩
  · -- Without a column, the first row has no offset.
    have hzero : numberOfColumns self.contentWidth delegate.cellWidth = 0 := by omega
    obtain ⟨k, hk⟩ := Nat.exists_eq_succ_of_ne_zero fun hitems => h (.inr ⟨hzero, hitems⟩)
    refine ⟨.indexOutOfRange, ?_⟩
    simp [hzero, hk, List.range_succ_eq_map, place]
    rfl

theorem fillCache_eq_ok {r : ATCLiquidCollectionViewLayout} (hcache : self.cache = []) :
    self.fillCache view delegate = .ok r ↔
      self.HasColumns view delegate ∧ r = self.filled view delegate := by
  by_cases h : self.HasColumns view delegate
  · rw [fillCache_ok hcache h, Except.ok.injEq]
    simp [h, eq_comm]
  · obtain ⟨trap, htrap⟩ := fillCache_error h
    simp [htrap, h]

theorem resetChanged_contentWidth (self : ATCLiquidCollectionViewLayout) (view : UICollectionView) :
    (self.resetChanged view).contentWidth = self.contentWidth := by
  unfold resetChanged
  split <;> rfl

theorem resetChanged_keeps (self : ATCLiquidCollectionViewLayout) (view : UICollectionView) :
    (self.resetChanged view).cellPadding = self.cellPadding ∧
    (self.resetChanged view).collectionView = self.collectionView ∧
    (self.resetChanged view).delegate = self.delegate ∧
    (self.cache = [] → (self.resetChanged view).cache = []) ∧
    (self.contentHeight = 0 → (self.resetChanged view).contentHeight = 0) := by
  unfold resetChanged
  split
  · exact ⟨rfl, rfl, rfl, fun _ => rfl, fun _ => rfl⟩
  · exact ⟨rfl, rfl, rfl, id, id⟩

theorem prepare_of_empty (hview : self.collectionView = some view)
    (hdelegate : self.delegate = some delegate) (hcache : self.cache = []) :
    self.prepare = (self.resetChanged view).fillCache view delegate := by
  have hreset := (self.resetChanged_keeps view).2.2.2.1 hcache
  simp [prepare, hview, hdelegate, hreset]

end ATCLiquidCollectionViewLayout

end FinanceApp
