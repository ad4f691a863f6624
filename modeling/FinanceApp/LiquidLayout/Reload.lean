import FinanceApp.Lib.Machine
import FinanceApp.LiquidLayout.Prepare

/-!
# The caches of the liquid layout across reloads

A reload empties the cache of frames, and only `prepare` resets the content height, when
the width or the number of items has changed. When the two are in step again after a
reload, and when they are not.
-/

namespace FinanceApp

namespace ATCLiquidCollectionViewLayout

/-- A new layout object for the same collection view and delegate. -/
def fresh (self : ATCLiquidCollectionViewLayout) : ATCLiquidCollectionViewLayout where
  cellPadding := self.cellPadding
  collectionView := self.collectionView
  delegate := self.delegate

structure Agrees (l m : ATCLiquidCollectionViewLayout) : Prop where
  elements : ∀ intersects rect,
    l.layoutAttributesForElements intersects rect = m.layoutAttributesForElements intersects rect
  items : ∀ row, l.layoutAttributesForItem row = m.layoutAttributesForItem row
  contentSize : l.collectionViewContentSize = m.collectionViewContentSize

/-- The content height from before is 0, or dropped by the next `prepare`, or no more than
the padded bottom of a row of the current data. -/
def HeightReached (self : ATCLiquidCollectionViewLayout) : Prop :=
  self.contentHeight = 0 ∨
    ∃ view delegate, self.collectionView = some view ∧ self.delegate = some delegate ∧
      (self.contentWidth ≠ self.cachedWidth ∨ self.numberOfItems ≠ view.numberOfItems ∨
        ∃ row, row < view.numberOfItems ∧ self.contentHeight ≤
          (paddedFrame (numberOfColumns self.contentWidth delegate.cellWidth).toNat
            delegate.cellWidth (horizontalPadding self.contentWidth delegate.cellWidth)
            self.cellPadding delegate.heightForCell row).maxY)

/-! ## One prepare -/

variable {self r : ATCLiquidCollectionViewLayout}

theorem agrees_iff {l m : ATCLiquidCollectionViewLayout} (hcache : l.cache = m.cache)
    (hfresh : l.fresh = m.fresh) : Agrees l m ↔ l.contentHeight = m.contentHeight := by
  have hwidth : l.fresh.contentWidth = m.fresh.contentWidth := by rw [hfresh]
  change l.contentWidth = m.contentWidth at hwidth
  constructor
  · intro h
    exact (Prod.mk.inj h.contentSize).2
  · intro hheight
    refine ⟨fun _ _ => ?_, fun _ => ?_, ?_⟩
    · unfold layoutAttributesForElements; rw [hcache]
    · unfold layoutAttributesForItem; rw [hcache]
    · unfold collectionViewContentSize; rw [hwidth, hheight]

theorem prepare_of_none (h : self.collectionView = none ∨ self.delegate = none) :
    self.prepare = .ok self := by
  unfold prepare
  rcases h with h | h
  · rw [h]
  · rw [h]
    cases self.collectionView <;> rfl

theorem prepare_spec {view : UICollectionView} {delegate : ATCLiquidLayoutDelegate}
    (hview : self.collectionView = some view) (hdelegate : self.delegate = some delegate)
    (hcache : self.cache = []) (h : self.prepare = .ok r) :
    self.HasColumns view delegate ∧ r.fresh = self.fresh ∧
      r.cache = (self.placed view delegate 0).cache ∧
      r.contentHeight =
        (self.placed view delegate (self.resetChanged view).contentHeight).contentHeight := by
  obtain ⟨hcell, hview', hdelegate', hcache', _⟩ := self.resetChanged_keeps view
  have hwidth := self.resetChanged_contentWidth view
  rw [prepare_of_empty hview hdelegate hcache, fillCache_eq_ok (hcache' hcache)] at h
  obtain ⟨hcolumns, rfl⟩ := h
  unfold HasColumns filled placed fresh at *
  rw [hwidth] at hcolumns
  simp only [hwidth, hcell, hview', hdelegate']
  exact ⟨hcolumns, trivial, rfl, trivial⟩

theorem prepare_ok {view : UICollectionView} {delegate : ATCLiquidLayoutDelegate}
    (hview : self.collectionView = some view) (hdelegate : self.delegate = some delegate)
    (hcache : self.cache = []) (h : self.HasColumns view delegate) :
    ∃ r, self.prepare = .ok r := by
  have hcolumns : (self.resetChanged view).HasColumns view delegate := by
    unfold HasColumns at *
    rw [self.resetChanged_contentWidth view]
    exact h
  rw [prepare_of_empty hview hdelegate hcache]
  exact ⟨_, fillCache_ok ((self.resetChanged_keeps view).2.2.2.1 hcache) hcolumns⟩

theorem fold_max_eq_iff {c : ℚ} (hc : 0 ≤ c) (k : Nat) (f : Nat → ℚ) :
    (Finset.range k).fold max c f = (Finset.range k).fold max 0 f ↔
      c = 0 ∨ ∃ row, row < k ∧ c ≤ f row := by
  constructor
  · intro heq
    have hle : c ≤ (Finset.range k).fold max 0 f := heq ▸ (Finset.le_fold_max c).mpr (.inl le_rfl)
    rcases (Finset.le_fold_max c).mp hle with hzero | ⟨row, hrow, hrow'⟩
    · exact .inl (le_antisymm hzero hc)
    · exact .inr ⟨row, Finset.mem_range.mp hrow, hrow'⟩
  · rintro (rfl | ⟨row, hrow, hle⟩)
    · rfl
    · have hmem : ∀ c' : ℚ, ∀ l ∈ Finset.range k, f l ≤ (Finset.range k).fold max c' f :=
        fun c' l hl => (Finset.le_fold_max _).mpr (.inr ⟨l, hl, le_rfl⟩)
      apply le_antisymm
      · exact (Finset.fold_max_le _).mpr
          ⟨hle.trans (hmem 0 row (Finset.mem_range.mpr hrow)), hmem 0⟩
      · exact (Finset.fold_max_le _).mpr
          ⟨hc.trans ((Finset.le_fold_max c).mpr (.inl le_rfl)), hmem c⟩

theorem le_placed {view : UICollectionView} {delegate : ATCLiquidLayoutDelegate} (c : ℚ) :
    c ≤ (self.placed view delegate c).contentHeight :=
  (Finset.le_fold_max c).mpr (.inl le_rfl)

theorem prepare_contentHeight (hnonneg : 0 ≤ self.contentHeight) (h : self.prepare = .ok r) :
    0 ≤ r.contentHeight := by
  have hreset : ∀ view, 0 ≤ (self.resetChanged view).contentHeight := by
    intro view
    unfold resetChanged
    split
    · exact le_rfl
    · exact hnonneg
  unfold prepare at h
  split at h
  · next view delegate _ _ =>
    simp only at h
    split at h
    · next hcache =>
      obtain ⟨_, rfl⟩ := (fillCache_eq_ok (List.isEmpty_iff.mp hcache)).mp h
      exact (hreset view).trans (le_placed _)
    · obtain rfl := Except.ok.inj h
      exact hreset view
  · obtain rfl := Except.ok.inj h
    exact hnonneg

theorem prepare_agrees_iff (hcache : self.cache = []) (hnonneg : 0 ≤ self.contentHeight)
    (h : self.prepare = .ok r) :
    (∃ f, r.fresh.prepare = .ok f ∧ Agrees r f) ↔ self.HeightReached := by
  by_cases hnone : self.collectionView = none ∨ self.delegate = none
  · -- Nothing is prepared.
    rw [prepare_of_none hnone, Except.ok.injEq] at h
    subst h
    have hfresh : self.fresh.collectionView = none ∨ self.fresh.delegate = none := hnone
    rw [prepare_of_none hfresh]
    have hagrees : Agrees self self.fresh ↔ self.contentHeight = 0 := agrees_iff hcache rfl
    simp only [Except.ok.injEq, exists_eq_left', hagrees, HeightReached]
    rcases hnone with hview | hdelegate
    · simp [hview]
    · simp [hdelegate]
  · rw [not_or] at hnone
    obtain ⟨view, hview⟩ := Option.ne_none_iff_exists'.mp hnone.1
    obtain ⟨delegate, hdelegate⟩ := Option.ne_none_iff_exists'.mp hnone.2
    obtain ⟨hcolumns, hfresh, hcache', hheight⟩ := prepare_spec hview hdelegate hcache h
    have hviewF : self.fresh.collectionView = some view := hview
    obtain ⟨f, hf⟩ := prepare_ok hviewF hdelegate rfl hcolumns
    obtain ⟨_, hfresh', hcacheF, hheightF⟩ := prepare_spec hviewF hdelegate rfl hf
    have hagrees := agrees_iff (hcache'.trans hcacheF.symm) (hfresh.trans hfresh'.symm)
    rw [(self.fresh.resetChanged_keeps view).2.2.2.2 rfl] at hheightF
    have hsame : (self.fresh.placed view delegate 0).contentHeight =
      (self.placed view delegate 0).contentHeight := rfl
    simp only [hfresh, hf, Except.ok.injEq, exists_eq_left', hagrees, hheight, hheightF, hsame,
      HeightReached, hview, hdelegate, Option.some.injEq, ↓existsAndEq, true_and]
    by_cases hchanged :
        self.contentWidth ≠ self.cachedWidth ∨ self.numberOfItems ≠ view.numberOfItems
    · -- The height starts from 0, as in a fresh layout.
      have hzero : (self.resetChanged view).contentHeight = 0 := by
        unfold resetChanged
        rw [if_pos hchanged]
      rw [hzero]
      refine iff_of_true rfl (.inr ?_)
      rcases hchanged with hwidth | hitems
      · exact .inl hwidth
      · exact .inr (.inl hitems)
    · have hkept : (self.resetChanged view).contentHeight = self.contentHeight := by
        unfold resetChanged
        rw [if_neg hchanged]
      rw [hkept]
      rw [not_or] at hchanged
      simp only [hchanged.1, hchanged.2, false_or]
      exact fold_max_eq_iff hnonneg _ _

end ATCLiquidCollectionViewLayout

/-! ## Runs -/

/-- A layout in its collection view, and whether it was reloaded since it was prepared. -/
structure LayoutSession where
  layout : ATCLiquidCollectionViewLayout
  reloaded : Bool := false

inductive LayoutAction where
  | change (collectionView : Option UICollectionView) (delegate : Option ATCLiquidLayoutDelegate)
  | reload
  | prepare

namespace LayoutSession

/-- A `change` is of the data, its heights, the width or the insets. -/
def step (s : LayoutSession) : LayoutAction → Option (LayoutSession × Unit)
  | .change collectionView delegate =>
    some ({ s with layout.collectionView := collectionView, layout.delegate := delegate }, ())
  | .reload => some ({ layout := s.layout.invalidateCache, reloaded := true }, ())
  | .prepare =>
    match s.layout.prepare with
    | .ok layout => some ({ layout }, ())
    | .error _ => none

def machine : Machine LayoutSession LayoutAction Unit := ⟨step⟩

/-- The `prepare` that follows a reload leaves what a fresh layout would compute. -/
def Coherent (s : LayoutSession) (a : LayoutAction) (s' : LayoutSession) (_ : Unit) : Prop :=
  a = .prepare → s.reloaded = true →
    ∃ f, s'.layout.fresh.prepare = .ok f ∧ s'.layout.Agrees f

def Reached (s : LayoutSession) (a : LayoutAction) (_ : LayoutSession) (_ : Unit) : Prop :=
  a = .prepare → s.reloaded = true → s.layout.HeightReached

structure Sound (s : LayoutSession) : Prop where
  emptied : s.reloaded = true → s.layout.cache = []
  nonneg : 0 ≤ s.layout.contentHeight

theorem step_prepare {s s' : LayoutSession} {e : Unit}
    (h : machine.step s .prepare = some (s', e)) :
    s.layout.prepare = .ok s'.layout ∧ s'.reloaded = false := by
  simp only [machine, step] at h
  split at h
  · next layout hlayout =>
    obtain ⟨rfl, _⟩ := Prod.mk.inj (Option.some.inj h)
    exact ⟨hlayout, rfl⟩
  · simp at h

theorem step_sound {s s' : LayoutSession} {a : LayoutAction} {e : Unit} (hs : Sound s)
    (h : machine.step s a = some (s', e)) : Sound s' := by
  rcases a with ⟨collectionView, delegate⟩ | _ | _
  · obtain ⟨rfl, _⟩ := Prod.mk.inj (Option.some.inj h)
    exact ⟨hs.emptied, hs.nonneg⟩
  · obtain ⟨rfl, _⟩ := Prod.mk.inj (Option.some.inj h)
    exact ⟨fun _ => rfl, hs.nonneg⟩
  · obtain ⟨hprepare, hreloaded⟩ := step_prepare h
    refine ⟨fun htrue => ?_, ATCLiquidCollectionViewLayout.prepare_contentHeight hs.nonneg hprepare⟩
    rw [hreloaded] at htrue
    cases htrue

def initial (cellPadding : ℚ) (collectionView : Option UICollectionView)
    (delegate : Option ATCLiquidLayoutDelegate) : LayoutSession where
  layout := { cellPadding, collectionView, delegate }

/-- **A reloaded layout is as good as new exactly when its old content height is reached**:
over any run of a new layout, each `prepare` after a reload drops the height from before
or finds a row that far down. -/
theorem coherent_iff (cellPadding : ℚ) (collectionView : Option UICollectionView)
    (delegate : Option ATCLiquidLayoutDelegate) (as : List LayoutAction) :
    machine.Always Coherent (initial cellPadding collectionView delegate) as ↔
      machine.Always Reached (initial cellPadding collectionView delegate) as := by
  refine machine.always_congr ⟨fun _ => rfl, le_rfl⟩ step_sound ?_
  intro s a s' e hs h
  constructor
  · rintro hcoherent rfl hreloaded
    obtain ⟨hprepare, _⟩ := step_prepare h
    have hagrees := ATCLiquidCollectionViewLayout.prepare_agrees_iff (hs.emptied hreloaded)
      hs.nonneg hprepare
    exact hagrees.mp (hcoherent rfl hreloaded)
  · rintro hreached rfl hreloaded
    obtain ⟨hprepare, _⟩ := step_prepare h
    have hagrees := ATCLiquidCollectionViewLayout.prepare_agrees_iff (hs.emptied hreloaded)
      hs.nonneg hprepare
    exact hagrees.mpr (hreached rfl hreloaded)

end LayoutSession

def oneItem (height : ℚ) : LayoutAction :=
  .change (some { boundsWidth := 10, numberOfItems := 1 })
    (some { heightForCell := fun _ _ => height, cellWidth := 10 })

def shorterItem : List LayoutAction := [oneItem 5, .prepare, oneItem 2, .reload]

theorem reloaded_height_stays :
    ¬ ∀ as, LayoutSession.machine.Always LayoutSession.Coherent (.initial 0 none none) as := by
  -- The item becomes shorter, and the content keeps the height that it had.
  intro hall
  have hbefore : (LayoutSession.machine.run (.initial 0 none none) shorterItem).map
      (·.1.reloaded) = some true := by decide +kernel
  have hafter : (LayoutSession.machine.run (.initial 0 none none) (shorterItem ++ [.prepare])).map
      (fun r => (r.1.layout.contentHeight,
        r.1.layout.fresh.prepare.toOption.map (·.contentHeight))) = some (5, some 2) := by
    decide +kernel
  obtain ⟨⟨s', log⟩, h, hs⟩ := Option.map_eq_some_iff.mp hafter
  obtain ⟨s, es, e, hrun, rfl, hcoherent⟩ := LayoutSession.machine.always_last (hall _) h
  rw [hrun, Option.map_some, Option.some.injEq] at hbefore
  obtain ⟨f, hf, hagrees⟩ := hcoherent rfl hbefore
  have hheight := congrArg Prod.snd hagrees.contentSize
  simp only [hf, Except.toOption, Option.map_some, Prod.mk.injEq, Option.some.injEq] at hs
  exact absurd (hs.1.symm.trans (hheight.trans hs.2)) (by norm_num)

end FinanceApp
