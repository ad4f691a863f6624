import FinanceApp.Host.Drawer
import FinanceApp.LiquidLayout.Cards
import FinanceApp.LiquidLayout.Reload

/-!
# Touches that lead to the screens of the menu

The liquid layout stands the rows of the menu below each other, and the menu is scrolled to
the row that is wanted. On a screen only the left item of the navigation bar is touched: it is
the button of the menu where the screen has it, and else the one that leads back.
-/

namespace FinanceApp

namespace DrawerSession

variable (s : DrawerSession)

/-! ## What is under the finger -/

/-- The layout of the menu before it is prepared, with the sizes of `ATCMenuItemRowAdapter`. -/
def menuLayout (itemHeight : ℚ) : ATCLiquidCollectionViewLayout where
  collectionView :=
    some { boundsWidth := s.menuFrame.width, numberOfItems := s.drawer.menuItems.length }
  delegate := some { heightForCell := fun _ _ => itemHeight, cellWidth := s.menuFrame.width }

/-- `contentInset.top` after the layout of the menu. -/
def menuInset (contentHeight : ℚ) : ℚ := max ((s.menuFrame.height - contentHeight) / 3) 0

/-- The offsets that a scroll view with this inset stops at, without a safe area. -/
def ScrollsTo (contentHeight offset : ℚ) : Prop :=
  -s.menuInset contentHeight ≤ offset ∧
    offset ≤ max (-s.menuInset contentHeight) (contentHeight - s.menuFrame.height)

/-- The menu can be scrolled so that the point is on the row. -/
def RowUnder (itemHeight x y : ℚ) (row : Nat) : Prop :=
  ∃ prepared offset frame, (s.menuLayout itemHeight).prepare = .ok prepared ∧
    s.ScrollsTo prepared.contentHeight offset ∧
    prepared.layoutAttributesForItem row = some ⟨row, some frame⟩ ∧ frame.contains x (y + offset)

/-- A screen with a left item of its own has it in the place of the one that leads back. -/
def leftBarItem : RootContent :=
  if s.viewControllers.getLast?.any (s.menuButtons.contains ·) then .menuButton
  else if 1 < s.viewControllers.length then .back
  else .nothing

/-- A tap on a row of the menu that is under the finger, or on the left item of the bar. -/
inductive TapsAtPoint (itemHeight : ℚ) (leftItemFrame : CGRect) :
    DrawerSession → DrawerAction → DrawerSession → DrawerEvent → Prop where
  | row {s s' : DrawerSession} {x y : ℚ} {row : Nat} {content : RootContent} {e : DrawerEvent}
      (hit : s.hitTest x y = some .menu) (under : s.RowUnder itemHeight x y row) :
      TapsAtPoint itemHeight leftItemFrame s (.touch x y .tap row content) s' e
  | leftItem {s s' : DrawerSession} {x y : ℚ} {row : Nat} {e : DrawerEvent}
      (hit : s.hitTest x y = some .root) (under : leftItemFrame.contains x y) :
      TapsAtPoint itemHeight leftItemFrame s (.touch x y .tap row s.leftBarItem) s' e

variable {s}

/-! ## The rows of the menu -/

theorem numberOfColumns_self {width : ℚ} (h : 0 < width) : numberOfColumns width width = 1 := by
  rw [numberOfColumns, if_pos h, div_self h.ne']
  rfl

theorem cellFrame_one_column (width itemHeight : ℚ) (row : Nat) :
    cellFrame 1 width 0 0 (fun _ _ => itemHeight) row =
      ⟨0, row * itemHeight, width, itemHeight⟩ := by
  simp [cellFrame, Columns.left, Columns.top, paddedHeight, Nat.mod_one]

theorem prepare_menuLayout {itemHeight : ℚ} (hitem : 0 < itemHeight)
    (hwidth : 0 < s.menuFrame.width) :
    ∃ prepared, (s.menuLayout itemHeight).prepare = .ok prepared ∧
      prepared.contentHeight = s.drawer.menuItems.length * itemHeight ∧
      ∀ row < s.drawer.menuItems.length, prepared.layoutAttributesForItem row =
        some ⟨row, some ⟨0, row * itemHeight, s.menuFrame.width, itemHeight⟩⟩ := by
  have hcontentWidth : (s.menuLayout itemHeight).contentWidth = s.menuFrame.width := by
    simp [menuLayout, ATCLiquidCollectionViewLayout.contentWidth]
  have hcolumns : numberOfColumns (s.menuLayout itemHeight).contentWidth s.menuFrame.width = 1 := by
    rw [hcontentWidth, numberOfColumns_self hwidth]
  obtain ⟨prepared, hprepared, hheight⟩ := @prepare_one_column (s.menuLayout itemHeight) _ _
    rfl rfl rfl rfl hcolumns le_rfl fun _ _ => hitem.le
  obtain ⟨_, _, hcache, _⟩ := ATCLiquidCollectionViewLayout.prepare_spec rfl rfl rfl hprepared
  refine ⟨prepared, hprepared, ?_, fun row hrow => ?_⟩
  · rw [hheight]
    simp [paddedHeight, menuLayout]
  · have hpadding : horizontalPadding s.menuFrame.width s.menuFrame.width = 0 := by
      simp [horizontalPadding, numberOfColumns_self hwidth]
    have hinset : (paddedFrame 1 s.menuFrame.width 0 0 (fun _ _ => itemHeight) row).insetBy 0 0 =
        some ⟨0, row * itemHeight, s.menuFrame.width, itemHeight⟩ := by
      rw [paddedFrame_inset hwidth le_rfl (fun _ _ => hitem.le) row hrow, cellFrame_one_column]
    rw [ATCLiquidCollectionViewLayout.layoutAttributesForItem, hcache,
      ATCLiquidCollectionViewLayout.placed, hcontentWidth]
    simp only [menuLayout, numberOfColumns_self hwidth, hpadding, placement, List.getElem?_map,
      List.getElem?_range hrow, Option.map_some, Int.toNat_one, hinset]

theorem exists_rowUnder {itemHeight : ℚ} {row : Nat} (hitem : 0 < itemHeight)
    (hwidth : 0 < s.menuFrame.width) (hheight : 0 < s.menuFrame.height)
    (hrow : row < s.drawer.menuItems.length) :
    ∃ y, 0 ≤ y ∧ y < s.menuFrame.height ∧ s.RowUnder itemHeight 0 y row := by
  obtain ⟨prepared, hprepared, hcontent, hrows⟩ := prepare_menuLayout hitem hwidth
  have habove : (0 : ℚ) ≤ row * itemHeight := by positivity
  have hbelow : row * itemHeight + itemHeight ≤ prepared.contentHeight := by
    have hcast : (row : ℚ) + 1 ≤ s.drawer.menuItems.length := by exact_mod_cast hrow
    calc row * itemHeight + itemHeight = (row + 1) * itemHeight := by ring
      _ ≤ s.drawer.menuItems.length * itemHeight := mul_le_mul_of_nonneg_right hcast hitem.le
      _ = prepared.contentHeight := hcontent.symm
  have hunder : ∀ y offset, s.ScrollsTo prepared.contentHeight offset →
      y + offset = row * itemHeight → s.RowUnder itemHeight 0 y row := by
    intro y offset hoffset hy
    refine ⟨prepared, offset, _, hprepared, hoffset, hrows row hrow, le_rfl, ?_, ?_, ?_⟩
    · simpa using hwidth
    · exact hy.ge
    · show y + offset < row * itemHeight + itemHeight
      linarith
  have hinset : s.menuInset prepared.contentHeight =
      max ((s.menuFrame.height - prepared.contentHeight) / 3) 0 := rfl
  rcases le_or_gt prepared.contentHeight s.menuFrame.height with hfits | hlong
  · have hmiddle : s.menuInset prepared.contentHeight =
        (s.menuFrame.height - prepared.contentHeight) / 3 := by
      rw [hinset, max_eq_left (by linarith)]
    refine ⟨row * itemHeight + s.menuInset prepared.contentHeight, ?_, ?_,
      hunder _ (-s.menuInset prepared.contentHeight) ⟨le_rfl, le_max_left _ _⟩ (by ring)⟩
    all_goals
      rw [hmiddle]
      linarith
  · have hzero : s.menuInset prepared.contentHeight = 0 := by
      rw [hinset, max_eq_right (by linarith)]
    rcases le_or_gt (row * itemHeight) (prepared.contentHeight - s.menuFrame.height) with hup | hend
    · refine ⟨0, le_rfl, hheight, hunder 0 (row * itemHeight) ⟨?_, ?_⟩ (by ring)⟩
      · rw [hzero, neg_zero]
        exact habove
      · exact hup.trans (le_max_right _ _)
    · refine ⟨row * itemHeight - (prepared.contentHeight - s.menuFrame.height), by linarith,
        by linarith, hunder _ (prepared.contentHeight - s.menuFrame.height)
          ⟨?_, le_max_right _ _⟩ (by ring)⟩
      rw [hzero, neg_zero]
      linarith

/-! ## Every screen of the menu is reached -/

/-- Taps, each on what is under the finger, lead from `s` to the one screen of `item`. -/
def LedTo (itemHeight : ℚ) (leftItemFrame : CGRect) (item : ATCNavigationItem)
    (s : DrawerSession) : Prop :=
  ∃ taps s' log, machine.Always (TapsAtPoint itemHeight leftItemFrame) s taps ∧
    machine.run s taps = some (s', log) ∧ s'.viewControllers = [.item item] ∧
    s'.isMenuExpanded = false

variable {drawer : ATCDrawerController} {topNavigationLeftImage onboardingCoordinator : Bool}
  {width height itemHeight : ℚ} {leftItemFrame : CGRect} {item : ATCNavigationItem}

theorem ledTo_of_tap {a : DrawerAction} {s' : DrawerSession} {e : DrawerEvent}
    (htap : TapsAtPoint itemHeight leftItemFrame s a s' e)
    (hstep : machine.step s a = some (s', e)) (h : LedTo itemHeight leftItemFrame item s') :
    LedTo itemHeight leftItemFrame item s := by
  obtain ⟨taps, s'', log, htaps, hrun, hled⟩ := h
  refine ⟨a :: taps, s'', e :: log, ?_, ?_, hled⟩
  · refine machine.always_cons.mpr fun hstep' => ?_
    obtain ⟨rfl, rfl⟩ := Prod.mk.inj (Option.some.inj (hstep.symm.trans hstep'))
    exact ⟨htap, htaps⟩
  · exact machine.run_cons_eq_some.mpr ⟨s', e, log, hstep, hrun, rfl⟩

/-- On the screen of the host, with a menu that has a height, and the left item in view. -/
structure Touchable (leftItemFrame : CGRect) (s : DrawerSession) : Prop where
  presented : s.presented = true
  width : 0 < s.bounds.width
  height : 0 < s.bounds.height
  leftItem : ∃ x y, leftItemFrame.contains x y ∧ s.bounds.contains x y

theorem ledTo_of_expanded {row : ℕ}
    (h : Reached drawer topNavigationLeftImage onboardingCoordinator s) (hitem : 0 < itemHeight)
    (htouchable : Touchable leftItemFrame s) (expanded : s.isMenuExpanded = true)
    (hrow : drawer.menuItems[row]? = some item) (hscreen : item.type ≠ .logout) :
    LedTo itemHeight leftItemFrame item s := by
  have hwidth : 0 < s.bounds.width * 3 / 4 := by linarith [htouchable.width]
  have hframe := h.drawn.menuFrame
  rw [expanded, if_pos rfl] at hframe
  have hlength : row < s.drawer.menuItems.length := by
    rw [h.drawer]
    exact (List.getElem?_eq_some_iff.mp hrow).1
  obtain ⟨y, hy, hlt, hunder⟩ := exists_rowUnder hitem (by rw [hframe]; exact hwidth)
    (by rw [hframe]; exact htouchable.height) hlength
  rw [hframe] at hlt
  have hin : s.bounds.contains 0 y := by
    rw [CGRect.contains, h.drawn.origin.1, h.drawn.origin.2, zero_add, zero_add]
    exact ⟨le_rfl, htouchable.width, hy, hlt⟩
  have hhit := h.drawn.hitTest_of_expanded expanded hin hwidth
  have hselected : s.didSelectItemAt row = (s.navigateTo (.item item), .navigated item) := by
    rw [didSelectItemAt, h.drawer, hrow]
    exact if_neg hscreen
  have hstep := step_of_menu htouchable.presented hhit row .nothing
  rw [hselected] at hstep
  refine ledTo_of_tap (.row hhit hunder) hstep ⟨[], _, [], machine.always_nil, rfl, rfl, ?_⟩
  show (!s.isMenuExpanded) = false
  rw [expanded, Bool.not_true]

theorem ledTo_of_closed {row : ℕ} (h : Reached drawer true onboardingCoordinator s)
    (hitem : 0 < itemHeight) (htouchable : Touchable leftItemFrame s)
    (closed : s.isMenuExpanded = false) (hrow : drawer.menuItems[row]? = some item)
    (hscreen : item.type ≠ .logout) : LedTo itemHeight leftItemFrame item s := by
  induction hn : s.viewControllers.length generalizing s with
  | zero => exact absurd (List.eq_nil_of_length_eq_zero hn) h.nonempty
  | succ n ih =>
    obtain ⟨x, y, hframe, hin⟩ := htouchable.leftItem
    have hhit := h.drawn.hitTest_of_closed closed hin
    have hstep := step_of_root htouchable.presented hhit 0 s.leftBarItem
    obtain ⟨screen, hlast⟩ : ∃ screen, s.viewControllers.getLast? = some screen :=
      ⟨_, List.getLast?_eq_some_getLast h.nonempty⟩
    by_cases hbutton : screen ∈ s.menuButtons
    · have hleft : s.leftBarItem = .menuButton := by
        simp [leftBarItem, hlast, hbutton]
      rw [hleft, tapRoot_menuButton hlast hbutton] at hstep
      refine ledTo_of_tap (hleft ▸ .leftItem hhit hframe) hstep
        (ledTo_of_expanded h.toggleMenu hitem ?_ ?_ hrow hscreen)
      · exact ⟨htouchable.presented, htouchable.width, htouchable.height, htouchable.leftItem⟩
      · show (!s.isMenuExpanded) = true
        rw [closed, Bool.not_false]
    · have hlength : 1 < s.viewControllers.length := by
        by_contra hone
        obtain ⟨alone, halone⟩ :=
          List.length_eq_one_iff.mp (by omega : s.viewControllers.length = 1)
        rw [halone, List.getLast?_singleton, Option.some.injEq] at hlast
        exact hbutton (hlast ▸ h.button h.menuButton alone halone)
      have hleft : s.leftBarItem = .back := by
        simp [leftBarItem, hlast, hbutton, hlength]
      have hback : s.tapRoot .back =
          some (s.setViewControllers s.viewControllers.dropLast, .screensChanged) := by
        rw [tapRoot, if_neg (by omega)]
      rw [hleft, hback] at hstep
      have hdropped : s.viewControllers.dropLast.length = n := by
        rw [List.length_dropLast, hn, Nat.add_sub_cancel]
      refine ledTo_of_tap (hleft ▸ .leftItem hhit hframe) hstep
        (ih (h.setViewControllers ?_) ?_ closed hdropped)
      · exact List.ne_nil_of_length_pos (by omega)
      · exact ⟨htouchable.presented, htouchable.width, htouchable.height, htouchable.leftItem⟩

/-- With an image for the button of the menu, taps on what is under the finger lead to every
screen of the menu, from every state of every run in which the drawer can be touched. -/
theorem every_item_is_reached {as : List DrawerAction} {log : List DrawerEvent}
    (hrun : machine.run (loaded drawer true onboardingCoordinator width height) as = some (s, log))
    (hitemHeight : 0 < itemHeight) (htouchable : Touchable leftItemFrame s)
    (hitem : item ∈ drawer.menuItems) (hscreen : item.type ≠ .logout) :
    ∃ taps s' log', machine.Always (TapsAtPoint itemHeight leftItemFrame) s taps ∧
      machine.run s taps = some (s', log') ∧ s'.viewControllers = [.item item] ∧
      s'.isMenuExpanded = false := by
  obtain ⟨row, hrow⟩ := List.mem_iff_getElem?.mp hitem
  have hreached := reached_run hrun
  cases hexpanded : s.isMenuExpanded with
  | true => exact ledTo_of_expanded hreached hitemHeight htouchable hexpanded hrow hscreen
  | false => exact ledTo_of_closed hreached hitemHeight htouchable hexpanded hrow hscreen

theorem portfolio_is_reached_under_a_pushed_screen :
    ∃ taps s' log', machine.Always (TapsAtPoint 45 ⟨16, 20, 25, 25⟩)
        ((loaded ⟨⟨"Home", .viewController⟩,
          [⟨"Home", .viewController⟩, ⟨"Portfolio", .viewController⟩]⟩ true false 320 480
          ).setViewControllers [.item ⟨"Home", .viewController⟩, .other 0]) taps ∧
      machine.run
        ((loaded ⟨⟨"Home", .viewController⟩,
          [⟨"Home", .viewController⟩, ⟨"Portfolio", .viewController⟩]⟩ true false 320 480
          ).setViewControllers [.item ⟨"Home", .viewController⟩, .other 0]) taps =
        some (s', log') ∧
      s'.viewControllers = [.item ⟨"Portfolio", .viewController⟩] ∧ s'.isMenuExpanded = false := by
  have hin : (⟨0, 0, 320, 480⟩ : CGRect).contains 20 30 := by decide +kernel
  have hs : Drawn (loaded ⟨⟨"Home", .viewController⟩,
      [⟨"Home", .viewController⟩, ⟨"Portfolio", .viewController⟩]⟩ true false 320 480) :=
    reached_loaded.drawn
  have hpush := step_of_root rfl (hs.hitTest_of_closed rfl hin) 0 (.push (.other 0))
  exact every_item_is_reached (machine.run_singleton.mpr ⟨.screensChanged, hpush, rfl⟩)
    (by norm_num) ⟨rfl, by decide +kernel, by decide +kernel, 20, 30, by decide +kernel, hin⟩
    (List.mem_cons_of_mem _ (List.mem_singleton_self _)) (by decide)

end DrawerSession

end FinanceApp
