import FinanceApp.Host.Containers
import FinanceApp.Lib.Machine
import FinanceApp.LiquidLayout.Prepare
import Mathlib.Tactic.Linarith

/-!
# The drawer

In the side bar style a dark overlay lies over the screens, and over both the menu, which is
opened by widening its frame. What a touch does depends on which of the views it reaches.
-/

namespace FinanceApp

/-- A screen of the navigation controller: one of the menu, or one that another one pushed. -/
inductive RootScreen where
  | item (item : ATCNavigationItem)
  | other (id : Nat)
  deriving DecidableEq, Repr

/-- The three views of a drawer, the frontmost first. -/
inductive DrawerView where
  | menu
  | overlay
  | root
  deriving DecidableEq, Repr

/-- What is under the finger on a screen. -/
inductive RootContent where
  | menuButton
  | push (screen : RootScreen)
  | back
  | nothing

inductive DrawerGesture where
  | tap
  | swipeLeft
  deriving DecidableEq, Repr

inductive DrawerEvent where
  | nothing
  | toggled
  | navigated (item : ATCNavigationItem)
  | postedLogout
  | screensChanged
  deriving DecidableEq, Repr

/-- `menuButton` is whether there is a button of the menu, `menuButtons` are the screens whose
navigation item has got it, and `presented` is whether the host has the view of the drawer in
its own. -/
structure DrawerSession where
  drawer : ATCDrawerController
  menuButton : Bool
  onboardingCoordinator : Bool
  viewControllers : List RootScreen
  menuButtons : List RootScreen := []
  isMenuExpanded : Bool := false
  bounds : CGRect
  menuFrame : CGRect
  overlayFrame : CGRect
  overlayAlpha : ℚ
  presented : Bool := true

inductive DrawerAction where
  | layout (width height : ℚ)
  | touch (x y : ℚ) (gesture : DrawerGesture) (row : Nat) (content : RootContent)
  | logout
  | login

/-- A view takes the points on its left and upper edge. -/
def CGRect.contains (rect : CGRect) (x y : ℚ) : Prop :=
  rect.x ≤ x ∧ x < rect.x + rect.width ∧ rect.y ≤ y ∧ y < rect.y + rect.height

instance (rect : CGRect) (x y : ℚ) : Decidable (rect.contains x y) :=
  inferInstanceAs (Decidable (_ ∧ _))

namespace DrawerSession

variable (s : DrawerSession)

/-- `ATCNavigationController.prepareNavigationBar`, without views for the left of the bar. -/
def prepareNavigationBar : DrawerSession :=
  { s with
    menuButtons :=
      if s.viewControllers.length ≤ 1 ∧ s.menuButton = true then
        s.viewControllers.getLast?.toList ++ s.menuButtons
      else s.menuButtons }

/-- The navigation controller prepares its bar when it is about to show a screen. -/
def setViewControllers (viewControllers : List RootScreen) : DrawerSession :=
  { s with viewControllers }.prepareNavigationBar

def viewDidLayoutSubviews : DrawerSession :=
  { s with
    overlayFrame := s.bounds
    menuFrame := ⟨0, 0, if s.isMenuExpanded then s.bounds.width * 3 / 4 else 0, s.bounds.height⟩ }

/-- The drawer after `viewDidLoad` and its first layout. The navigation controller makes a
button of the image, if it is given one. -/
def loaded (drawer : ATCDrawerController) (topNavigationLeftImage onboardingCoordinator : Bool)
    (width height : ℚ) : DrawerSession :=
  viewDidLayoutSubviews
    (prepareNavigationBar
      { drawer
        menuButton := topNavigationLeftImage
        onboardingCoordinator
        viewControllers := [.item drawer.rootViewController]
        bounds := ⟨0, 0, width, height⟩
        menuFrame := ⟨0, 0, 0, height⟩
        overlayFrame := ⟨0, 0, 0, 0⟩
        overlayAlpha := 0 })

def toggleMenu : DrawerSession :=
  let isMenuExpanded := !s.isMenuExpanded
  { s with
    isMenuExpanded
    menuFrame := ⟨0, 0, if isMenuExpanded then s.bounds.width * 3 / 4 else 0, s.bounds.height⟩
    overlayAlpha := if isMenuExpanded then 1 / 2 else 0 }

def navigateTo (viewController : RootScreen) : DrawerSession :=
  (s.setViewControllers [viewController]).toggleMenu

/-- The host takes the drawer out of its view for the onboarding, where there is one. -/
def didRequestLogout : DrawerSession :=
  if s.onboardingCoordinator then { s with presented := false } else s

/-- `ATCHostViewController.presentLoggedInViewControllers` -/
def presentLoggedInViewControllers : DrawerSession := { s with presented := true }

/-- `ATCMenuCollectionViewController.collectionView(_:didSelectItemAt:)` -/
def didSelectItemAt (row : Nat) : DrawerSession × DrawerEvent :=
  match s.drawer.menuItems[row]? with
  | none => (s, .nothing)
  | some menuItem =>
    if menuItem.type = .logout then (s.didRequestLogout, .postedLogout)
    else (s.navigateTo (.item menuItem), .navigated menuItem)

/-- UIKit gives a touch to the frontmost view at its place that is not transparent. -/
def hitTest (x y : ℚ) : Option DrawerView :=
  if s.menuFrame.contains x y then some .menu
  else if 1 / 100 ≤ s.overlayAlpha ∧ s.overlayFrame.contains x y then some .overlay
  else if s.bounds.contains x y then some .root
  else none

/-- A tap on a screen. The button is where the top screen has it, and to push a screen that
the navigation controller has is an exception. -/
def tapRoot : RootContent → Option (DrawerSession × DrawerEvent)
  | .menuButton =>
    if s.viewControllers.getLast?.any (s.menuButtons.contains ·) then some (s.toggleMenu, .toggled)
    else some (s, .nothing)
  | .push screen =>
    if screen ∈ s.viewControllers then none
    else some (s.setViewControllers (s.viewControllers ++ [screen]), .screensChanged)
  | .back =>
    if s.viewControllers.length ≤ 1 then some (s, .nothing)
    else some (s.setViewControllers s.viewControllers.dropLast, .screensChanged)
  | .nothing => some (s, .nothing)

def touch (x y : ℚ) (gesture : DrawerGesture) (row : Nat) (content : RootContent) :
    Option (DrawerSession × DrawerEvent) :=
  match s.hitTest x y, gesture with
  | some .menu, .tap => some (s.didSelectItemAt row)
  | some .overlay, _ => some (s.toggleMenu, .toggled)
  | some .root, .tap => s.tapRoot content
  | _, _ => some (s, .nothing)

/-- Only a drawer in the view of the host is touched. Any touch may be on any row of the menu
and on anything of a screen, wherever it is. The notification of a logout comes at any time,
from the menu or from elsewhere. -/
def step : DrawerAction → Option (DrawerSession × DrawerEvent)
  | .layout width height =>
    some (viewDidLayoutSubviews { s with bounds := ⟨0, 0, width, height⟩ }, .nothing)
  | .touch x y gesture row content =>
    if s.presented then s.touch x y gesture row content else none
  | .logout => some (s.didRequestLogout, .nothing)
  | .login => some (s.presentLoggedInViewControllers, .nothing)

def machine : Machine DrawerSession DrawerAction DrawerEvent := ⟨step⟩

/-! ## Frames -/

/-- The views stand as the flag says. -/
structure Drawn : Prop where
  origin : s.bounds.x = 0 ∧ s.bounds.y = 0
  menuFrame : s.menuFrame =
    ⟨0, 0, if s.isMenuExpanded then s.bounds.width * 3 / 4 else 0, s.bounds.height⟩
  overlayFrame : s.overlayFrame = s.bounds
  overlayAlpha : s.overlayAlpha = if s.isMenuExpanded then 1 / 2 else 0

variable {s}

theorem Drawn.menuFrame_contains_iff {x y : ℚ} (h : Drawn s) :
    s.menuFrame.contains x y ↔
      s.isMenuExpanded = true ∧ s.bounds.contains x y ∧ x < s.bounds.width * 3 / 4 := by
  rw [h.menuFrame, CGRect.contains, CGRect.contains, h.origin.1, h.origin.2]
  cases s.isMenuExpanded with
  | false =>
    refine ⟨fun hin => absurd hin.2.1 ?_, fun hin => absurd hin.1 (by simp)⟩
    rw [if_neg (by simp), add_zero]
    exact not_lt.mpr hin.1
  | true =>
    simp only [if_true, zero_add, true_and]
    constructor
    · rintro ⟨hx, hlt, hy, hlt'⟩
      exact ⟨⟨hx, by linarith, hy, hlt'⟩, hlt⟩
    · rintro ⟨⟨hx, -, hy, hlt'⟩, hlt⟩
      exact ⟨hx, hlt, hy, hlt'⟩

theorem Drawn.overlay_takes_iff {x y : ℚ} (h : Drawn s) :
    (1 / 100 ≤ s.overlayAlpha ∧ s.overlayFrame.contains x y) ↔
      s.isMenuExpanded = true ∧ s.bounds.contains x y := by
  rw [h.overlayAlpha, h.overlayFrame]
  cases s.isMenuExpanded with
  | false => norm_num
  | true => norm_num

theorem Drawn.hitTest_eq {x y : ℚ} (h : Drawn s) :
    s.hitTest x y =
      if s.bounds.contains x y then
        some (if s.isMenuExpanded then
          if x < s.bounds.width * 3 / 4 then .menu else .overlay else .root)
      else none := by
  rw [hitTest]
  simp only [h.menuFrame_contains_iff, h.overlay_takes_iff]
  cases s.isMenuExpanded with
  | false => simp
  | true =>
    by_cases hin : s.bounds.contains x y
    · by_cases hx : x < s.bounds.width * 3 / 4
      · simp [hin, hx]
      · simp [hin, hx]
    · simp [hin]

theorem Drawn.isMenuExpanded_iff {x y : ℚ} {view : DrawerView} (h : Drawn s)
    (hhit : s.hitTest x y = some view) : s.isMenuExpanded = true ↔ view ≠ .root := by
  rw [h.hitTest_eq] at hhit
  split at hhit
  next =>
    rw [Option.some.injEq] at hhit
    rw [← hhit]
    cases s.isMenuExpanded with
    | false => simp
    | true => by_cases hx : x < s.bounds.width * 3 / 4 <;> simp [hx]
  next => cases hhit

theorem Drawn.setViewControllers (h : Drawn s) (viewControllers : List RootScreen) :
    Drawn (s.setViewControllers viewControllers) :=
  ⟨h.origin, h.menuFrame, h.overlayFrame, h.overlayAlpha⟩

theorem Drawn.toggleMenu (h : Drawn s) : Drawn s.toggleMenu :=
  ⟨h.origin, rfl, h.overlayFrame, rfl⟩

/-! ## What a step does -/

/-- The steps of a drawer that is drawn. `toggleMenu` closes the menu only where it was open,
so who calls it has to know. -/
inductive Moved (s : DrawerSession) : DrawerSession → DrawerEvent → Prop where
  | nothing : Moved s s .nothing
  | toggled : Moved s s.toggleMenu .toggled
  | navigated (item : ATCNavigationItem) (expanded : s.isMenuExpanded = true)
      (listed : item ∈ s.drawer.menuItems) (screen : item.type ≠ .logout) :
      Moved s (s.navigateTo (.item item)) (.navigated item)
  | screensChanged (closed : s.isMenuExpanded = false) (viewControllers : List RootScreen)
      (nonempty : viewControllers ≠ []) :
      Moved s (s.setViewControllers viewControllers) .screensChanged
  | postedLogout (expanded : s.isMenuExpanded = true) : Moved s s.didRequestLogout .postedLogout
  | logout : Moved s s.didRequestLogout .nothing
  | login : Moved s s.presentLoggedInViewControllers .nothing
  | layout (width height : ℚ) :
      Moved s (viewDidLayoutSubviews { s with bounds := ⟨0, 0, width, height⟩ }) .nothing

theorem moved_didSelectItemAt (row : ℕ) (expanded : s.isMenuExpanded = true) :
    Moved s (s.didSelectItemAt row).1 (s.didSelectItemAt row).2 := by
  -- The menu takes a touch only when it is open.
  unfold didSelectItemAt
  split
  next => exact .nothing
  next item hitem =>
    split
    next => exact .postedLogout expanded
    next hscreen => exact .navigated item expanded (List.mem_of_getElem? hitem) hscreen

theorem moved_tapRoot {content : RootContent} {s' : DrawerSession} {e : DrawerEvent}
    (closed : s.isMenuExpanded = false) (h : s.tapRoot content = some (s', e)) :
    Moved s s' e := by
  cases content with
  | menuButton =>
    simp only [tapRoot] at h
    split at h <;> cases h
    next => exact .toggled
    next => exact .nothing
  | push screen =>
    simp only [tapRoot] at h
    split at h <;> cases h
    exact .screensChanged closed _ (List.concat_ne_nil _ _)
  | back =>
    simp only [tapRoot] at h
    split at h <;> cases h
    next => exact .nothing
    next hlength =>
      refine .screensChanged closed _ fun hnil => hlength ?_
      have := congrArg List.length hnil
      rw [List.length_dropLast, List.length_nil] at this
      omega
  | nothing =>
    cases h
    exact .nothing

theorem Drawn.moved_touch {x y : ℚ} {gesture : DrawerGesture} {row : ℕ} {content : RootContent}
    {s' : DrawerSession} {e : DrawerEvent} (h : Drawn s)
    (htouch : s.touch x y gesture row content = some (s', e)) : Moved s s' e := by
  unfold touch at htouch
  cases hhit : s.hitTest x y with
  | none =>
    simp only [hhit, Option.some.injEq, Prod.mk.injEq] at htouch
    obtain ⟨rfl, rfl⟩ := htouch
    exact .nothing
  | some view =>
    have hexpanded := h.isMenuExpanded_iff hhit
    rw [hhit] at htouch
    cases view with
    | menu =>
      cases gesture with
      | tap =>
        have hselected : s.didSelectItemAt row = (s', e) := Option.some.inj htouch
        have := moved_didSelectItemAt row (hexpanded.mpr (by simp))
        rwa [hselected] at this
      | swipeLeft =>
        cases htouch
        exact .nothing
    | overlay =>
      cases htouch
      exact .toggled
    | root =>
      cases gesture with
      | tap => exact moved_tapRoot (by simpa using hexpanded) htouch
      | swipeLeft =>
        cases htouch
        exact .nothing

theorem Drawn.moved {a : DrawerAction} {s' : DrawerSession} {e : DrawerEvent} (h : Drawn s)
    (hstep : s.step a = some (s', e)) : Moved s s' e := by
  cases a with
  | layout width height =>
    cases hstep
    exact .layout width height
  | touch x y gesture row content =>
    simp only [step] at hstep
    split at hstep
    next => exact h.moved_touch hstep
    next => cases hstep
  | logout =>
    cases hstep
    exact .logout
  | login =>
    cases hstep
    exact .login

/-! ## Runs -/

/-- What every state of a run has. A button of the menu is on the screen that is alone. -/
structure Reached (drawer : ATCDrawerController)
    (topNavigationLeftImage onboardingCoordinator : Bool) (s : DrawerSession) : Prop where
  drawn : Drawn s
  drawer : s.drawer = drawer
  menuButton : s.menuButton = topNavigationLeftImage
  onboardingCoordinator : s.onboardingCoordinator = onboardingCoordinator
  nonempty : s.viewControllers ≠ []
  button : s.menuButton = true → ∀ screen, s.viewControllers = [screen] → screen ∈ s.menuButtons

variable {drawer : ATCDrawerController} {topNavigationLeftImage onboardingCoordinator : Bool}
  {width height : ℚ}

theorem button_prepareNavigationBar (s : DrawerSession) (hbutton : s.menuButton = true)
    (screen : RootScreen) (h : s.viewControllers = [screen]) :
    screen ∈ s.prepareNavigationBar.menuButtons := by
  simp [prepareNavigationBar, h, hbutton]

theorem Reached.setViewControllers {viewControllers : List RootScreen}
    (h : Reached drawer topNavigationLeftImage onboardingCoordinator s)
    (nonempty : viewControllers ≠ []) :
    Reached drawer topNavigationLeftImage onboardingCoordinator
      (s.setViewControllers viewControllers) :=
  ⟨h.drawn.setViewControllers viewControllers, h.drawer, h.menuButton, h.onboardingCoordinator,
    nonempty, button_prepareNavigationBar { s with viewControllers }⟩

theorem Reached.toggleMenu (h : Reached drawer topNavigationLeftImage onboardingCoordinator s) :
    Reached drawer topNavigationLeftImage onboardingCoordinator s.toggleMenu :=
  ⟨h.drawn.toggleMenu, h.drawer, h.menuButton, h.onboardingCoordinator, h.nonempty, h.button⟩

theorem Reached.didRequestLogout
    (h : Reached drawer topNavigationLeftImage onboardingCoordinator s) :
    Reached drawer topNavigationLeftImage onboardingCoordinator s.didRequestLogout := by
  unfold DrawerSession.didRequestLogout
  split
  next =>
    exact ⟨⟨h.drawn.origin, h.drawn.menuFrame, h.drawn.overlayFrame, h.drawn.overlayAlpha⟩,
      h.drawer, h.menuButton, h.onboardingCoordinator, h.nonempty, h.button⟩
  next => exact h

theorem Moved.reached {s' : DrawerSession} {e : DrawerEvent} (hmoved : Moved s s' e)
    (h : Reached drawer topNavigationLeftImage onboardingCoordinator s) :
    Reached drawer topNavigationLeftImage onboardingCoordinator s' := by
  cases hmoved with
  | nothing => exact h
  | toggled => exact h.toggleMenu
  | navigated item => exact (h.setViewControllers (List.cons_ne_nil _ _)).toggleMenu
  | screensChanged _ viewControllers nonempty => exact h.setViewControllers nonempty
  | postedLogout | logout => exact h.didRequestLogout
  | login =>
    exact ⟨⟨h.drawn.origin, h.drawn.menuFrame, h.drawn.overlayFrame, h.drawn.overlayAlpha⟩,
      h.drawer, h.menuButton, h.onboardingCoordinator, h.nonempty, h.button⟩
  | layout =>
    exact ⟨⟨⟨rfl, rfl⟩, rfl, rfl, h.drawn.overlayAlpha⟩, h.drawer, h.menuButton,
      h.onboardingCoordinator, h.nonempty, h.button⟩

theorem reached_loaded :
    Reached drawer topNavigationLeftImage onboardingCoordinator
      (loaded drawer topNavigationLeftImage onboardingCoordinator width height) := by
  refine ⟨⟨⟨rfl, rfl⟩, rfl, rfl, rfl⟩, rfl, rfl, rfl, List.cons_ne_nil _ _, fun hbutton => ?_⟩
  obtain rfl : topNavigationLeftImage = true := hbutton
  rintro _ ⟨⟩
  exact List.mem_cons_self

theorem reached_step {a : DrawerAction} {s' : DrawerSession} {e : DrawerEvent}
    (h : Reached drawer topNavigationLeftImage onboardingCoordinator s)
    (hstep : machine.step s a = some (s', e)) :
    Reached drawer topNavigationLeftImage onboardingCoordinator s' :=
  (h.drawn.moved hstep).reached h

theorem reached_run {as : List DrawerAction} {log : List DrawerEvent}
    (hrun : machine.run
      (loaded drawer topNavigationLeftImage onboardingCoordinator width height) as =
        some (s, log)) :
    Reached drawer topNavigationLeftImage onboardingCoordinator s :=
  machine.run_invariant reached_step reached_loaded hrun

/-- The screens change under a closed menu, which stays closed, or by a row of the open menu,
which closes it. A logout from the menu leaves it open. -/
structure MenuSafe (s : DrawerSession) (a : DrawerAction) (s' : DrawerSession)
    (e : DrawerEvent) : Prop where
  screens : s'.viewControllers ≠ s.viewControllers → s'.isMenuExpanded = false ∧
    (s.isMenuExpanded = true → ∃ item ∈ s.drawer.menuItems, item.type ≠ .logout ∧
      e = .navigated item ∧ s'.viewControllers = [.item item])
  navigated : ∀ item, e = .navigated item → s.isMenuExpanded = true ∧
    s'.isMenuExpanded = false ∧ s'.viewControllers = [.item item]
  postedLogout : e = .postedLogout → s.isMenuExpanded = true ∧ s'.isMenuExpanded = true

@[simp] theorem isMenuExpanded_didRequestLogout :
    s.didRequestLogout.isMenuExpanded = s.isMenuExpanded := by
  unfold didRequestLogout
  split <;> rfl

@[simp] theorem viewControllers_didRequestLogout :
    s.didRequestLogout.viewControllers = s.viewControllers := by
  unfold didRequestLogout
  split <;> rfl

theorem Moved.menuSafe {a : DrawerAction} {s' : DrawerSession} {e : DrawerEvent}
    (hmoved : Moved s s' e) : MenuSafe s a s' e := by
  cases hmoved with
  | navigated item expanded listed screen =>
    have closed : (s.navigateTo (.item item)).isMenuExpanded = false := by
      show (!s.isMenuExpanded) = false
      rw [expanded, Bool.not_true]
    refine ⟨fun _ => ⟨closed, fun _ => ⟨item, listed, screen, rfl, rfl⟩⟩, ?_, by simp⟩
    rintro _ ⟨⟩
    exact ⟨expanded, closed, rfl⟩
  | screensChanged closed viewControllers =>
    exact ⟨fun _ => ⟨closed, fun expanded => absurd expanded (by simp [closed])⟩, by simp, by simp⟩
  | postedLogout expanded =>
    exact ⟨fun h => absurd viewControllers_didRequestLogout h, by simp,
      fun _ => ⟨expanded, isMenuExpanded_didRequestLogout.trans expanded⟩⟩
  | logout => exact ⟨fun h => absurd viewControllers_didRequestLogout h, by simp, by simp⟩
  | nothing | toggled | login | layout => exact ⟨fun h => absurd rfl h, by simp, by simp⟩

theorem menu_safe (drawer : ATCDrawerController)
    (topNavigationLeftImage onboardingCoordinator : Bool) (width height : ℚ)
    (as : List DrawerAction) :
    machine.Always MenuSafe
      (loaded drawer topNavigationLeftImage onboardingCoordinator width height) as :=
  machine.always_of_step (G := fun _ => True) reached_loaded (fun _ _ => trivial)
    (fun _ => reached_step) fun _ hs hstep => (hs.drawn.moved hstep).menuSafe

/-! ## Touches on a view -/

theorem Drawn.hitTest_of_closed {x y : ℚ} (h : Drawn s) (closed : s.isMenuExpanded = false)
    (hin : s.bounds.contains x y) : s.hitTest x y = some .root := by
  rw [h.hitTest_eq, if_pos hin, closed]
  rfl

theorem Drawn.hitTest_of_expanded {x y : ℚ} (h : Drawn s) (expanded : s.isMenuExpanded = true)
    (hin : s.bounds.contains x y) (hx : x < s.bounds.width * 3 / 4) :
    s.hitTest x y = some .menu := by
  rw [h.hitTest_eq, if_pos hin, if_pos expanded, if_pos hx]

theorem step_of_root {x y : ℚ} (presented : s.presented = true)
    (hhit : s.hitTest x y = some .root) (row : ℕ) (content : RootContent) :
    machine.step s (.touch x y .tap row content) = s.tapRoot content := by
  simp [machine, step, presented, touch, hhit]

theorem step_of_menu {x y : ℚ} (presented : s.presented = true)
    (hhit : s.hitTest x y = some .menu) (row : ℕ) (content : RootContent) :
    machine.step s (.touch x y .tap row content) = some (s.didSelectItemAt row) := by
  simp [machine, step, presented, touch, hhit]

theorem tapRoot_menuButton {screen : RootScreen} (hlast : s.viewControllers.getLast? = some screen)
    (hbutton : screen ∈ s.menuButtons) : s.tapRoot .menuButton = some (s.toggleMenu, .toggled) := by
  simp [tapRoot, hlast, hbutton]

/-! ## After a logout -/

/-- The drawer waits outside the view of the host, over `viewControllers`. -/
def Waiting (viewControllers : List RootScreen) (s : DrawerSession) : Prop :=
  s.presented = false ∧ s.isMenuExpanded = true ∧ s.viewControllers = viewControllers

theorem waiting_step {viewControllers : List RootScreen} {a : DrawerAction} {s' : DrawerSession}
    {e : DrawerEvent} (hlogin : a ≠ .login) (h : Waiting viewControllers s)
    (hstep : machine.step s a = some (s', e)) : Waiting viewControllers s' := by
  -- Out of the view of the host nothing is touched.
  obtain ⟨hpresented, hexpanded, rfl⟩ := h
  cases a with
  | layout =>
    cases hstep
    exact ⟨hpresented, hexpanded, rfl⟩
  | touch =>
    simp only [machine, step, hpresented] at hstep
    cases hstep
  | logout =>
    cases hstep
    unfold didRequestLogout
    split
    next => exact ⟨rfl, hexpanded, rfl⟩
    next => exact ⟨hpresented, hexpanded, rfl⟩
  | login => exact absurd rfl hlogin

theorem Reached.waiting_of_postedLogout {a : DrawerAction} {s₁ : DrawerSession}
    (h : Reached drawer topNavigationLeftImage true s)
    (hstep : machine.step s a = some (s₁, .postedLogout)) :
    Waiting s.viewControllers s₁ := by
  cases h.drawn.moved hstep with
  | postedLogout expanded =>
    rw [DrawerSession.didRequestLogout, if_pos h.onboardingCoordinator]
    exact ⟨rfl, expanded, rfl⟩

/-- After a logout from the menu, the next login finds the menu open over the screens that
were there, wherever it is touched first. -/
theorem menu_open_after_login {as bs : List DrawerAction} {log log' : List DrawerEvent}
    {a : DrawerAction} {s₁ s' : DrawerSession} {x y : ℚ}
    (hrun : machine.run (loaded drawer topNavigationLeftImage true width height) as = some (s, log))
    (hlogout : machine.step s a = some (s₁, .postedLogout)) (hbs : ∀ b ∈ bs, b ≠ .login)
    (hrun' : machine.run s₁ (bs ++ [.login]) = some (s', log')) :
    s'.presented = true ∧ s'.isMenuExpanded = true ∧ s'.viewControllers = s.viewControllers ∧
      s'.hitTest x y ≠ some .root := by
  have hs₁ := reached_step (reached_run hrun) hlogout
  have hs' := machine.run_invariant reached_step hs₁ hrun'
  obtain ⟨s₂, es, e, hwait, hlogin, -⟩ := machine.run_concat_eq_some.mp hrun'
  obtain ⟨-, hexpanded, hscreens⟩ := machine.run_invariant_on (G := (· ≠ .login)) waiting_step
    ((reached_run hrun).waiting_of_postedLogout hlogout) hbs hwait
  cases hlogin
  refine ⟨rfl, hexpanded, hscreens, fun hhit => ?_⟩
  exact (hs'.drawn.isMenuExpanded_iff hhit).mp hexpanded rfl

theorem menu_open_for_next_user :
    ∃ s' : DrawerSession, s'.presented = true ∧ s'.isMenuExpanded = true ∧
      s'.viewControllers = [.item ⟨"Home", .viewController⟩] ∧ s'.hitTest 200 100 ≠ some .root := by
  -- A tap on the button and one on the row of the logout, another logout while the screens of the
  -- onboarding are there, and a login in landscape.
  have hs : Drawn (loaded ⟨⟨"Home", .viewController⟩,
      [⟨"Home", .viewController⟩, ⟨"Log out", .logout⟩]⟩ true true 320 480) :=
    reached_loaded.drawn
  have hin : (⟨0, 0, 320, 480⟩ : CGRect).contains 20 30 := by decide +kernel
  have hopen := step_of_root rfl (hs.hitTest_of_closed rfl hin) 0 .menuButton
  rw [tapRoot_menuButton rfl (List.mem_singleton_self _)] at hopen
  have hlogout := step_of_menu rfl
    (hs.toggleMenu.hitTest_of_expanded rfl hin (by decide +kernel)) 1 .nothing
  have hwaiting : ∀ b ∈ [DrawerAction.logout, .layout 480 320], b ≠ .login := by simp
  exact ⟨_, menu_open_after_login (machine.run_singleton.mpr ⟨.toggled, hopen, rfl⟩) hlogout
    hwaiting rfl⟩

end DrawerSession

end FinanceApp
