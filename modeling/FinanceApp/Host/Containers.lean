import FinanceApp.Host.Session

/-!
# The containers of the host

The host builds its tab bar or its drawer in `init`, from the menu items, and unwraps it
when it presents the logged-in screens and when it removes them. A drawer needs an item.
-/

namespace FinanceApp

inductive ATCNavigationStyle where
  | tabBar
  | sideBar
  deriving DecidableEq, Repr

/-- What `init` is given. The coordinator is there by its `isFirebaseAuthEnabled`. -/
structure ATCHostConfiguration where
  style : ATCNavigationStyle
  items : List ATCNavigationItem
  user : Option ATCUser
  onboardingCoordinator : Option Bool
  walkthroughVC : Bool

/-- A drawer has its first screen and the items of its menu. -/
structure ATCDrawerController where
  rootViewController : ATCNavigationItem
  menuItems : List ATCNavigationItem

/-- The tabs are the view controllers of a tab controller. `running` is whether there is a
process, `delegates` are set by the host on the coordinator and the walkthrough. -/
structure HostContainers where
  store : ATCPersistentStore
  running : Bool := false
  tabController : Option (List ATCNavigationItem) := none
  drawerController : Option ATCDrawerController := none
  coordinatorDelegate : Bool := false
  walkthroughDelegate : Bool := false
  user : Option ATCUser := none
  subviews : List HostScreen := []

namespace HostContainers

variable (configuration : ATCHostConfiguration) (s : HostContainers)

def configureChildrenViewControllers : HostContainers :=
  match configuration.style with
  | .tabBar =>
    { s with
      tabController :=
        some (configuration.items.filter fun item => item.type = .viewController) }
  | .sideBar =>
    match configuration.items.head? with
    | none => s
    | some first => { s with drawerController := some ⟨first, configuration.items⟩ }

/-- Whether the container of the style is there to be unwrapped. -/
def hasContainer : Bool :=
  match configuration.style with
  | .tabBar => s.tabController.isSome
  | .sideBar => s.drawerController.isSome

def addSubview (screen : HostScreen) : HostContainers :=
  { s with subviews := s.subviews.erase screen ++ [screen] }

def removeFromSuperview (screen : HostScreen) : HostContainers :=
  { s with subviews := s.subviews.erase screen }

/-- Without the container the process is gone, but not the store. -/
def unwrapContainer : Except ATCPersistentStore HostContainers :=
  if s.hasContainer configuration then .ok s else .error s.store

def presentLoggedInViewControllers : Except ATCPersistentStore HostContainers := do
  let s :=
    if configuration.onboardingCoordinator.isSome then s.removeFromSuperview .onboarding else s
  let s ← s.unwrapContainer configuration
  return s.addSubview .loggedIn

/-- What the two callbacks of the coordinator do. -/
def coordinatorDidComplete (user : Option ATCUser) :
    Except ATCPersistentStore HostContainers := do
  let s ← presentLoggedInViewControllers configuration { s with user := user }
  match user with
  | some user => return { s with store := s.store.markUserAsLoggedIn user }
  | none => return s

def coordinatorDidCompleteOnboarding (user : Option ATCUser) :
    Except ATCPersistentStore HostContainers :=
  s.coordinatorDidComplete configuration user

def coordinatorDidResyncCredentials (user : Option ATCUser) :
    Except ATCPersistentStore HostContainers :=
  s.coordinatorDidComplete configuration user

/-- With Firebase the answer comes later. -/
def resyncPersistentCredentials (user : ATCUser) : Except ATCPersistentStore HostContainers :=
  match configuration.onboardingCoordinator with
  | none => .ok s
  | some true => .ok { s with coordinatorDelegate := true }
  | some false =>
    coordinatorDidResyncCredentials configuration { s with coordinatorDelegate := true } (some user)

def presentOnboarding : HostContainers :=
  { s with coordinatorDelegate := true }.addSubview .onboarding

def viewDidLoad : Except ATCPersistentStore HostContainers :=
  match s.store.userIfLoggedInUser with
  | some loggedInUser => s.resyncPersistentCredentials configuration loggedInUser
  | none =>
    if configuration.walkthroughVC && !s.store.isWalkthroughCompleted then
      .ok ({ s with walkthroughDelegate := true }.addSubview .walkthrough)
    else if configuration.onboardingCoordinator.isSome then .ok s.presentOnboarding
    else s.presentLoggedInViewControllers configuration

/-- A host after `init`. -/
def created (store : ATCPersistentStore) : HostContainers :=
  configureChildrenViewControllers configuration
    { store := store, running := true, user := configuration.user }

def launch : Except ATCPersistentStore HostContainers :=
  viewDidLoad configuration (created configuration s.store)

def didRequestLogout : Except ATCPersistentStore HostContainers := do
  let s := { s with store := s.store.logout }
  if configuration.onboardingCoordinator.isSome then
    let s ← s.unwrapContainer configuration
    return (s.removeFromSuperview .loggedIn).presentOnboarding
  else return s

def walkthroughViewControllerDidFinishFlow : Except ATCPersistentStore HostContainers :=
  let s := { s with store := s.store.markWalkthroughCompleted }
  if configuration.onboardingCoordinator.isSome then
    .ok (s.removeFromSuperview .walkthrough).presentOnboarding
  else s.presentLoggedInViewControllers configuration

/-! ## Steps -/

end HostContainers

inductive ContainerAction where
  | launch
  | finishWalkthrough
  | login (user : Option ATCUser)
  | resync (user : Option ATCUser)
  | logout

/-- Whether the step unwrapped a container that was not there. -/
abbrev UnwrappedNil := Bool

namespace HostContainers

/-- The handler that an action runs. The callbacks are those of a delegate. -/
def handler (configuration : ATCHostConfiguration) (s : HostContainers) :
    ContainerAction → Option (Except ATCPersistentStore HostContainers)
  | .launch => some (s.launch configuration)
  | .finishWalkthrough =>
    if s.running && s.walkthroughDelegate then
      some (s.walkthroughViewControllerDidFinishFlow configuration)
    else none
  | .login user =>
    if s.running && s.coordinatorDelegate then
      some (s.coordinatorDidCompleteOnboarding configuration user)
    else none
  | .resync user =>
    if s.running && s.coordinatorDelegate then
      some (s.coordinatorDidResyncCredentials configuration user)
    else none
  | .logout => if s.running then some (s.didRequestLogout configuration) else none

def step (configuration : ATCHostConfiguration) (s : HostContainers) (action : ContainerAction) :
    Option (HostContainers × UnwrappedNil) :=
  (s.handler configuration action).map fun
    | .ok s => (s, false)
    | .error store => ({ store }, true)

def machine (configuration : ATCHostConfiguration) :
    Machine HostContainers ContainerAction UnwrappedNil :=
  ⟨step configuration⟩

/-! ## What a handler does to the containers -/

section Handlers

variable (configuration : ATCHostConfiguration)

structure SameContainers (s s' : HostContainers) : Prop where
  tabController : s'.tabController = s.tabController
  drawerController : s'.drawerController = s.drawerController
  running : s'.running = s.running

/-- A handler that `needs` the container goes wrong exactly without it, and no handler
changes the containers. -/
def Outcome (needs : Bool) (s : HostContainers) : Except ATCPersistentStore HostContainers → Prop
  | .ok s' => (needs = true → s.hasContainer configuration = true) ∧ SameContainers s s'
  | .error _ => needs = true ∧ s.hasContainer configuration = false

variable {configuration} {s : HostContainers}

theorem SameContainers.hasContainer_eq {s' : HostContainers} (h : SameContainers s s') :
    s'.hasContainer configuration = s.hasContainer configuration := by
  rw [hasContainer, hasContainer, h.tabController, h.drawerController]

theorem outcome_unwrapContainer :
    Outcome configuration true s (s.unwrapContainer configuration) := by
  unfold unwrapContainer
  split
  · next h => exact ⟨fun _ => h, rfl, rfl, rfl⟩
  · next h => exact ⟨rfl, by simpa using h⟩

theorem SameContainers.trans {s₁ s₂ : HostContainers} (h : SameContainers s s₁)
    (h' : SameContainers s₁ s₂) : SameContainers s s₂ :=
  ⟨h'.tabController.trans h.tabController, h'.drawerController.trans h.drawerController,
    h'.running.trans h.running⟩

theorem Outcome.after {needs : Bool} {s₀ : HostContainers}
    {r : Except ATCPersistentStore HostContainers} (h : Outcome configuration needs s r)
    (hbefore : SameContainers s₀ s) : Outcome configuration needs s₀ r := by
  cases r with
  | error store => exact ⟨h.1, hbefore.hasContainer_eq ▸ h.2⟩
  | ok s' => exact ⟨fun hneeds => hbefore.hasContainer_eq ▸ h.1 hneeds, hbefore.trans h.2⟩

theorem Outcome.map {needs : Bool} {r : Except ATCPersistentStore HostContainers}
    {f : HostContainers → HostContainers} (h : Outcome configuration needs s r)
    (hafter : ∀ s, SameContainers s (f s)) : Outcome configuration needs s (r.map f) := by
  cases r with
  | error store => exact h
  | ok s' => exact ⟨h.1, h.2.trans (hafter s')⟩

theorem outcome_ok {s' : HostContainers} (h : SameContainers s s') :
    Outcome configuration false s (.ok s') :=
  ⟨fun hneeds => absurd hneeds (by decide), h⟩

theorem presentLoggedInViewControllers_eq :
    s.presentLoggedInViewControllers configuration =
      (unwrapContainer configuration
        (if configuration.onboardingCoordinator.isSome then s.removeFromSuperview .onboarding
          else s)).map fun s => s.addSubview .loggedIn := rfl

theorem outcome_presentLoggedIn :
    Outcome configuration true s (s.presentLoggedInViewControllers configuration) := by
  rw [presentLoggedInViewControllers_eq]
  apply Outcome.map
  · apply outcome_unwrapContainer.after
    split <;> exact ⟨rfl, rfl, rfl⟩
  · exact fun _ => ⟨rfl, rfl, rfl⟩

theorem coordinatorDidComplete_eq (user : Option ATCUser) :
    s.coordinatorDidComplete configuration user =
      (presentLoggedInViewControllers configuration { s with user := user }).map fun s =>
        match user with
        | some user => { s with store := s.store.markUserAsLoggedIn user }
        | none => s := by
  cases user <;> rfl

theorem outcome_coordinatorDidComplete (user : Option ATCUser) :
    Outcome configuration true s (s.coordinatorDidComplete configuration user) := by
  rw [coordinatorDidComplete_eq]
  apply Outcome.map
  · exact outcome_presentLoggedIn.after ⟨rfl, rfl, rfl⟩
  · intro s
    cases user <;> exact ⟨rfl, rfl, rfl⟩

theorem outcome_resyncPersistentCredentials (user : ATCUser) :
    Outcome configuration (configuration.onboardingCoordinator = some false) s
      (s.resyncPersistentCredentials configuration user) := by
  unfold resyncPersistentCredentials
  split
  · next hcoordinator =>
    rw [hcoordinator]
    exact outcome_ok ⟨rfl, rfl, rfl⟩
  · next hcoordinator =>
    rw [hcoordinator]
    exact outcome_ok ⟨rfl, rfl, rfl⟩
  · next hcoordinator =>
    rw [hcoordinator]
    exact (outcome_coordinatorDidComplete (some user)).after ⟨rfl, rfl, rfl⟩

/-- Whether a launch presents the logged-in screens: at once, or because nothing else is
to be shown. -/
def launchUnwraps (configuration : ATCHostConfiguration) (store : ATCPersistentStore) : Bool :=
  if store.userIfLoggedInUser.isSome then configuration.onboardingCoordinator = some false
  else
    !(configuration.walkthroughVC && !store.isWalkthroughCompleted) &&
      configuration.onboardingCoordinator.isNone

theorem outcome_viewDidLoad :
    Outcome configuration (launchUnwraps configuration s.store) s
      (s.viewDidLoad configuration) := by
  unfold viewDidLoad launchUnwraps
  cases s.store.userIfLoggedInUser with
  | some user => exact outcome_resyncPersistentCredentials user
  | none =>
    simp only [Option.isSome_none, Bool.false_eq_true, if_false]
    by_cases hwalkthrough : (configuration.walkthroughVC && !s.store.isWalkthroughCompleted) = true
    · rw [if_pos hwalkthrough, hwalkthrough]
      exact outcome_ok ⟨rfl, rfl, rfl⟩
    · rw [if_neg hwalkthrough, eq_false_of_ne_true hwalkthrough]
      cases configuration.onboardingCoordinator with
      | some coordinator => exact outcome_ok ⟨rfl, rfl, rfl⟩
      | none => exact outcome_presentLoggedIn

theorem outcome_didRequestLogout :
    Outcome configuration configuration.onboardingCoordinator.isSome s
      (s.didRequestLogout configuration) := by
  cases hcoordinator : configuration.onboardingCoordinator with
  | none =>
    have hlogout : s.didRequestLogout configuration = .ok { s with store := s.store.logout } := by
      simp [didRequestLogout, hcoordinator, pure, Except.pure]
    rw [hlogout]
    exact outcome_ok ⟨rfl, rfl, rfl⟩
  | some coordinator =>
    have hlogout : s.didRequestLogout configuration =
        (unwrapContainer configuration { s with store := s.store.logout }).map fun s =>
          (s.removeFromSuperview .loggedIn).presentOnboarding := by
      simp only [didRequestLogout, hcoordinator, Option.isSome_some, if_true]
      rfl
    rw [hlogout]
    apply Outcome.map
    · exact outcome_unwrapContainer.after ⟨rfl, rfl, rfl⟩
    · exact fun _ => ⟨rfl, rfl, rfl⟩

theorem outcome_walkthroughViewControllerDidFinishFlow :
    Outcome configuration configuration.onboardingCoordinator.isNone s
      (s.walkthroughViewControllerDidFinishFlow configuration) := by
  unfold walkthroughViewControllerDidFinishFlow
  cases configuration.onboardingCoordinator with
  | none =>
    exact outcome_presentLoggedIn.after ⟨rfl, rfl, rfl⟩
  | some coordinator => exact outcome_ok ⟨rfl, rfl, rfl⟩

end Handlers

/-! ## When nothing goes wrong -/

variable (configuration : ATCHostConfiguration)

/-- Whether an action unwraps the container, by what is known before it. -/
def unwraps (s : HostContainers) : ContainerAction → Bool
  | .launch => launchUnwraps configuration s.store
  | .finishWalkthrough => configuration.onboardingCoordinator.isNone
  | .login _ | .resync _ => true
  | .logout => configuration.onboardingCoordinator.isSome

/-- Whether `init` builds the container. -/
def buildsContainer : Bool :=
  match configuration.style with
  | .tabBar => true
  | .sideBar => !configuration.items.isEmpty

variable {configuration} {s : HostContainers}

theorem hasContainer_created (store : ATCPersistentStore) :
    (created configuration store).hasContainer configuration = buildsContainer configuration := by
  unfold hasContainer created configureChildrenViewControllers buildsContainer
  cases configuration.style with
  | tabBar => rfl
  | sideBar => cases configuration.items <;> rfl

/-- A process has the container that `init` built. -/
def Configured (configuration : ATCHostConfiguration) (s : HostContainers) : Prop :=
  s.running = true → s.hasContainer configuration = buildsContainer configuration

theorem store_created (store : ATCPersistentStore) :
    (created configuration store).store = store := by
  unfold created configureChildrenViewControllers
  cases configuration.style with
  | tabBar => rfl
  | sideBar => cases configuration.items <;> rfl

theorem exists_outcome {action : ContainerAction} {r : Except ATCPersistentStore HostContainers}
    (hs : Configured configuration s) (h : s.handler configuration action = some r) :
    ∃ s₀, s₀.hasContainer configuration = buildsContainer configuration ∧
      Outcome configuration (unwraps configuration s action) s₀ r := by
  cases action with
  | launch =>
    obtain rfl := Option.some.inj h
    have houtcome := @outcome_viewDidLoad configuration (created configuration s.store)
    rw [store_created] at houtcome
    exact ⟨_, hasContainer_created s.store, houtcome⟩
  | finishWalkthrough =>
    obtain ⟨hguard, hr⟩ := Option.ite_none_right_eq_some.mp h
    obtain rfl := Option.some.inj hr
    rw [Bool.and_eq_true] at hguard
    exact ⟨s, hs hguard.1, outcome_walkthroughViewControllerDidFinishFlow⟩
  | login user =>
    obtain ⟨hguard, hr⟩ := Option.ite_none_right_eq_some.mp h
    obtain rfl := Option.some.inj hr
    rw [Bool.and_eq_true] at hguard
    exact ⟨s, hs hguard.1, outcome_coordinatorDidComplete user⟩
  | resync user =>
    obtain ⟨hguard, hr⟩ := Option.ite_none_right_eq_some.mp h
    obtain rfl := Option.some.inj hr
    rw [Bool.and_eq_true] at hguard
    exact ⟨s, hs hguard.1, outcome_coordinatorDidComplete user⟩
  | logout =>
    obtain ⟨hguard, hr⟩ := Option.ite_none_right_eq_some.mp h
    obtain rfl := Option.some.inj hr
    exact ⟨s, hs hguard, outcome_didRequestLogout⟩

theorem step_cases {s' : HostContainers} {action : ContainerAction} {unwrappedNil : UnwrappedNil}
    (hs : Configured configuration s)
    (h : s.step configuration action = some (s', unwrappedNil)) :
    Configured configuration s' ∧
      (unwrappedNil = true ↔
        unwraps configuration s action = true ∧ buildsContainer configuration = false) := by
  -- A step without its container goes wrong, and any other keeps it.
  obtain ⟨r, hhandler, hr⟩ := Option.map_eq_some_iff.mp h
  obtain ⟨s₀, hcontainer, houtcome⟩ := exists_outcome hs hhandler
  cases r with
  | ok s₁ =>
    cases hr
    refine ⟨fun _ => houtcome.2.hasContainer_eq.trans hcontainer, ?_⟩
    simp only [Bool.false_eq_true, false_iff, not_and, Bool.not_eq_false]
    exact fun hneeds => hcontainer ▸ houtcome.1 hneeds
  | error store =>
    cases hr
    refine ⟨fun hrunning => absurd hrunning Bool.false_ne_true, ?_⟩
    exact iff_of_true rfl ⟨houtcome.1, hcontainer ▸ houtcome.2⟩

/-- **No container is unwrapped in vain in exactly these runs: those of a host with tabs or
with menu items, and those whose steps unwrap no container at all.** -/
theorem host_never_unwraps_nil_iff (configuration : ATCHostConfiguration)
    (store : ATCPersistentStore) (actions : List ContainerAction) :
    (machine configuration).Always (fun _ _ _ unwrappedNil => unwrappedNil = false) { store }
        actions ↔
      configuration.style = .tabBar ∨ configuration.items ≠ [] ∨
        (machine configuration).Always
          (fun s action _ _ => unwraps configuration s action = false) { store } actions := by
  have hbuilds : buildsContainer configuration = true ↔
      configuration.style = .tabBar ∨ configuration.items ≠ [] := by
    unfold buildsContainer
    cases configuration.style <;> simp
  have hstart : Configured configuration { store } := fun hrunning =>
    absurd hrunning Bool.false_ne_true
  rw [← or_assoc, ← hbuilds]
  cases hcontainer : buildsContainer configuration with
  | true =>
    refine iff_of_true ?_ (.inl rfl)
    refine (machine configuration).always_of_step (G := fun _ => True) hstart (fun _ _ => trivial)
      (fun _ hs hstep => (step_cases hs hstep).1) ?_
    intro s action s' unwrappedNil _ hs hstep
    have hiff := (step_cases hs hstep).2
    simpa [hcontainer] using hiff
  | false =>
    rw [or_iff_right Bool.false_ne_true]
    refine (machine configuration).always_congr hstart
      (fun hs hstep => (step_cases hs hstep).1) ?_
    intro s action s' unwrappedNil hs hstep
    have hiff := (step_cases hs hstep).2
    rw [hcontainer, eq_self_iff_true, and_true] at hiff
    rw [← Bool.not_eq_true, ← Bool.not_eq_true, hiff]

theorem empty_drawer_unwraps_nil :
    ¬∀ (configuration : ATCHostConfiguration) (store : ATCPersistentStore)
      (actions : List ContainerAction),
      (machine configuration).Always (fun _ _ _ unwrappedNil => unwrappedNil = false) { store }
        actions := by
  -- A drawer without items, and nothing to show before the logged-in screens.
  intro hall
  have halways := hall ⟨.sideBar, [], none, none, false⟩ {} [.launch]
  have hfalse := halways [] .launch [] _ _ _ true rfl rfl rfl
  cases hfalse

end HostContainers

end FinanceApp
