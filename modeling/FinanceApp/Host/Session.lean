import FinanceApp.Lib.Machine
import FinanceApp.Login.Attempt
import FinanceApp.Users.PersistentStore

/-!
# The host controller

What `ATCHostViewController` shows and whom it holds, with an onboarding coordinator and
the tab bar style: from the launch through walkthrough, login, sign-up, resync and
logout, with the requests in flight at each moment. The delegate of the host and the push
manager are part of the state.
-/

namespace FinanceApp

inductive HostScreen where
  | walkthrough
  | onboarding
  | loggedIn
  deriving DecidableEq

structure HostConfiguration where
  managers : OnboardingManagers
  hasWalkthrough : Bool

inductive HostRequest where
  | attempt (request : AttemptRequest)
  | resync (userID : String)

/-- A request, with how many logouts there had been when it was sent, and when the attempt
that it belongs to began. -/
structure InFlight where
  request : HostRequest
  issued : Nat
  began : Nat

/-- `signedIn` and `logouts` are kept for the proofs only: whether a login, sign-up or
resync has completed since the launch and the last logout, and the logouts so far.
The views are those of the screens, the last one in front. -/
structure HostSession where
  store : ATCPersistentStore
  users : UsersCollection
  fcmToken : Option String := none
  subviews : List HostScreen := []
  user : Option ATCUser := none
  dsProviderUser : Option ATCUser := none
  profileUser : Option ATCUser := none
  pushManager : Option ATCUser := none
  transitions : Nat := 0
  inFlight : List InFlight := []
  signedIn : Bool := false
  logouts : Nat := 0

namespace HostSession

variable (configuration : HostConfiguration) (s : HostSession)

/-! ## Views -/

/-- Adding a view that is there already brings it to the front. -/
def addSubview (screen : HostScreen) : HostSession :=
  { s with subviews := s.subviews.erase screen ++ [screen] }

def removeFromSuperview (screen : HostScreen) : HostSession :=
  { s with subviews := s.subviews.erase screen }

/-- The animated transition runs its completion later. -/
def presentLoggedInViewControllers : HostSession :=
  let s := (s.removeFromSuperview .onboarding).addSubview .loggedIn
  { s with transitions := s.transitions + 1 }

/-! ## The handlers -/

/-- What both callbacks of the coordinator do, and then the delegate of the host. -/
def coordinatorDidComplete (user : Option ATCUser) : HostSession :=
  let s := { s with user := user, signedIn := true }.presentLoggedInViewControllers
  match user with
  | some user =>
    { s with
      store := s.store.markUserAsLoggedIn user
      dsProviderUser := some user
      profileUser := some user }
  | none => s

def coordinatorDidCompleteOnboarding (user : Option ATCUser) : HostSession :=
  s.coordinatorDidComplete user

def coordinatorDidResyncCredentials (user : Option ATCUser) : HostSession :=
  s.coordinatorDidComplete user

def didRequestLogout : HostSession :=
  let s := { s with store := s.store.logout, signedIn := false, logouts := s.logouts + 1 }
  (s.removeFromSuperview .loggedIn).addSubview .onboarding

def walkthroughViewControllerDidFinishFlow : HostSession :=
  let s := { s with store := s.store.markWalkthroughCompleted }
  (s.removeFromSuperview .walkthrough).addSubview .onboarding

def send (request : HostRequest) (began : Nat) : HostSession :=
  { s with inFlight := s.inFlight ++ [⟨request, s.logouts, began⟩] }

def resyncPersistentCredentials (user : ATCUser) : HostSession :=
  if configuration.managers.serverConfig.isFirebaseAuthEnabled then
    match user.uid with
    | some uid => s.send (.resync uid) s.logouts
    | none => s
  else s.coordinatorDidResyncCredentials (some user)

def viewDidLoad : HostSession :=
  match s.store.userIfLoggedInUser with
  | some loggedInUser => s.resyncPersistentCredentials configuration loggedInUser
  | none =>
    if configuration.hasWalkthrough && !s.store.isWalkthroughCompleted then
      s.addSubview .walkthrough
    else s.addSubview .onboarding

/-- A new process has what is on the disk and on the servers. -/
def launch : HostSession :=
  viewDidLoad configuration
    { store := s.store, users := s.users, fcmToken := s.fcmToken, logouts := s.logouts }

/-- A user that the server does not have any more is logged out. -/
def resyncPersistentUserCompletion (answer : QueryAnswer) : HostSession :=
  match fetchUserCompletion answer with
  | some (some newUser) => s.coordinatorDidResyncCredentials (some newUser)
  | some none => s.didRequestLogout
  | none => s

/-! ## Attempts -/

def save (saved : Option ATCUser) : HostSession :=
  match saved with
  | some user =>
    { s with
      users := saveUserToServerIfNeeded s.users user
        configuration.managers.serverConfig.appIdentifier }
  | none => s

def sendNext (request : Option AttemptRequest) (began : Nat) : HostSession :=
  match request with
  | some request => s.send (.attempt request) began
  | none => s

/-- An alert changes nothing here. -/
def conclude (outcome : Option AttemptOutcome) : HostSession :=
  match outcome with
  | some (.completed user) => s.coordinatorDidCompleteOnboarding user
  | _ => s

def react (began : Nat) (reaction : Reaction) : HostSession :=
  (((s.save configuration reaction.saved).sendNext reaction.request began).conclude
    reaction.outcome)

/-- `none` where the answer is not one to this request. -/
def receive (sent : InFlight) (answer : AttemptAnswer) : Option HostSession :=
  match sent.request, answer with
  | .attempt request, answer =>
    (configuration.managers.respond request answer).map (s.react configuration sent.began)
  | .resync userID, .query answer =>
    if answer.isAbout userID then some (s.resyncPersistentUserCompletion answer) else none
  | .resync _, _ => none

/-! ## Push tokens -/

def updateFirestorePushTokenIfNeeded : HostSession :=
  match s.fcmToken, s.pushManager.bind ATCUser.uid with
  | some token, some uid => { s with users := s.users.setData uid (pushTokenData token) }
  | _, _ => s

def registerForPushNotifications : HostSession := s.updateFirestorePushTokenIfNeeded

/-- The completion of a transition to the logged-in screens. -/
def transitionDidFinish : HostSession :=
  match s.user with
  | some user =>
    { s with
      transitions := s.transitions - 1
      pushManager := some user }.registerForPushNotifications
  | none => { s with transitions := s.transitions - 1 }

/-- Without a push manager, Messaging has no delegate to tell. -/
def didReceiveRegistrationToken (token : String) : HostSession :=
  { s with fcmToken := some token }.updateFirestorePushTokenIfNeeded

end HostSession

/-! ## Steps -/

inductive HostAction where
  | launch
  | finishWalkthrough
  | tap (attempt : Attempt)
  | answer (index : Nat) (answer : AttemptAnswer)
  | tapLogout
  | transitionFinished
  | tokenRefreshed (token : String)

/-- The request that was answered in a step, if one was, with its answer. -/
abbrev HostEvent := Option (InFlight × AttemptAnswer)

namespace HostSession

/-- The requests in flight are answered in any order. -/
def step (configuration : HostConfiguration) (s : HostSession) :
    HostAction → Option (HostSession × HostEvent)
  | .launch => some (s.launch configuration, none)
  | .finishWalkthrough =>
    if .walkthrough ∈ s.subviews then some (s.walkthroughViewControllerDidFinishFlow, none)
    else none
  | .tap attempt =>
    if .onboarding ∈ s.subviews then
      some (s.react configuration s.logouts (configuration.managers.didTap attempt), none)
    else none
  | .answer index answer =>
    s.inFlight[index]?.bind fun sent =>
      ({ s with inFlight := s.inFlight.eraseIdx index }.receive configuration sent answer).map
        fun s' => (s', some (sent, answer))
  | .tapLogout => if .loggedIn ∈ s.subviews then some (s.didRequestLogout, none) else none
  | .transitionFinished =>
    if 0 < s.transitions then some (s.transitionDidFinish, none) else none
  | .tokenRefreshed token => some (s.didReceiveRegistrationToken token, none)

def machine (configuration : HostConfiguration) : Machine HostSession HostAction HostEvent :=
  ⟨step configuration⟩

/-- No process runs yet. A run starts with a launch. -/
def off (store : ATCPersistentStore) (users : UsersCollection) : HostSession where
  store := store
  users := users

/-! ## What the handlers change -/

section Frames

variable (s : HostSession) (user : Option ATCUser)

@[simp] theorem completed_subviews :
    (s.coordinatorDidComplete user).subviews =
      ((s.subviews.erase .onboarding).erase .loggedIn) ++ [.loggedIn] := by
  cases user <;> rfl

@[simp] theorem completed_inFlight : (s.coordinatorDidComplete user).inFlight = s.inFlight := by
  cases user <;> rfl

@[simp] theorem completed_signedIn : (s.coordinatorDidComplete user).signedIn = true := by
  cases user <;> rfl

@[simp] theorem completed_transitions :
    (s.coordinatorDidComplete user).transitions = s.transitions + 1 := by
  cases user <;> rfl

theorem updateFirestorePushTokenIfNeeded_eq :
    ∃ users, s.updateFirestorePushTokenIfNeeded = { s with users := users } := by
  unfold updateFirestorePushTokenIfNeeded
  split
  · exact ⟨_, rfl⟩
  · exact ⟨s.users, rfl⟩

theorem didReceiveRegistrationToken_eq (token : String) :
    ∃ users, s.didReceiveRegistrationToken token =
      { s with fcmToken := some token, users := users } :=
  updateFirestorePushTokenIfNeeded_eq _

theorem transitionDidFinish_eq :
    ∃ pushManager users, s.transitionDidFinish =
      { s with
        transitions := s.transitions - 1
        pushManager := pushManager
        users := users } := by
  unfold transitionDidFinish
  split
  · next user _ => exact ⟨some user, updateFirestorePushTokenIfNeeded_eq _⟩
  · exact ⟨s.pushManager, s.users, rfl⟩

end Frames

end HostSession

end FinanceApp
