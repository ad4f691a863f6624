import FinanceApp.Host.Effects

/-!
# The screen of the host

With nothing in flight there is one screen, and it is the logged-in one only for someone
who is signed in, unless a resync failed since the launch: then there is none.
-/

namespace FinanceApp

namespace HostSession

def ScreensOk (s : HostSession) : Prop :=
  s.inFlight = [] →
    (∃ screen, s.subviews = [screen]) ∧ (.loggedIn ∈ s.subviews → s.signedIn = true)

/-! ## The two phases of a process -/

/-- Nothing is shown until the answer about the user of the last session is there. -/
structure Resyncing (s : HostSession) : Prop where
  subviews : s.subviews = []
  inFlight : ∃ sent userID, s.inFlight = [sent] ∧ sent.request = .resync userID

/-- The resync, if there was one, is over. -/
def Settled (s : HostSession) : Prop :=
  ∀ sent ∈ s.inFlight, ∃ request, sent.request = .attempt request

/-- From then on one screen is shown. -/
structure Showing (s : HostSession) (screen : HostScreen) : Prop where
  subviews : s.subviews = [screen]
  settled : s.Settled
  walkthrough : screen = .walkthrough → s.inFlight = []
  loggedIn : screen = .loggedIn → s.signedIn = true

def Phase (s : HostSession) : Prop := s.Resyncing ∨ ∃ screen, s.Showing screen

theorem Phase.screensOk {s : HostSession} (h : s.Phase) : s.ScreensOk := by
  intro hdone
  rcases h with ⟨_, sent, userID, hsent, _⟩ | ⟨screen, h⟩
  · rw [hdone] at hsent
    cases hsent
  · refine ⟨⟨screen, h.subviews⟩, ?_⟩
    intro hshown
    rw [h.subviews, List.mem_singleton] at hshown
    exact h.loggedIn hshown.symm

section Steps

variable {configuration : HostConfiguration} {s s' : HostSession} {a : HostAction} {e : HostEvent}

theorem settled_of_idle (h : s.inFlight = []) : s.Settled := by
  intro sent hsent
  rw [h] at hsent
  cases hsent

theorem settled_step (hs : s.Settled) (h : Effect configuration s a e s') (ha : a ≠ .launch) :
    s'.Settled := by
  have hrest : ∀ {index}, ∀ sent ∈ s.inFlight.eraseIdx index,
      ∃ request, sent.request = .attempt request :=
    fun sent hsent => hs sent (List.mem_of_mem_eraseIdx hsent)
  cases h with
  | launched => exact absurd rfl ha
  | walkthroughFinished | loggedOut => exact hs
  | attempted attempt next =>
    intro sent hsent
    rcases List.mem_append.mp hsent with hsent | hsent
    · exact hs sent hsent
    · exact attempt_of_mem_sending hsent
  | completedAtOnce =>
    unfold Settled
    rw [completed_inFlight]
    exact hs
  | proceeded index answer sent request users next =>
    intro sent hsent
    rcases List.mem_append.mp hsent with hsent | hsent
    · exact hrest sent hsent
    · exact attempt_of_mem_sending hsent
  | signedIn =>
    unfold Settled
    rw [completed_inFlight]
    exact hrest
  | foundNoUser | resyncFailed => exact hrest
  | transitionFinished =>
    obtain ⟨pushManager, users, heq⟩ := s.transitionDidFinish_eq
    rw [heq]
    exact hs
  | tokenRefreshed token =>
    obtain ⟨users, heq⟩ := s.didReceiveRegistrationToken_eq token
    rw [heq]
    exact hs

theorem Resyncing.taken (hs : s.Resyncing) {index : Nat} {sent : InFlight}
    (hsent : s.inFlight[index]? = some sent) :
    (∃ userID, sent.request = .resync userID) ∧ s.inFlight.eraseIdx index = [] := by
  obtain ⟨only, userID, honly, hresync⟩ := hs.inFlight
  rw [honly] at hsent ⊢
  cases index with
  | zero =>
    obtain rfl := Option.some.inj hsent
    exact ⟨⟨userID, hresync⟩, rfl⟩
  | succ index => cases hsent

theorem showing_of_idle {screen : HostScreen} (hviews : s.subviews = [screen])
    (hidle : s.inFlight = []) (hsigned : screen = .loggedIn → s.signedIn = true) :
    s.Showing screen :=
  ⟨hviews, settled_of_idle hidle, fun _ => hidle, hsigned⟩

theorem phase_launch (configuration : HostConfiguration) (s : HostSession) :
    (s.launch configuration).Phase := by
  unfold launch viewDidLoad
  split
  · next user huser =>
    obtain ⟨uid, huid⟩ := ATCPersistentStore.userIfLoggedInUser_uid _ huser
    unfold resyncPersistentCredentials
    rw [huid]
    split
    · exact .inl ⟨rfl, _, uid, rfl, rfl⟩
    · exact .inr ⟨.loggedIn, showing_of_idle rfl rfl fun _ => rfl⟩
  · split
    · exact .inr ⟨.walkthrough, showing_of_idle rfl rfl nofun⟩
    · exact .inr ⟨.onboarding, showing_of_idle rfl rfl nofun⟩

/-- Nothing is on screen but what a login or a logout takes away. -/
def Replaceable (s : HostSession) : Prop :=
  s.subviews = [] ∨ s.subviews = [.onboarding] ∨ s.subviews = [.loggedIn]

theorem subviews_complete (h : s.Replaceable) (user : Option ATCUser) :
    (s.coordinatorDidComplete user).subviews = [.loggedIn] := by
  rw [completed_subviews]
  rcases h with h | h | h <;> rw [h] <;> rfl

theorem subviews_logout (h : s.Replaceable) : s.didRequestLogout.subviews = [.onboarding] := by
  unfold didRequestLogout addSubview removeFromSuperview
  rcases h with h | h | h <;> simp only [h] <;> rfl

theorem Showing.replaceable {screen : HostScreen} (hs : s.Showing screen)
    (hscreen : screen ≠ .walkthrough) : s.Replaceable := by
  have hviews := hs.subviews
  cases screen with
  | walkthrough => exact absurd rfl hscreen
  | onboarding => exact .inr (.inl hviews)
  | loggedIn => exact .inr (.inr hviews)

theorem Showing.ne_walkthrough {screen : HostScreen} (hs : s.Showing screen) {index : Nat}
    {sent : InFlight} (hsent : s.inFlight[index]? = some sent) : screen ≠ .walkthrough := by
  intro hscreen
  rw [hs.walkthrough hscreen] at hsent
  cases hsent

theorem resyncing_step (hs : s.Resyncing) (h : Effect configuration s a e s')
    (hkept : ∀ sent answer, e = some (sent, answer) → sent.request.resyncFails answer = false) :
    s'.Phase := by
  have hviews := hs.subviews
  cases h with
  | launched => exact phase_launch configuration s
  | walkthroughFinished h | attempted _ _ h | completedAtOnce _ h | loggedOut h =>
    rw [hviews] at h
    cases h
  | proceeded index answer sent request users next hsent hrequest =>
    obtain ⟨⟨userID, hresync⟩, _⟩ := hs.taken hsent
    rw [hresync] at hrequest
    cases hrequest
  | signedIn index answer sent users user uid hsent =>
    refine .inr ⟨.loggedIn, showing_of_idle ?_ ?_ fun _ => by simp⟩
    · exact subviews_complete (s := s.taking index users) (.inl hviews) _
    · rw [completed_inFlight]
      exact (hs.taken hsent).2
  | foundNoUser index answer sent hsent =>
    refine .inr ⟨.onboarding, showing_of_idle ?_ (hs.taken hsent).2 nofun⟩
    exact subviews_logout (s := s.taking index s.users) (.inl hviews)
  | resyncFailed index answer sent hsent hfails =>
    rw [hkept sent answer rfl] at hfails
    cases hfails
  | transitionFinished =>
    obtain ⟨pushManager, users, heq⟩ := s.transitionDidFinish_eq
    rw [heq]
    exact .inl ⟨hviews, hs.inFlight⟩
  | tokenRefreshed token =>
    obtain ⟨users, heq⟩ := s.didReceiveRegistrationToken_eq token
    rw [heq]
    exact .inl ⟨hviews, hs.inFlight⟩

theorem showing_step {screen : HostScreen} (hs : s.Showing screen)
    (h : Effect configuration s a e s') : s'.Phase := by
  by_cases ha : a = .launch
  · subst ha
    cases h
    exact phase_launch configuration s
  have hsettled := settled_step hs.settled h ha
  have hviews := hs.subviews
  cases h with
  | launched => exact absurd rfl ha
  | walkthroughFinished h =>
    rw [hviews, List.mem_singleton] at h
    refine .inr ⟨.onboarding, ?_, hsettled, nofun, nofun⟩
    unfold walkthroughViewControllerDidFinishFlow addSubview removeFromSuperview
    simp only [hviews, ← h]
    rfl
  | attempted attempt next h =>
    rw [hviews, List.mem_singleton] at h
    exact .inr ⟨screen, hviews, hsettled, fun hscreen => by simp [hscreen] at h, hs.loggedIn⟩
  | completedAtOnce attempt h =>
    rw [hviews, List.mem_singleton] at h
    have hreplaceable := hs.replaceable (by simp [← h])
    exact .inr ⟨.loggedIn, subviews_complete hreplaceable _, hsettled, nofun, fun _ => by simp⟩
  | proceeded index answer sent request users next hsent =>
    refine .inr ⟨screen, hviews, hsettled, ?_, hs.loggedIn⟩
    intro hscreen
    exact absurd hscreen (hs.ne_walkthrough hsent)
  | signedIn index answer sent users user uid hsent =>
    have hreplaceable := hs.replaceable (hs.ne_walkthrough hsent)
    exact .inr ⟨.loggedIn, subviews_complete (s := s.taking index users) hreplaceable _, hsettled,
      nofun, fun _ => by simp⟩
  | foundNoUser index answer sent hsent =>
    have hreplaceable := hs.replaceable (hs.ne_walkthrough hsent)
    exact .inr ⟨.onboarding, subviews_logout (s := s.taking index s.users) hreplaceable, hsettled,
      nofun, nofun⟩
  | resyncFailed index answer sent hsent =>
    refine .inr ⟨screen, hviews, hsettled, ?_, hs.loggedIn⟩
    intro hscreen
    exact absurd hscreen (hs.ne_walkthrough hsent)
  | loggedOut h =>
    rw [hviews, List.mem_singleton] at h
    have hreplaceable := hs.replaceable (by simp [← h])
    exact .inr ⟨.onboarding, subviews_logout hreplaceable, hsettled, nofun, nofun⟩
  | transitionFinished =>
    obtain ⟨pushManager, users, heq⟩ := s.transitionDidFinish_eq
    rw [heq] at hsettled ⊢
    exact .inr ⟨screen, hviews, hsettled, hs.walkthrough, hs.loggedIn⟩
  | tokenRefreshed token =>
    obtain ⟨users, heq⟩ := s.didReceiveRegistrationToken_eq token
    rw [heq] at hsettled ⊢
    exact .inr ⟨screen, hviews, hsettled, hs.walkthrough, hs.loggedIn⟩

theorem phase_step (hs : s.Phase) (h : Effect configuration s a e s')
    (hkept : ∀ sent answer, e = some (sent, answer) → sent.request.resyncFails answer = false) :
    s'.Phase := by
  rcases hs with hs | ⟨screen, hs⟩
  · exact resyncing_step hs h hkept
  · exact showing_step hs h

theorem Settled.not_resync (hs : s.Settled) {index : Nat} {sent : InFlight}
    (hsent : s.inFlight[index]? = some sent) {userID : String} :
    sent.request ≠ .resync userID := by
  obtain ⟨request, hrequest⟩ := hs sent (List.mem_of_getElem? hsent)
  rw [hrequest]
  exact nofun

theorem blank_of_resyncFails (hs : s.Phase) {sent : InFlight} {answer : AttemptAnswer}
    (h : Effect configuration s a (some (sent, answer)) s')
    (hfails : sent.request.resyncFails answer = true) : ¬ s'.ScreensOk := by
  obtain ⟨⟨userID, hresync⟩, hnobody, hfinds⟩ := HostRequest.eq_of_resyncFails hfails
  cases h with
  | proceeded _ _ _ _ _ _ _ hrequest =>
    rw [hresync] at hrequest
    cases hrequest
  | signedIn _ _ _ _ _ _ _ hsigns =>
    rw [hnobody] at hsigns
    cases hsigns
  | foundNoUser _ _ _ _ hfound =>
    rw [hfinds] at hfound
    cases hfound
  | resyncFailed index _ _ hsent =>
    rcases hs with hs | ⟨screen, hs⟩
    · intro hok
      obtain ⟨⟨screen, hscreen⟩, _⟩ := hok (hs.taken hsent).2
      rw [taking, hs.subviews] at hscreen
      cases hscreen
    · exact absurd hresync (hs.settled.not_resync hsent)

end Steps

/-! ## Runs -/

/-- **Whenever nothing is in flight the host shows one screen, the logged-in one only to
who is signed in, exactly when no resync fails.** -/
theorem screens_ok_iff (configuration : HostConfiguration) (store : ATCPersistentStore)
    (users : UsersCollection) (as : List HostAction) :
    (machine configuration).Always (fun _ _ s' _ => s'.ScreensOk) (off store users)
        (.launch :: as) ↔
      (machine configuration).Always (fun _ _ _ e => ∀ sent answer, e = some (sent, answer) →
        sent.request.resyncFails answer = false) (off store users) (.launch :: as) := by
  refine (machine configuration).always_cons_congr ?_ ?_
  · intro s' e hstep
    obtain ⟨rfl, rfl⟩ := Prod.mk.inj (Option.some.inj hstep)
    refine iff_of_true (phase_launch configuration _).screensOk ?_
    intro sent answer hnone
    cases hnone
  · intro s' e hstep _
    obtain ⟨rfl, rfl⟩ := Prod.mk.inj (Option.some.inj hstep)
    refine (machine configuration).always_congr_until (phase_launch configuration _)
      (fun hs hstep hkept => phase_step hs (step_effect hstep) hkept) ?_
    intro s a s' e hs hstep
    constructor
    · rintro hok sent answer rfl
      by_contra hfails
      rw [Bool.not_eq_false] at hfails
      exact blank_of_resyncFails hs (step_effect hstep) hfails hok
    · intro hkept
      exact (phase_step hs (step_effect hstep) hkept).screensOk

/-! ## A launch without a network -/

def financeHost : HostConfiguration := ⟨firebaseManagers, true⟩

/-- The disk after the login of a first session. -/
def neoStore : ATCPersistentStore :=
  ATCPersistentStore.markUserAsLoggedIn {} facebookNeo.facebookUser

theorem blank_screen :
    ¬ ∀ (configuration : HostConfiguration) (store : ATCPersistentStore)
      (users : UsersCollection) (as : List HostAction),
      configuration.managers.serverConfig.isFirebaseAuthEnabled = true →
      (machine configuration).Always (fun _ _ s' _ => s'.ScreensOk) (off store users)
        (.launch :: as) := by
  -- The users query about the user of the last session fails, and nothing is shown.
  intro hall
  have halways := hall financeHost neoStore (fun _ => [])
    [.answer 0 (.query ⟨none, some "offline"⟩)] rfl
  have hok := halways [.launch] (.answer 0 (.query ⟨none, some "offline"⟩)) [] _ _ _ _ rfl rfl rfl
  obtain ⟨⟨screen, hscreen⟩, _⟩ := hok rfl
  cases hscreen

end HostSession

end FinanceApp
