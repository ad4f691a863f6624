import FinanceApp.Host.Screens

/-!
# Who is logged in

The host, its delegate and the disk each have a copy of the user. A login writes all of
them, a logout only the disk, and a login without a user only the host.
-/

namespace FinanceApp

namespace HostSession

/-- Absent, or the uid of the user that the disk has. -/
def persistedUid (s : HostSession) : Option (Option String) :=
  s.store.userIfLoggedInUser.map ATCUser.uid

structure SameIdentity (s : HostSession) : Prop where
  user : s.user.map ATCUser.uid = s.persistedUid
  dsProviderUser : s.dsProviderUser.map ATCUser.uid = s.persistedUid
  profileUser : s.profileUser.map ATCUser.uid = s.persistedUid

def NobodyLoggedIn (s : HostSession) : Prop := s.store.userIfLoggedInUser = none

/-- A launch has nobody to resync, and nobody is logged in when someone logs out, or
completes the onboarding as nobody. -/
def NobodyToForget (configuration : HostConfiguration) (s : HostSession) (a : HostAction)
    (_ : HostSession) (e : HostEvent) : Prop :=
  match a, e with
  | .launch, _ =>
    configuration.managers.serverConfig.isFirebaseAuthEnabled = true → s.NobodyLoggedIn
  | .tap attempt, _ => configuration.managers.completesAtOnce attempt = true → s.NobodyLoggedIn
  | .answer _ _, some (sent, answer) =>
    sent.request.findsNoUser answer = true → s.NobodyLoggedIn
  | .tapLogout, _ => s.NobodyLoggedIn
  | _, _ => True

/-- The same without what a launch does: its resync must not fail. -/
def NobodyToForgetAtRest (configuration : HostConfiguration) (s : HostSession) (a : HostAction)
    (_ : HostSession) (e : HostEvent) : Prop :=
  match a, e with
  | .tap attempt, _ => configuration.managers.completesAtOnce attempt = true → s.NobodyLoggedIn
  | .answer _ _, some (sent, answer) => sent.request.resyncFails answer = false
  | .tapLogout, _ => s.NobodyLoggedIn
  | _, _ => True

section Steps

variable {configuration : HostConfiguration} {s s' : HostSession} {a : HostAction} {e : HostEvent}

theorem persistedUid_eq_none : s.persistedUid = none ↔ s.NobodyLoggedIn :=
  Option.map_eq_none_iff

theorem sameIdentity_complete {user : ATCUser} {uid : String} (huid : user.uid = some uid) :
    (s.coordinatorDidComplete (some user)).SameIdentity := by
  have hpersisted : (s.coordinatorDidComplete (some user)).persistedUid = some user.uid := by
    change some (ATCUser.initCoder user.encode).uid = some user.uid
    rw [ATCUser.initCoder_encode, huid]
    rfl
  exact ⟨hpersisted.symm, hpersisted.symm, hpersisted.symm⟩

theorem SameIdentity.complete_none_iff (hs : s.SameIdentity) :
    (s.coordinatorDidComplete none).SameIdentity ↔ s.NobodyLoggedIn := by
  constructor
  · intro h
    exact persistedUid_eq_none.mp h.user.symm
  · intro hnobody
    exact ⟨(persistedUid_eq_none.mpr hnobody).symm, hs.dsProviderUser, hs.profileUser⟩

theorem SameIdentity.logout_iff (hs : s.SameIdentity) :
    s.didRequestLogout.SameIdentity ↔ s.NobodyLoggedIn := by
  rw [← persistedUid_eq_none]
  constructor
  · intro h
    rw [← hs.user]
    exact h.user
  · intro hnobody
    exact ⟨hs.user.trans hnobody, hs.dsProviderUser.trans hnobody, hs.profileUser.trans hnobody⟩

/-- Nobody in memory, while the disk has someone to ask the server about. -/
structure Forgotten (s : HostSession) : Prop where
  resyncing : s.Resyncing
  user : s.user = none
  dsProviderUser : s.dsProviderUser = none
  profileUser : s.profileUser = none
  persisted : ¬ s.NobodyLoggedIn

theorem Forgotten.not_sameIdentity (hs : s.Forgotten) : ¬ s.SameIdentity := by
  intro h
  have hnobody := h.user
  rw [hs.user] at hnobody
  exact hs.persisted (persistedUid_eq_none.mp hnobody.symm)

theorem Forgotten.not_settled (hs : s.Forgotten) : ¬ s.Settled := by
  intro hsettled
  obtain ⟨sent, userID, hsent, hresync⟩ := hs.resyncing.inFlight
  have hfirst : s.inFlight[0]? = some sent := by rw [hsent]; rfl
  exact hsettled.not_resync hfirst hresync

theorem launch_forgotten
    (hauth : configuration.managers.serverConfig.isFirebaseAuthEnabled = true)
    (hsomeone : ¬ s.NobodyLoggedIn) : (s.launch configuration).Forgotten := by
  obtain ⟨user, huser⟩ := Option.ne_none_iff_exists'.mp hsomeone
  obtain ⟨uid, huid⟩ := ATCPersistentStore.userIfLoggedInUser_uid _ huser
  unfold launch viewDidLoad resyncPersistentCredentials
  simp only [huser, huid, hauth, if_true]
  exact ⟨⟨rfl, _, uid, rfl, rfl⟩, rfl, rfl, rfl, hsomeone⟩

theorem launch_sameIdentity
    (h : configuration.managers.serverConfig.isFirebaseAuthEnabled = true → s.NobodyLoggedIn) :
    (s.launch configuration).Settled ∧ (s.launch configuration).SameIdentity := by
  unfold launch viewDidLoad
  split
  · next user huser =>
    obtain ⟨uid, huid⟩ := ATCPersistentStore.userIfLoggedInUser_uid _ huser
    have hauth : configuration.managers.serverConfig.isFirebaseAuthEnabled ≠ true := by
      intro hauth
      rw [h hauth] at huser
      cases huser
    unfold resyncPersistentCredentials
    rw [if_neg hauth]
    exact ⟨settled_of_idle rfl, sameIdentity_complete huid⟩
  · next hnobody =>
    have hnone := (persistedUid_eq_none (s := s)).mpr hnobody
    split <;> exact ⟨settled_of_idle rfl, hnone.symm, hnone.symm, hnone.symm⟩

theorem launch_sameIdentity_iff : (s.launch configuration).SameIdentity ↔
    (configuration.managers.serverConfig.isFirebaseAuthEnabled = true → s.NobodyLoggedIn) := by
  constructor
  · intro hsame hauth
    by_contra hsomeone
    exact (launch_forgotten hauth hsomeone).not_sameIdentity hsame
  · intro h
    exact (launch_sameIdentity h).2

theorem sameIdentity_step (hs : s.SameIdentity) (h : Effect configuration s a e s') :
    s'.SameIdentity ↔ NobodyToForget configuration s a s' e := by
  cases h with
  | launched => exact launch_sameIdentity_iff
  | walkthroughFinished => exact iff_of_true ⟨hs.user, hs.dsProviderUser, hs.profileUser⟩ trivial
  | attempted attempt next _ hrequests =>
    refine iff_of_true ⟨hs.user, hs.dsProviderUser, hs.profileUser⟩ ?_
    intro hcompletes
    rw [hrequests] at hcompletes
    cases hcompletes
  | completedAtOnce attempt _ hcompletes =>
    rw [hs.complete_none_iff]
    exact ⟨fun hnobody _ => hnobody, fun hnobody => hnobody hcompletes⟩
  | proceeded index answer sent request users next hsent hrequest =>
    refine iff_of_true ⟨hs.user, hs.dsProviderUser, hs.profileUser⟩ ?_
    intro hfinds
    rw [hrequest] at hfinds
    cases hfinds
  | signedIn index answer sent users user uid hsent hsigns huid =>
    refine iff_of_true (sameIdentity_complete huid) ?_
    intro hfinds
    rw [(HostRequest.eq_of_findsNoUser hfinds).2] at hsigns
    cases hsigns
  | foundNoUser index answer sent hsent hfinds =>
    have hlogout := SameIdentity.logout_iff (s := s.taking index s.users)
      ⟨hs.user, hs.dsProviderUser, hs.profileUser⟩
    rw [hlogout]
    exact ⟨fun hnobody _ => hnobody, fun hnobody => hnobody hfinds⟩
  | resyncFailed index answer sent hsent hfails =>
    refine iff_of_true ⟨hs.user, hs.dsProviderUser, hs.profileUser⟩ ?_
    intro hfinds
    rw [(HostRequest.eq_of_resyncFails hfails).2.2] at hfinds
    cases hfinds
  | loggedOut => exact hs.logout_iff
  | transitionFinished =>
    obtain ⟨pushManager, users, heq⟩ := s.transitionDidFinish_eq
    rw [heq]
    exact iff_of_true ⟨hs.user, hs.dsProviderUser, hs.profileUser⟩ trivial
  | tokenRefreshed token =>
    obtain ⟨users, heq⟩ := s.didReceiveRegistrationToken_eq token
    rw [heq]
    exact iff_of_true ⟨hs.user, hs.dsProviderUser, hs.profileUser⟩ trivial

/-! ## Between the resyncs -/

def Known (s : HostSession) : Prop := s.Forgotten ∨ s.Settled ∧ s.SameIdentity

theorem launch_known (s : HostSession) : (s.launch configuration).Known := by
  by_cases h : configuration.managers.serverConfig.isFirebaseAuthEnabled = true → s.NobodyLoggedIn
  · exact .inr (launch_sameIdentity h)
  · obtain ⟨hauth, hsomeone⟩ := Classical.not_imp.mp h
    exact .inl (launch_forgotten hauth hsomeone)

theorem Known.sameIdentity (hs : s.Known) (hsettled : s.Settled) : s.SameIdentity := by
  rcases hs with hs | ⟨_, hsame⟩
  · exact absurd hsettled hs.not_settled
  · exact hsame

theorem forgotten_step (hs : s.Forgotten) (h : Effect configuration s a e s') :
    (NobodyToForgetAtRest configuration s a s' e ∧ s'.Known) ∨
      (¬ NobodyToForgetAtRest configuration s a s' e ∧ s'.Settled ∧ ¬ s'.SameIdentity) := by
  -- After a resync all copies are written, or empty. Only a failed one leaves the disk ahead.
  have hviews := hs.resyncing.subviews
  cases h with
  | launched => exact .inl ⟨trivial, launch_known s⟩
  | walkthroughFinished h | attempted _ _ h | completedAtOnce _ h | loggedOut h =>
    rw [hviews] at h
    cases h
  | proceeded index answer sent request users next hsent hrequest =>
    obtain ⟨⟨userID, hresync⟩, _⟩ := hs.resyncing.taken hsent
    rw [hresync] at hrequest
    cases hrequest
  | signedIn index answer sent users user uid hsent hsigns huid =>
    refine .inl ⟨?_, .inr ⟨settled_of_idle ?_, sameIdentity_complete huid⟩⟩
    · change sent.request.resyncFails answer = false
      by_contra hfails
      rw [Bool.not_eq_false] at hfails
      rw [(HostRequest.eq_of_resyncFails hfails).2.1] at hsigns
      cases hsigns
    · rw [completed_inFlight]
      exact (hs.resyncing.taken hsent).2
  | foundNoUser index answer sent hsent hfinds =>
    refine .inl ⟨?_, .inr ⟨settled_of_idle (hs.resyncing.taken hsent).2, ?_⟩⟩
    · change sent.request.resyncFails answer = false
      by_contra hfails
      rw [Bool.not_eq_false] at hfails
      rw [(HostRequest.eq_of_resyncFails hfails).2.2] at hfinds
      cases hfinds
    · exact ⟨congrArg _ hs.user, congrArg _ hs.dsProviderUser, congrArg _ hs.profileUser⟩
  | resyncFailed index answer sent hsent hfails =>
    refine .inr ⟨?_, settled_of_idle (hs.resyncing.taken hsent).2, ?_⟩
    · intro hkept
      cases hfails.symm.trans hkept
    · intro hsame
      exact hs.not_sameIdentity ⟨hsame.user, hsame.dsProviderUser, hsame.profileUser⟩
  | transitionFinished =>
    obtain ⟨pushManager, users, heq⟩ := s.transitionDidFinish_eq
    rw [heq]
    exact .inl ⟨trivial, .inl ⟨⟨hviews, hs.resyncing.inFlight⟩, hs.user, hs.dsProviderUser,
      hs.profileUser, hs.persisted⟩⟩
  | tokenRefreshed token =>
    obtain ⟨users, heq⟩ := s.didReceiveRegistrationToken_eq token
    rw [heq]
    exact .inl ⟨trivial, .inl ⟨⟨hviews, hs.resyncing.inFlight⟩, hs.user, hs.dsProviderUser,
      hs.profileUser, hs.persisted⟩⟩

theorem Settled.condition_iff (hs : s.Settled) (h : Effect configuration s a e s')
    (ha : a ≠ .launch) :
    NobodyToForget configuration s a s' e ↔ NobodyToForgetAtRest configuration s a s' e := by
  have hattempt : ∀ {index : Nat} {sent : InFlight} {answer}, s.inFlight[index]? = some sent →
      ((sent.request.findsNoUser answer = true → s.NobodyLoggedIn) ↔
        sent.request.resyncFails answer = false) := by
    intro index sent answer hsent
    obtain ⟨request, hrequest⟩ := hs sent (List.mem_of_getElem? hsent)
    rw [hrequest]
    exact iff_of_true nofun rfl
  cases h with
  | launched => exact absurd rfl ha
  | walkthroughFinished | attempted | completedAtOnce | loggedOut | transitionFinished
    | tokenRefreshed => exact Iff.rfl
  | proceeded index answer sent request users next hsent => exact hattempt hsent
  | signedIn index answer sent users user uid hsent => exact hattempt hsent
  | foundNoUser index answer sent hsent => exact hattempt hsent
  | resyncFailed index answer sent hsent => exact hattempt hsent

theorem known_step (hs : s.Known) (h : Effect configuration s a e s') :
    (NobodyToForgetAtRest configuration s a s' e ∧ s'.Known) ∨
      (¬ NobodyToForgetAtRest configuration s a s' e ∧ s'.Settled ∧ ¬ s'.SameIdentity) := by
  rcases hs with hs | ⟨hsettled, hsame⟩
  · exact forgotten_step hs h
  · by_cases ha : a = .launch
    · subst ha
      cases h
      exact .inl ⟨trivial, launch_known s⟩
    · have hsettled' := settled_step hsettled h ha
      have hiff := (sameIdentity_step hsame h).trans (hsettled.condition_iff h ha)
      by_cases hsame' : s'.SameIdentity
      · exact .inl ⟨hiff.mp hsame', .inr ⟨hsettled', hsame'⟩⟩
      · exact .inr ⟨fun hcondition => hsame' (hiff.mpr hcondition), hsettled', hsame'⟩

end Steps

/-! ## Runs -/

/-- **All copies denote one identity in every state exactly when there is never anybody to
forget.** Between the resyncs that a launch makes it takes less. -/
theorem same_identity_iff (configuration : HostConfiguration) (store : ATCPersistentStore)
    (users : UsersCollection) (as : List HostAction) :
    ((machine configuration).Always (fun _ _ s' _ => s'.SameIdentity) (off store users)
        (.launch :: as) ↔
      (machine configuration).Always (NobodyToForget configuration) (off store users)
        (.launch :: as)) ∧
    ((machine configuration).Always (fun _ _ s' _ => s'.Settled → s'.SameIdentity)
        (off store users) (.launch :: as) ↔
      (machine configuration).Always (NobodyToForgetAtRest configuration) (off store users)
        (.launch :: as)) := by
  constructor
  · refine (machine configuration).always_cons_congr ?_ ?_
    · intro s' e hstep
      obtain ⟨rfl, rfl⟩ := Prod.mk.inj (Option.some.inj hstep)
      exact launch_sameIdentity_iff
    · intro s' e hstep hnobody
      obtain ⟨rfl, rfl⟩ := Prod.mk.inj (Option.some.inj hstep)
      exact (machine configuration).always_congr_until (launch_sameIdentity_iff.mpr hnobody)
        (fun hs hstep hcondition => (sameIdentity_step hs (step_effect hstep)).mpr hcondition)
        fun hs hstep => sameIdentity_step hs (step_effect hstep)
  · refine (machine configuration).always_cons_congr ?_ ?_
    · intro s' e hstep
      obtain ⟨rfl, rfl⟩ := Prod.mk.inj (Option.some.inj hstep)
      exact iff_of_true (launch_known _).sameIdentity trivial
    · intro s' e hstep _
      obtain ⟨rfl, rfl⟩ := Prod.mk.inj (Option.some.inj hstep)
      refine (machine configuration).always_congr_until (I := Known) (launch_known _) ?_ ?_
      · intro s a s' e hs hstep hcondition
        rcases known_step hs (step_effect hstep) with ⟨_, hs'⟩ | ⟨hnot, _⟩
        · exact hs'
        · exact absurd hcondition hnot
      · intro s a s' e hs hstep
        rcases known_step hs (step_effect hstep) with ⟨hcondition, hs'⟩ | ⟨hnot, hsettled, hdiffer⟩
        · exact iff_of_true hs'.sameIdentity hcondition
        · exact iff_of_false (fun h => hdiffer (h hsettled)) hnot

/-! ## Two sessions -/

theorem user_kept_after_logout :
    ¬ ∀ (configuration : HostConfiguration) (store : ATCPersistentStore)
      (users : UsersCollection) (as : List HostAction),
      (machine configuration).Always (fun _ _ s' _ => s'.SameIdentity) (off store users)
        (.launch :: as) := by
  -- After a logout the host still has the user that the disk has forgotten.
  intro hall
  have hsame := hall ⟨firebaseManagers, false⟩ {} (fun _ => [])
    [.tap neoLogin, .answer 0 (.auth (some facebookNeo)), .answer 0 (.query ⟨some [], none⟩),
      .tapLogout]
    [.launch, .tap neoLogin, .answer 0 (.auth (some facebookNeo)),
      .answer 0 (.query ⟨some [], none⟩)] .tapLogout [] _ _ _ _ rfl rfl rfl
  cases hsame.user

end HostSession

end FinanceApp
