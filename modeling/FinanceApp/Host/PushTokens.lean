import FinanceApp.Host.Effects

/-!
# Where the push token is stored

A login writes the token of the device into the document of the user, and so does a new
token, for the user of the push manager. Nothing ever takes it out of a document.
-/

namespace FinanceApp

namespace HostSession

def loggedInUid (s : HostSession) : Option String := s.store.userIfLoggedInUser.bind ATCUser.uid

/-- What is sent to this user comes to this device. -/
def RoutesHere (s : HostSession) (uid : String) : Prop :=
  ∃ token, s.fcmToken = some token ∧ (s.users uid).lookup "fcmToken" = some (.string token)

def Private (s : HostSession) : Prop := ∀ uid, s.RoutesHere uid → s.loggedInUid = some uid

/-- Who logs out has not been given the token, by a finished transition or a refresh of this
process or an earlier one, and who is signed in finds it nowhere else. It is only written for
the user who is logged in, and a new one is not another's. -/
def TokenStaysPrivate (s : HostSession) (a : HostAction) (_ : HostSession) (e : HostEvent) : Prop :=
  match a, e with
  | .answer _ _, some (sent, answer) =>
    (∀ uid other, sent.request.signsIn answer = some uid → s.RoutesHere other → other = uid) ∧
      (sent.request.findsNoUser answer = true →
        ∀ uid, s.loggedInUid = some uid → ¬ s.RoutesHere uid)
  | .tapLogout, _ => ∀ uid, s.loggedInUid = some uid → ¬ s.RoutesHere uid
  | .transitionFinished, _ => ∀ token uid, s.fcmToken = some token →
    s.user.bind ATCUser.uid = some uid → s.loggedInUid = some uid
  | .tokenRefreshed token, _ =>
    (∀ uid, s.pushManager.bind ATCUser.uid = some uid → s.loggedInUid = some uid) ∧
      ∀ uid, (s.users uid).lookup "fcmToken" = some (.string token) → s.loggedInUid = some uid
  | _, _ => True

section Steps

variable {configuration : HostConfiguration} {s s' : HostSession} {a : HostAction} {e : HostEvent}

theorem routesHere_congr (htoken : s'.fcmToken = s.fcmToken) (husers : SameTokens s.users s'.users)
    (uid : String) : s'.RoutesHere uid ↔ s.RoutesHere uid := by
  unfold RoutesHere
  rw [htoken, husers uid]

theorem Private.of_eq (hs : s.Private) (htoken : s'.fcmToken = s.fcmToken)
    (husers : SameTokens s.users s'.users) (hstored : s'.loggedInUid = s.loggedInUid) :
    s'.Private := by
  intro uid hroutes
  rw [hstored]
  exact hs uid ((routesHere_congr htoken husers uid).mp hroutes)

theorem private_of_nobody (hnobody : s.loggedInUid = none) :
    s.Private ↔ ∀ uid, ¬ s.RoutesHere uid := by
  constructor
  · intro h uid hroutes
    have huid := h uid hroutes
    rw [hnobody] at huid
    cases huid
  · intro h uid hroutes
    exact absurd hroutes (h uid)

theorem private_of_logout (hs : s.Private) (hnobody : s'.loggedInUid = none)
    (hroutes : ∀ uid, s'.RoutesHere uid ↔ s.RoutesHere uid) :
    s'.Private ↔ ∀ uid, s.loggedInUid = some uid → ¬ s.RoutesHere uid := by
  rw [private_of_nobody hnobody]
  constructor
  · exact fun h uid _ hrouted => h uid ((hroutes uid).mpr hrouted)
  · intro h uid hrouted
    have hbefore := (hroutes uid).mp hrouted
    exact h uid (hs uid hbefore) hbefore

theorem loggedInUid_complete {user : ATCUser} {uid : String} (huid : user.uid = some uid) :
    (s.coordinatorDidComplete (some user)).loggedInUid = some uid := by
  change (ATCUser.initCoder user.encode).uid = some uid
  rw [ATCUser.initCoder_encode, huid]
  rfl

theorem launch_private (hs : s.Private) : (s.launch configuration).Private := by
  unfold launch viewDidLoad
  split
  · next user huser =>
    obtain ⟨uid, huid⟩ := ATCPersistentStore.userIfLoggedInUser_uid _ huser
    unfold resyncPersistentCredentials
    split
    · rw [huid]
      exact hs.of_eq rfl (fun _ => rfl) rfl
    · refine hs.of_eq rfl (fun _ => rfl) ?_
      have hbefore : s.loggedInUid = some uid := by
        unfold loggedInUid
        rw [huser]
        exact huid
      rw [hbefore]
      exact loggedInUid_complete huid
  · split <;> exact hs.of_eq rfl (fun _ => rfl) rfl

theorem private_of_token {token : String} (htoken : s.fcmToken = some token) :
    s.Private ↔ ∀ uid, (s.users uid).lookup "fcmToken" = some (.string token) →
      s.loggedInUid = some uid := by
  constructor
  · intro h uid hstored
    exact h uid ⟨token, htoken, hstored⟩
  · rintro h uid ⟨other, hother, hstored⟩
    obtain rfl := Option.some.inj (htoken.symm.trans hother)
    exact h uid hstored

theorem private_store_iff {token : String} (htoken : s.fcmToken = some token) (uid : String) :
    { s with users := s.users.setData uid (pushTokenData token) }.Private ↔
      s.Private ∧ s.loggedInUid = some uid := by
  have hstored : ∀ other, (s.users.setData uid (pushTokenData token) other).lookup "fcmToken" =
      if other = uid then some (.string token) else (s.users other).lookup "fcmToken" :=
    fun other => UsersCollection.lookup_setData s.users uid other _ _
  rw [private_of_token (s := s) htoken]
  refine (private_of_token
    (s := { s with users := s.users.setData uid (pushTokenData token) }) htoken).trans ?_
  simp only [hstored]
  constructor
  · intro h
    refine ⟨?_, h uid (if_pos rfl)⟩
    intro other hother
    by_cases hsame : other = uid
    · exact h other (if_pos hsame)
    · exact h other ((if_neg hsame).trans hother)
  · rintro ⟨h, hloggedIn⟩ other hother
    split at hother
    · next hsame =>
      rw [hsame]
      exact hloggedIn
    · exact h other hother

theorem private_update_iff :
    s.updateFirestorePushTokenIfNeeded.Private ↔
      s.Private ∧ ∀ token uid, s.fcmToken = some token →
        s.pushManager.bind ATCUser.uid = some uid → s.loggedInUid = some uid := by
  unfold updateFirestorePushTokenIfNeeded
  split
  · next token uid htoken huid =>
    rw [private_store_iff htoken]
    simp [htoken, huid]
  · next hnone =>
    have hvacuous : ∀ token uid, s.fcmToken = some token →
        s.pushManager.bind ATCUser.uid = some uid → s.loggedInUid = some uid :=
      fun token uid htoken huid => absurd huid (hnone token uid htoken)
    exact (and_iff_left hvacuous).symm

theorem transition_private_iff (hs : s.Private) :
    s.transitionDidFinish.Private ↔ ∀ token uid, s.fcmToken = some token →
      s.user.bind ATCUser.uid = some uid → s.loggedInUid = some uid := by
  have hframe : ∀ pushManager, Private
      { s with transitions := s.transitions - 1, pushManager := pushManager } :=
    fun _ => hs.of_eq rfl (fun _ => rfl) rfl
  cases huser : s.user with
  | none =>
    have heq : s.transitionDidFinish = { s with transitions := s.transitions - 1 } := by
      unfold transitionDidFinish
      rw [huser]
    rw [heq]
    exact iff_of_true (hframe _) nofun
  | some user =>
    have heq : s.transitionDidFinish = updateFirestorePushTokenIfNeeded
        { s with transitions := s.transitions - 1, pushManager := some user } := by
      unfold transitionDidFinish
      rw [huser]
      rfl
    rw [heq, private_update_iff]
    exact and_iff_right (hframe _)

theorem refresh_private_iff (token : String) :
    (s.didReceiveRegistrationToken token).Private ↔
      (∀ uid, s.pushManager.bind ATCUser.uid = some uid → s.loggedInUid = some uid) ∧
        ∀ uid, (s.users uid).lookup "fcmToken" = some (.string token) →
          s.loggedInUid = some uid := by
  unfold didReceiveRegistrationToken
  rw [private_update_iff, private_of_token rfl]
  constructor
  · rintro ⟨hstored, hmanager⟩
    exact ⟨fun uid huid => hmanager token uid rfl huid, hstored⟩
  · rintro ⟨hmanager, hstored⟩
    exact ⟨hstored, fun _ uid _ huid => hmanager uid huid⟩

theorem private_step (hs : s.Private) (h : Effect configuration s a e s') :
    s'.Private ↔ TokenStaysPrivate s a s' e := by
  cases h with
  | launched => exact iff_of_true (launch_private hs) trivial
  | walkthroughFinished => exact iff_of_true (hs.of_eq rfl (fun _ => rfl) rfl) trivial
  | attempted => exact iff_of_true (hs.of_eq rfl (fun _ => rfl) rfl) trivial
  | completedAtOnce => exact iff_of_true (hs.of_eq rfl (fun _ => rfl) rfl) trivial
  | proceeded index answer sent request users next hsent hrequest hnobody husers =>
    refine iff_of_true (hs.of_eq rfl husers rfl) ⟨?_, ?_⟩
    · intro uid other hsigns
      rw [hrequest] at hsigns
      cases hnobody.symm.trans hsigns
    · intro hfinds
      rw [hrequest] at hfinds
      cases hfinds
  | signedIn index answer sent users user uid hsent hsigns huid husers =>
    have hroutes : ∀ other, RoutesHere ((s.taking index users).coordinatorDidComplete (some user))
        other ↔ s.RoutesHere other := routesHere_congr rfl husers
    have hfinds : sent.request.findsNoUser answer ≠ true := by
      intro hfinds
      cases (HostRequest.eq_of_findsNoUser hfinds).2.symm.trans hsigns
    constructor
    · intro h
      refine ⟨?_, fun hfound => absurd hfound hfinds⟩
      intro signed other hsigned hother
      obtain rfl := Option.some.inj (hsigns.symm.trans hsigned)
      have hloggedIn := h other ((hroutes other).mpr hother)
      rw [loggedInUid_complete huid] at hloggedIn
      exact (Option.some.inj hloggedIn).symm
    · rintro ⟨h, _⟩ other hother
      rw [loggedInUid_complete huid, h uid other hsigns ((hroutes other).mp hother)]
  | foundNoUser index answer sent hsent hfinds =>
    have hnobody := (HostRequest.eq_of_findsNoUser hfinds).2
    have hlogout : (s.taking index s.users).didRequestLogout.Private ↔
        ∀ uid, s.loggedInUid = some uid → ¬ s.RoutesHere uid :=
      private_of_logout hs rfl fun _ => Iff.rfl
    refine hlogout.trans ⟨?_, ?_⟩
    · intro h
      refine ⟨?_, fun _ => h⟩
      intro uid other hsigns
      cases hnobody.symm.trans hsigns
    · rintro ⟨_, h⟩
      exact h hfinds
  | resyncFailed index answer sent hsent hfails =>
    obtain ⟨_, hnobody, hfinds⟩ := HostRequest.eq_of_resyncFails hfails
    refine iff_of_true (hs.of_eq rfl (fun _ => rfl) rfl) ⟨?_, ?_⟩
    · intro uid other hsigns
      cases hnobody.symm.trans hsigns
    · intro hfound
      cases hfinds.symm.trans hfound
  | loggedOut => exact private_of_logout hs rfl fun _ => Iff.rfl
  | transitionFinished => exact transition_private_iff hs
  | tokenRefreshed token => exact refresh_private_iff token

end Steps

/-! ## Runs -/

/-- **The token of the device is stored for nobody but the logged-in user exactly when
each step finds it nowhere else**: a logout clears no document. -/
theorem token_private_iff (configuration : HostConfiguration) (store : ATCPersistentStore)
    (users : UsersCollection) (as : List HostAction) :
    (machine configuration).Always (fun _ _ s' _ => s'.Private) (off store users)
        (.launch :: as) ↔
      (machine configuration).Always TokenStaysPrivate (off store users) (.launch :: as) := by
  have hoff : (off store users).Private := by
    rintro uid ⟨token, htoken, _⟩
    cases htoken
  exact (machine configuration).always_congr_until hoff
    (fun hs hstep hkept => (private_step hs (step_effect hstep)).mpr hkept)
    fun hs hstep => private_step hs (step_effect hstep)

/-! ## A token that stays behind -/

theorem token_kept_after_logout :
    ¬ ∀ (configuration : HostConfiguration) (store : ATCPersistentStore)
      (users : UsersCollection) (as : List HostAction),
      (machine configuration).Always (fun _ _ s' _ => s'.Private) (off store users)
        (.launch :: as) := by
  -- After the logout the document of the user still has the token of the device.
  intro hall
  have hprivate := hall ⟨firebaseManagers, false⟩ {} (fun _ => [])
    [.tokenRefreshed "token", .tap neoLogin, .answer 0 (.auth (some facebookNeo)),
      .answer 0 (.query ⟨some [], none⟩), .transitionFinished, .tapLogout]
    [.launch, .tokenRefreshed "token", .tap neoLogin, .answer 0 (.auth (some facebookNeo)),
      .answer 0 (.query ⟨some [], none⟩), .transitionFinished] .tapLogout [] _ _ _ _ rfl rfl rfl
  cases hprivate "neo" ⟨"token", rfl, rfl⟩

end HostSession

end FinanceApp
