import FinanceApp.Host.Session
import FinanceApp.Login.Outcome

/-!
# What one step of the host can do

Each step has one of a few effects. The invariants of the host are checked against the
effects, and never look into the handlers of a login again.
-/

namespace FinanceApp

/-! ## What an answer means -/

/-- The user that an answer signs in. -/
def AttemptRequest.signsIn : AttemptRequest → AttemptAnswer → Option String
  | .fetchUser user, .query ⟨some _, none⟩ => some user.uid
  | .facebookSignIn _, .auth user => user.map FirebaseUser.uid
  | .createUser _ _, .created user _ => user.map FirebaseUser.uid
  | _, _ => none

namespace HostRequest

def signsIn : HostRequest → AttemptAnswer → Option String
  | .attempt request, answer => request.signsIn answer
  | .resync userID, .query ⟨some (_ :: _), none⟩ => some userID
  | .resync _, _ => none

/-- The server has no document about the user of the last session. -/
def findsNoUser : HostRequest → AttemptAnswer → Bool
  | .resync _, .query ⟨some [], none⟩ => true
  | _, _ => false

def resyncFails : HostRequest → AttemptAnswer → Bool
  | .resync _, .query ⟨_, some _⟩ => true
  | .resync _, .query ⟨none, _⟩ => true
  | _, _ => false

theorem eq_of_resyncFails {request : HostRequest} {answer : AttemptAnswer}
    (h : request.resyncFails answer = true) :
    (∃ userID, request = .resync userID) ∧ request.signsIn answer = none ∧
      request.findsNoUser answer = false := by
  unfold resyncFails at h
  split at h
  · next userID documents error => exact ⟨⟨userID, rfl⟩, by simp [signsIn], by simp [findsNoUser]⟩
  · next userID error _ => exact ⟨⟨userID, rfl⟩, rfl, rfl⟩
  · cases h

theorem eq_of_findsNoUser {request : HostRequest} {answer : AttemptAnswer}
    (h : request.findsNoUser answer = true) :
    (∃ userID, request = .resync userID) ∧ request.signsIn answer = none := by
  unfold findsNoUser at h
  split at h
  · next userID => exact ⟨⟨userID, rfl⟩, rfl⟩
  · cases h

end HostRequest

/-- Without Firebase auth, the login and the sign-up button complete at once, with no user. -/
def OnboardingManagers.completesAtOnce (managers : OnboardingManagers) : Attempt → Bool
  | .facebook => false
  | _ => !managers.serverConfig.isFirebaseAuthEnabled

/-! ## What the managers do with it -/

theorem QueryAnswer.uid_of_isAbout {userID : String} {document : JSONDict}
    {documents : List JSONDict} {error : Option String}
    (h : QueryAnswer.isAbout userID ⟨some (document :: documents), error⟩) :
    (ATCUser.initRepresentation document).uid = some userID := by
  have hfirst := List.all_eq_true.mp h document (by simp)
  exact eq_of_beq hfirst

namespace OnboardingManagers

variable (managers : OnboardingManagers)

theorem didTap_effect (attempt : Attempt) :
    (managers.didTap attempt).saved = none ∧
      if managers.completesAtOnce attempt then
        (managers.didTap attempt).request = none ∧
          (managers.didTap attempt).outcome = some (.completed none)
      else ∀ user, (managers.didTap attempt).outcome ≠ some (.completed user) := by
  cases attempt with
  | login contactPoint password =>
    unfold didTap didTapLoginButton completesAtOnce
    cases managers.serverConfig.isFirebaseAuthEnabled <;> cases contactPoint <;> cases password <;>
      simp [showLoginError]
  | facebook => simp [didTap, didTapFacebookButton, completesAtOnce]
  | signUp email password =>
    unfold didTap didTapSignUpButton completesAtOnce
    cases managers.serverConfig.isFirebaseAuthEnabled <;> cases email <;> cases password <;>
      simp [showSignUpError]

theorem respond_effect {request : AttemptRequest} {answer : AttemptAnswer} {reaction : Reaction}
    (h : managers.respond request answer = some reaction) :
    match request.signsIn answer with
    | some uid => reaction.request = none ∧
        ∃ user : ATCUser, user.uid = some uid ∧ reaction.outcome = some (.completed (some user))
    | none => ∀ user, reaction.outcome ≠ some (.completed user) := by
  unfold respond at h
  split at h
  · split at h <;> obtain rfl := Option.some.inj h <;> simp [AttemptRequest.signsIn]
  · obtain rfl := Option.some.inj h
    simp [AttemptRequest.signsIn, showLoginError]
  · next user answer =>
    split at h
    · next habout =>
      rcases answer with ⟨_ | _ | ⟨document, documents⟩, _ | error⟩ <;>
        obtain rfl := Option.some.inj h
      · simp [AttemptRequest.signsIn]
      · simp [AttemptRequest.signsIn]
      · exact ⟨rfl, _, rfl, rfl⟩
      · simp [AttemptRequest.signsIn]
      · exact ⟨rfl, _, QueryAnswer.uid_of_isAbout habout, rfl⟩
      · simp [AttemptRequest.signsIn]
    · cases h
  · next currentAccessToken =>
    obtain rfl := Option.some.inj h
    simp only [AttemptRequest.signsIn]
    unfold didLoginWithFacebook
    cases currentAccessToken with
    | none => simp [showLoginError]
    | some accessToken => simp only; split <;> simp
  · obtain rfl := Option.some.inj h
    simp [AttemptRequest.signsIn]
  · obtain rfl := Option.some.inj h
    simp [AttemptRequest.signsIn]
  · next firebaseUser =>
    cases firebaseUser with
    | none =>
      obtain rfl := Option.some.inj h
      simp [AttemptRequest.signsIn, showLoginError]
    | some user =>
      obtain rfl := Option.some.inj h
      exact ⟨rfl, _, rfl, rfl⟩
  · obtain rfl := Option.some.inj h
    simp [AttemptRequest.signsIn]
  · obtain rfl := Option.some.inj h
    exact ⟨rfl, _, rfl, rfl⟩
  · obtain rfl := Option.some.inj h
    simp [AttemptRequest.signsIn, showSignUpError]
  · cases h

end OnboardingManagers

/-! ## Effects -/

/-- No document has another `fcmToken` than before. -/
def SameTokens (users users' : UsersCollection) : Prop :=
  ∀ uid, (users' uid).lookup "fcmToken" = (users uid).lookup "fcmToken"

theorem sameTokens_save (users : UsersCollection) (user : ATCUser) (appIdentifier : String) :
    SameTokens users (saveUserToServerIfNeeded users user appIdentifier) := by
  intro uid
  unfold saveUserToServerIfNeeded
  cases user.uid with
  | none => rfl
  | some saved =>
    have hother : (user.representation ++ [("appIdentifier", JSON.string appIdentifier)]).lookup
        "fcmToken" = none := rfl
    rw [UsersCollection.lookup_setData, hother]
    split <;> rfl

namespace HostSession

variable (configuration : HostConfiguration)

/-- A request of an attempt, as it is in flight. -/
def sending (s : HostSession) (began : Nat) (request : Option AttemptRequest) : List InFlight :=
  (request.map fun request => ⟨.attempt request, s.logouts, began⟩).toList

/-- What is left of the session and the servers when the answer to the request at `index`
is taken, before it has an effect. -/
def taking (s : HostSession) (index : Nat) (users : UsersCollection) : HostSession :=
  { s with inFlight := s.inFlight.eraseIdx index, users := users }

inductive Effect (s : HostSession) : HostAction → HostEvent → HostSession → Prop where
  | launched : Effect s .launch none (s.launch configuration)
  | walkthroughFinished (h : .walkthrough ∈ s.subviews) :
      Effect s .finishWalkthrough none s.walkthroughViewControllerDidFinishFlow
  | attempted (attempt : Attempt) (next : Option AttemptRequest) (h : .onboarding ∈ s.subviews)
      (hrequests : configuration.managers.completesAtOnce attempt = false) :
      Effect s (.tap attempt) none { s with inFlight := s.inFlight ++ s.sending s.logouts next }
  | completedAtOnce (attempt : Attempt) (h : .onboarding ∈ s.subviews)
      (hcompletes : configuration.managers.completesAtOnce attempt = true) :
      Effect s (.tap attempt) none (s.coordinatorDidComplete none)
  | proceeded (index : Nat) (answer : AttemptAnswer) (sent : InFlight) (request : AttemptRequest)
      (users : UsersCollection) (next : Option AttemptRequest)
      (hsent : s.inFlight[index]? = some sent) (hrequest : sent.request = .attempt request)
      (hnobody : request.signsIn answer = none) (husers : SameTokens s.users users) :
      Effect s (.answer index answer) (some (sent, answer))
        { s.taking index users with
          inFlight := s.inFlight.eraseIdx index ++ s.sending sent.began next }
  | signedIn (index : Nat) (answer : AttemptAnswer) (sent : InFlight) (users : UsersCollection)
      (user : ATCUser) (uid : String) (hsent : s.inFlight[index]? = some sent)
      (hsigns : sent.request.signsIn answer = some uid) (huid : user.uid = some uid)
      (husers : SameTokens s.users users) :
      Effect s (.answer index answer) (some (sent, answer))
        ((s.taking index users).coordinatorDidComplete (some user))
  | foundNoUser (index : Nat) (answer : AttemptAnswer) (sent : InFlight)
      (hsent : s.inFlight[index]? = some sent) (hfinds : sent.request.findsNoUser answer = true) :
      Effect s (.answer index answer) (some (sent, answer))
        (s.taking index s.users).didRequestLogout
  | resyncFailed (index : Nat) (answer : AttemptAnswer) (sent : InFlight)
      (hsent : s.inFlight[index]? = some sent) (hfails : sent.request.resyncFails answer = true) :
      Effect s (.answer index answer) (some (sent, answer)) (s.taking index s.users)
  | loggedOut (h : .loggedIn ∈ s.subviews) : Effect s .tapLogout none s.didRequestLogout
  | transitionFinished (h : 0 < s.transitions) :
      Effect s .transitionFinished none s.transitionDidFinish
  | tokenRefreshed (token : String) :
      Effect s (.tokenRefreshed token) none (s.didReceiveRegistrationToken token)

section Steps

variable {configuration : HostConfiguration} {s s' : HostSession}

theorem attempt_of_mem_sending {began : Nat} {request : Option AttemptRequest} {sent : InFlight}
    (h : sent ∈ s.sending began request) : ∃ request, sent.request = .attempt request := by
  obtain ⟨request, _, rfl⟩ := Option.map_eq_some_iff.mp (Option.mem_toList.mp h)
  exact ⟨request, rfl⟩

theorem save_eq (configuration : HostConfiguration) (s : HostSession) (saved : Option ATCUser) :
    ∃ users, SameTokens s.users users ∧ s.save configuration saved = { s with users := users } := by
  cases saved with
  | none => exact ⟨s.users, fun _ => rfl, rfl⟩
  | some user => exact ⟨_, sameTokens_save _ _ _, rfl⟩

theorem sendNext_eq (request : Option AttemptRequest) (began : Nat) :
    s.sendNext request began = { s with inFlight := s.inFlight ++ s.sending began request } := by
  cases request with
  | none =>
    unfold sendNext sending
    simp
  | some request => rfl

theorem conclude_eq {outcome : Option AttemptOutcome}
    (h : ∀ user, outcome ≠ some (.completed user)) : s.conclude outcome = s := by
  unfold conclude
  split
  · next user => exact absurd rfl (h user)
  · rfl

theorem tap_effect {attempt : Attempt} (h : .onboarding ∈ s.subviews) :
    Effect configuration s (.tap attempt) none
      (s.react configuration s.logouts (configuration.managers.didTap attempt)) := by
  obtain ⟨hsaved, heffect⟩ := configuration.managers.didTap_effect attempt
  unfold react
  rw [hsaved]
  split at heffect
  · next hcompletes =>
    rw [heffect.1, heffect.2]
    exact .completedAtOnce attempt h hcompletes
  · next hrequests =>
    rw [conclude_eq heffect, sendNext_eq]
    exact .attempted attempt _ h (Bool.not_eq_true _ ▸ hrequests)

theorem react_effect {index : Nat} {answer : AttemptAnswer} {sent : InFlight}
    {request : AttemptRequest} {reaction : Reaction} (hsent : s.inFlight[index]? = some sent)
    (hrequest : sent.request = .attempt request)
    (h : configuration.managers.respond request answer = some reaction) :
    Effect configuration s (.answer index answer) (some (sent, answer))
      ((s.taking index s.users).react configuration sent.began reaction) := by
  have heffect := configuration.managers.respond_effect h
  obtain ⟨users, husers, hsave⟩ :=
    save_eq configuration (s.taking index s.users) reaction.saved
  unfold react
  rw [hsave]
  cases hsigns : request.signsIn answer with
  | none =>
    rw [hsigns] at heffect
    rw [conclude_eq heffect, sendNext_eq]
    exact .proceeded index answer sent request users _ hsent hrequest hsigns husers
  | some uid =>
    rw [hsigns] at heffect
    obtain ⟨hnext, user, huid, houtcome⟩ := heffect
    rw [hnext, houtcome]
    refine .signedIn index answer sent users user uid hsent ?_ huid husers
    rw [hrequest]
    exact hsigns

theorem resync_effect {index : Nat} {answer : QueryAnswer} {sent : InFlight} {userID : String}
    (hsent : s.inFlight[index]? = some sent) (hrequest : sent.request = .resync userID)
    (h : answer.isAbout userID = true) :
    Effect configuration s (.answer index (.query answer)) (some (sent, .query answer))
      ((s.taking index s.users).resyncPersistentUserCompletion answer) := by
  rcases answer with ⟨_ | _ | ⟨document, documents⟩, _ | error⟩
  · exact .resyncFailed index _ sent hsent (by rw [hrequest]; rfl)
  · exact .resyncFailed index _ sent hsent (by rw [hrequest]; rfl)
  · exact .foundNoUser index _ sent hsent (by rw [hrequest]; rfl)
  · exact .resyncFailed index _ sent hsent (by rw [hrequest]; rfl)
  · exact .signedIn index _ sent s.users _ userID hsent (by rw [hrequest]; rfl)
      (QueryAnswer.uid_of_isAbout h) fun _ => rfl
  · exact .resyncFailed index _ sent hsent (by rw [hrequest]; rfl)

theorem receive_effect {index : Nat} {answer : AttemptAnswer} {sent : InFlight}
    (hsent : s.inFlight[index]? = some sent)
    (h : (s.taking index s.users).receive configuration sent answer = some s') :
    Effect configuration s (.answer index answer) (some (sent, answer)) s' := by
  unfold receive at h
  split at h
  · next request answer hrequest =>
    obtain ⟨reaction, hreaction, rfl⟩ := Option.map_eq_some_iff.mp h
    exact react_effect hsent hrequest hreaction
  · next userID answer hrequest =>
    split at h
    · next habout =>
      obtain rfl := Option.some.inj h
      exact resync_effect hsent hrequest habout
    · cases h
  · cases h

/-- **Every step has one of the effects.** -/
theorem step_effect {a : HostAction} {e : HostEvent}
    (h : (machine configuration).step s a = some (s', e)) : Effect configuration s a e s' := by
  cases a with
  | launch =>
    cases h
    exact .launched
  | finishWalkthrough =>
    obtain ⟨hshown, h⟩ := Option.ite_none_right_eq_some.mp h
    cases h
    exact .walkthroughFinished hshown
  | tap attempt =>
    obtain ⟨hshown, h⟩ := Option.ite_none_right_eq_some.mp h
    cases h
    exact tap_effect hshown
  | answer index answer =>
    obtain ⟨sent, hsent, h⟩ := Option.bind_eq_some_iff.mp h
    obtain ⟨s₁, hreceive, h⟩ := Option.map_eq_some_iff.mp h
    cases h
    exact receive_effect hsent hreceive
  | tapLogout =>
    obtain ⟨hshown, h⟩ := Option.ite_none_right_eq_some.mp h
    cases h
    exact .loggedOut hshown
  | transitionFinished =>
    obtain ⟨hrunning, h⟩ := Option.ite_none_right_eq_some.mp h
    cases h
    exact .transitionFinished hrunning
  | tokenRefreshed token =>
    cases h
    exact .tokenRefreshed token

end Steps

end HostSession

end FinanceApp
