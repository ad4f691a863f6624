import FinanceApp.Host.Effects

/-!
# Answers after a logout

A logout cancels nothing, and an attempt has no identifier. Whoever is answered late is
logged in late.
-/

namespace FinanceApp

namespace HostSession

/-- Nobody is shown the logged-in screens, and no user is stored. -/
structure NoLogin (s s' : HostSession) : Prop where
  shown : s'.transitions = s.transitions
  stored : ∀ user, s'.store.userIfLoggedInUser = some user → s.store.userIfLoggedInUser = some user

/-- What is answered now was sent, or its attempt begun, before a logout. -/
def Late (since : InFlight → Nat) (s : HostSession) (sent : InFlight) : Prop :=
  since sent < s.logouts

/-- A late answer logs nobody in. -/
def QuietAfterLogout (since : InFlight → Nat) (s : HostSession) (_ : HostAction)
    (s' : HostSession) (e : HostEvent) : Prop :=
  ∀ sent answer, e = some (sent, answer) → s.Late since sent → s.NoLogin s'

/-- A late answer is no success: no user of the auth provider, no document, an error. -/
def UnsuccessfulAfterLogout (since : InFlight → Nat) (s : HostSession) (_ : HostAction)
    (_ : HostSession) (e : HostEvent) : Prop :=
  ∀ sent answer, e = some (sent, answer) → s.Late since sent →
    sent.request.signsIn answer = none

section Steps

variable {configuration : HostConfiguration} {s s' : HostSession} {a : HostAction}

theorem not_noLogin_complete (user : Option ATCUser) :
    ¬ s.NoLogin (s.coordinatorDidComplete user) := by
  intro h
  have hshown := h.shown
  rw [completed_transitions] at hshown
  omega

theorem noLogin_iff {sent : InFlight} {answer : AttemptAnswer}
    (h : Effect configuration s a (some (sent, answer)) s') :
    s.NoLogin s' ↔ sent.request.signsIn answer = none := by
  cases h with
  | proceeded index _ _ request users next hsent hrequest hnobody husers =>
    rw [hrequest]
    exact iff_of_true ⟨rfl, fun _ => id⟩ hnobody
  | signedIn index _ _ users user uid hsent hsigns huid husers =>
    rw [hsigns]
    refine iff_of_false ?_ nofun
    intro h
    exact not_noLogin_complete (s := s.taking index users) (some user) ⟨h.shown, h.stored⟩
  | foundNoUser index _ _ hsent hfinds =>
    refine iff_of_true ⟨rfl, ?_⟩ (HostRequest.eq_of_findsNoUser hfinds).2
    intro user hstored
    cases hstored
  | resyncFailed index _ _ hsent hfails =>
    exact iff_of_true ⟨rfl, fun _ => id⟩ (HostRequest.eq_of_resyncFails hfails).2.1

theorem quietAfterLogout_iff (since : InFlight → Nat) {e : HostEvent}
    (h : Effect configuration s a e s') :
    QuietAfterLogout since s a s' e ↔ UnsuccessfulAfterLogout since s a s' e := by
  constructor
  · rintro hquiet sent answer rfl hlate
    exact (noLogin_iff h).mp (hquiet sent answer rfl hlate)
  · rintro hfails sent answer rfl hlate
    exact (noLogin_iff h).mpr (hfails sent answer rfl hlate)

end Steps

/-- **Nobody is logged in by a request from before a logout exactly when no such request
is a success.** The same goes for the attempts from before a logout. -/
theorem quiet_after_logout_iff (configuration : HostConfiguration) (store : ATCPersistentStore)
    (users : UsersCollection) (as : List HostAction) :
    ((machine configuration).Always (QuietAfterLogout InFlight.issued) (off store users)
        (.launch :: as) ↔
      (machine configuration).Always (UnsuccessfulAfterLogout InFlight.issued) (off store users)
        (.launch :: as)) ∧
    ((machine configuration).Always (QuietAfterLogout InFlight.began) (off store users)
        (.launch :: as) ↔
      (machine configuration).Always (UnsuccessfulAfterLogout InFlight.began) (off store users)
        (.launch :: as)) := by
  have hsince : ∀ since : InFlight → Nat,
      (machine configuration).Always (QuietAfterLogout since) (off store users) (.launch :: as) ↔
        (machine configuration).Always (UnsuccessfulAfterLogout since) (off store users)
          (.launch :: as) := by
    intro since
    exact (machine configuration).always_congr (I := fun _ => True) trivial (fun _ _ => trivial)
      fun _ hstep => quietAfterLogout_iff since (step_effect hstep)
  exact ⟨hsince _, hsince _⟩

/-! ## A button tapped twice -/

/-- Both logins look the user up, the first one is completed, and the user logs out again. -/
def impatientLogin : List HostAction :=
  [.tap neoLogin, .tap neoLogin, .answer 0 (.auth (some facebookNeo)),
    .answer 0 (.auth (some facebookNeo)), .answer 0 (.query ⟨some [], none⟩), .tapLogout]

theorem login_after_logout :
    ¬ ∀ (configuration : HostConfiguration) (store : ATCPersistentStore)
      (users : UsersCollection) (as : List HostAction),
      (machine configuration).Always (QuietAfterLogout InFlight.issued) (off store users)
        (.launch :: as) := by
  -- The second login is completed after the logout.
  intro hall
  have halways := hall ⟨firebaseManagers, false⟩ {} (fun _ => [])
    (impatientLogin ++ [.answer 0 (.query ⟨some [], none⟩)])
  have hquiet := halways (.launch :: impatientLogin) (.answer 0 (.query ⟨some [], none⟩)) []
    _ _ _ _ rfl rfl rfl
  have hshown := (hquiet _ _ rfl Nat.zero_lt_one).shown
  exact absurd hshown (by decide)

end HostSession

end FinanceApp
