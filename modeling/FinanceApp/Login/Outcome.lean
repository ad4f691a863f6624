import FinanceApp.Login.Attempt

/-!
# How an attempt ends

An attempt is a chain of requests. Each answer makes the chain longer, or ends it: with
an outcome, with a dialog that the user cancelled, or with nothing at all.
-/

namespace FinanceApp

/-- What an answer means for the attempt. -/
inductive AnswerKind where
  | proceeds
  | settles
  | cancelled
  | swallowed
  deriving DecidableEq

namespace OnboardingManagers

variable (managers : OnboardingManagers)

/-- Nobody hears of a users query that fails, of a Facebook dialog that fails, of what the
Facebook graph answers, and of a login without a user manager to look the user up. -/
def answerKind : AttemptRequest × AttemptAnswer → AnswerKind
  | (.signIn _ _, .auth (some _)) => if managers.userManager.isSome then .proceeds else .swallowed
  | (.fetchUser _, .query answer) =>
    if answer.error.isSome || answer.documents.isNone then .swallowed else .settles
  | (.facebookLogIn, .facebookDialog (.loggedIn (some _))) => .proceeds
  | (.facebookLogIn, .facebookDialog .cancelled) => .cancelled
  | (.facebookLogIn, .facebookDialog (.failed _)) => .swallowed
  | (.facebookGraphMe _, _) => .swallowed
  | _ => .settles

theorem fetchUserCompletion_eq_none (answer : QueryAnswer) :
    fetchUserCompletion answer = none ↔ answer.error.isSome || answer.documents.isNone := by
  unfold fetchUserCompletion
  rcases answer with ⟨_ | _ | ⟨document, documents⟩, _ | error⟩ <;> simp

theorem respond_spec {request : AttemptRequest} {answer : AttemptAnswer} {reaction : Reaction}
    (h : managers.respond request answer = some reaction) :
    reaction.request.isSome = (managers.answerKind (request, answer) == .proceeds) ∧
      reaction.outcome.isSome = (managers.answerKind (request, answer) == .settles) := by
  unfold respond at h
  split at h
  · unfold answerKind
    split at h
    · next hmanager => obtain rfl := Option.some.inj h; simp [hmanager]
    · next hmanager => obtain rfl := Option.some.inj h; simp [hmanager]
  · obtain rfl := Option.some.inj h
    exact ⟨rfl, rfl⟩
  · next user answer =>
    have hnone := fetchUserCompletion_eq_none answer
    unfold answerKind
    split at h
    · split at h
      · next fetched hfetched =>
        obtain rfl := Option.some.inj h
        rw [hfetched] at hnone
        simp only [reduceCtorEq, false_iff] at hnone
        simp [hnone]
      · next hfetched =>
        obtain rfl := Option.some.inj h
        simp [hnone.mp hfetched]
    · cases h
  · next currentAccessToken =>
    obtain rfl := Option.some.inj h
    unfold didLoginWithFacebook answerKind
    cases currentAccessToken with
    | none => exact ⟨rfl, rfl⟩
    | some accessToken => simp only; split <;> exact ⟨rfl, rfl⟩
  · obtain rfl := Option.some.inj h
    exact ⟨rfl, rfl⟩
  · obtain rfl := Option.some.inj h
    exact ⟨rfl, rfl⟩
  · split at h
    · obtain rfl := Option.some.inj h
      exact ⟨rfl, rfl⟩
    · obtain rfl := Option.some.inj h
      exact ⟨rfl, rfl⟩
  · obtain rfl := Option.some.inj h
    exact ⟨rfl, rfl⟩
  · obtain rfl := Option.some.inj h
    exact ⟨rfl, rfl⟩
  · obtain rfl := Option.some.inj h
    exact ⟨rfl, rfl⟩
  · cases h

theorem didTap_spec (attempt : Attempt) :
    (managers.didTap attempt).request.isSome = !(managers.didTap attempt).outcome.isSome := by
  cases attempt with
  | login contactPoint password =>
    unfold didTap didTapLoginButton
    cases managers.serverConfig.isFirebaseAuthEnabled <;> cases contactPoint <;>
      cases password <;> rfl
  | facebook => rfl
  | signUp email password =>
    unfold didTap didTapSignUpButton
    cases managers.serverConfig.isFirebaseAuthEnabled <;> cases email <;> cases password <;> rfl

end OnboardingManagers

/-! ## The chain of one attempt -/

structure AttemptState where
  pending : Option AttemptRequest
  outcomes : List AttemptOutcome

namespace AttemptState

def after (outcomes : List AttemptOutcome) (reaction : Reaction) : AttemptState :=
  ⟨reaction.request, outcomes ++ reaction.outcome.toList⟩

def begun (managers : OnboardingManagers) (attempt : Attempt) : AttemptState :=
  after [] (managers.didTap attempt)

def step (managers : OnboardingManagers) (s : AttemptState) (answer : AttemptAnswer) :
    Option (AttemptState × (AttemptRequest × AttemptAnswer)) :=
  s.pending.bind fun request =>
    (managers.respond request answer).map fun reaction =>
      (after s.outcomes reaction, (request, answer))

def machine (managers : OnboardingManagers) :
    Machine AttemptState AttemptAnswer (AttemptRequest × AttemptAnswer) :=
  ⟨step managers⟩

end AttemptState

/-- The completion delegate was called or the alert shown, one of them once. Neither will
do for a Facebook dialog that the user cancelled. -/
def SettledOnce (s : AttemptState) (log : List (AttemptRequest × AttemptAnswer)) : Prop :=
  s.outcomes.length = 1 ∨
    s.outcomes = [] ∧ (.facebookLogIn, .facebookDialog .cancelled) ∈ log

/-! ## Runs -/

section Runs

variable {managers : OnboardingManagers}

theorem AnswerKind.eq_of_beq {request : Option AttemptRequest} {outcome : Option AttemptOutcome}
    {kind : AnswerKind} (hrequest : request.isSome = (kind == .proceeds))
    (houtcome : outcome.isSome = (kind == .settles)) :
    kind = .proceeds ∧ request.isSome ∧ outcome = none ∨
    kind = .settles ∧ request = none ∧ outcome.isSome ∨
    (kind = .cancelled ∨ kind = .swallowed) ∧ request = none ∧ outcome = none := by
  cases kind <;> cases request <;> cases outcome <;> simp_all

/-- The chain goes on, or has ended with an outcome, or with its last answer. -/
def ChainOf (managers : OnboardingManagers) (log : List (AttemptRequest × AttemptAnswer))
    (s : AttemptState) : Prop :=
  (s.pending.isSome ∧ s.outcomes = [] ∧ ∀ e ∈ log, managers.answerKind e = .proceeds) ∨
  (s.pending = none ∧ s.outcomes.length = 1 ∧
    ∀ e ∈ log, managers.answerKind e = .proceeds ∨ managers.answerKind e = .settles) ∨
  (s.pending = none ∧ s.outcomes = [] ∧ ∃ before last, log = before ++ [last] ∧
    (∀ e ∈ before, managers.answerKind e = .proceeds) ∧
    (managers.answerKind last = .cancelled ∨ managers.answerKind last = .swallowed))

theorem chainOf_begun (attempt : Attempt) : ChainOf managers [] (.begun managers attempt) := by
  have hspec := managers.didTap_spec attempt
  unfold AttemptState.begun AttemptState.after
  cases houtcome : (managers.didTap attempt).outcome with
  | none =>
    left
    simpa [houtcome] using hspec
  | some outcome =>
    right; left
    simpa [houtcome] using hspec

theorem step_chainOf {log : List (AttemptRequest × AttemptAnswer)} {s s' : AttemptState}
    {answer : AttemptAnswer} {e : AttemptRequest × AttemptAnswer} (hs : ChainOf managers log s)
    (h : (AttemptState.machine managers).step s answer = some (s', e)) :
    ChainOf managers (log ++ [e]) s' := by
  obtain ⟨request, hrequest, hanswer⟩ := Option.bind_eq_some_iff.mp h
  obtain ⟨reaction, hreaction, hs'⟩ := Option.map_eq_some_iff.mp hanswer
  obtain ⟨rfl, rfl⟩ := Prod.mk.inj hs'
  obtain ⟨_, houtcomes, hlog⟩ : s.pending.isSome ∧ s.outcomes = [] ∧
      ∀ e ∈ log, managers.answerKind e = .proceeds := by
    rcases hs with hs | ⟨hnone, _⟩ | ⟨hnone, _⟩
    · exact hs
    · rw [hrequest] at hnone; cases hnone
    · rw [hrequest] at hnone; cases hnone
  obtain ⟨hproceeds, hsettles⟩ := managers.respond_spec hreaction
  unfold AttemptState.after
  rw [houtcomes, List.nil_append]
  rcases AnswerKind.eq_of_beq hproceeds hsettles with ⟨hkind, hsome, hnone⟩ |
    ⟨hkind, hnone, hsome⟩ | ⟨hkind, hnone, hnone'⟩
  · left
    refine ⟨hsome, by rw [hnone]; rfl, ?_⟩
    simpa [hkind, or_imp, forall_and] using hlog
  · right; left
    obtain ⟨outcome, houtcome⟩ := Option.isSome_iff_exists.mp hsome
    refine ⟨hnone, by rw [houtcome]; rfl, ?_⟩
    intro e he
    rcases List.mem_append.mp he with he | he
    · exact .inl (hlog e he)
    · rw [List.mem_singleton.mp he]
      exact .inr hkind
  · right; right
    exact ⟨hnone, by rw [hnone']; rfl, log, _, rfl, hlog, hkind⟩

theorem AnswerKind.cancelled_iff {e : AttemptRequest × AttemptAnswer} :
    managers.answerKind e = .cancelled ↔ e = (.facebookLogIn, .facebookDialog .cancelled) := by
  constructor
  · intro h
    unfold OnboardingManagers.answerKind at h
    split at h
    · split at h <;> cases h
    · split at h <;> cases h
    · cases h
    · rfl
    · cases h
    · cases h
    · cases h
  · rintro rfl
    rfl

end Runs

/-- **An attempt that has no request in flight is settled, once, exactly when none of its
answers was swallowed.** -/
theorem settled_once_iff (managers : OnboardingManagers) (attempt : Attempt)
    (answers : List AttemptAnswer) (s : AttemptState) (log : List (AttemptRequest × AttemptAnswer))
    (h : (AttemptState.machine managers).run (.begun managers attempt) answers = some (s, log))
    (hdone : s.pending = none) :
    SettledOnce s log ↔ ∀ e ∈ log, managers.answerKind e ≠ .swallowed := by
  have hs : ChainOf managers log s :=
    (AttemptState.machine managers).run_induction (P := ChainOf managers)
      (chainOf_begun attempt) step_chainOf h
  unfold SettledOnce
  rcases hs with ⟨hsome, _⟩ | ⟨_, hone, hlog⟩ | ⟨_, hnone, before, last, rfl, hbefore, hlast⟩
  · rw [hdone] at hsome
    cases hsome
  · refine iff_of_true (.inl hone) fun e he hswallowed => ?_
    rcases hlog e he with hkind | hkind <;> rw [hkind] at hswallowed <;> cases hswallowed
  · have hcancelled : managers.answerKind last = .cancelled ↔
        (.facebookLogIn, .facebookDialog .cancelled) ∈ before ++ [last] := by
      rw [AnswerKind.cancelled_iff]
      constructor
      · rintro rfl
        simp
      · intro hmem
        rcases List.mem_append.mp hmem with hmem | hmem
        · cases hbefore _ hmem
        · exact (List.mem_singleton.mp hmem).symm
    simp only [hnone, List.length_nil, Nat.zero_ne_one, true_and, false_or, ← hcancelled]
    constructor
    · intro hkind e he hswallowed
      rcases List.mem_append.mp he with he | he
      · rw [hbefore e he] at hswallowed; cases hswallowed
      · rw [List.mem_singleton.mp he, hkind] at hswallowed; cases hswallowed
    · intro hkept
      exact hlast.resolve_right (hkept last (by simp))

/-! ## Two logins -/

def firebaseManagers : OnboardingManagers := ⟨⟨true, "Finance"⟩, some {}⟩

def neoLogin : Attempt := .login (some "neo@example.com") (some "theone")

theorem settled_once_login :
    ∃ s log, (AttemptState.machine firebaseManagers).run (.begun firebaseManagers neoLogin)
        [.auth (some facebookNeo), .query ⟨some [], none⟩] = some (s, log) ∧
      SettledOnce s log := by
  obtain ⟨⟨s, log⟩, h, hdone, hlog⟩ : ∃ r, (AttemptState.machine firebaseManagers).run
      (.begun firebaseManagers neoLogin) [.auth (some facebookNeo), .query ⟨some [], none⟩] =
        some r ∧ r.1.pending = none ∧ ∀ e ∈ r.2, firebaseManagers.answerKind e ≠ .swallowed :=
    ⟨_, rfl, rfl, by decide⟩
  exact ⟨s, log, h, (settled_once_iff firebaseManagers neoLogin _ s log h hdone).mpr hlog⟩

theorem failed_query_swallowed :
    ¬ ∀ (managers : OnboardingManagers) (attempt : Attempt) (answers : List AttemptAnswer)
      (s : AttemptState) (log : List (AttemptRequest × AttemptAnswer)),
      (AttemptState.machine managers).run (.begun managers attempt) answers = some (s, log) →
      s.pending = none → SettledOnce s log := by
  -- The password is right, and then the users query fails: nothing happens any more.
  intro hall
  obtain ⟨⟨s, log⟩, h, hdone, houtcomes, hlog⟩ : ∃ r,
      (AttemptState.machine firebaseManagers).run (.begun firebaseManagers neoLogin)
        [.auth (some facebookNeo), .query ⟨none, some "offline"⟩] = some r ∧
      r.1.pending = none ∧ r.1.outcomes = [] ∧
      ∀ e ∈ r.2, firebaseManagers.answerKind e ≠ .cancelled :=
    ⟨_, rfl, rfl, rfl, by decide⟩
  rcases hall _ _ _ s log h hdone with hone | ⟨_, hcancelled⟩
  · rw [houtcomes] at hone; cases hone
  · exact hlog _ hcancelled rfl

end FinanceApp
