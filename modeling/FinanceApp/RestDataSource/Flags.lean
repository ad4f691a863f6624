import FinanceApp.RestDataSource.Merge
import Mathlib.Data.List.Perm.Basic

/-!
# The loading flags

`isLoadingBottom` and `isLoadingTop` guard the two request kinds of which at most one
may be in flight. A flag is set with the request and cleared by its successful
completion, but not by a failed one.
-/

namespace FinanceApp

variable {T : Type}

inductive Guarded where
  | bottom
  | top

namespace Guarded

def flag (kind : Guarded) (source : ATCGenericRestAPIDataSource T) : Bool :=
  match kind with
  | .bottom => source.isLoadingBottom
  | .top => source.isLoadingTop

def owns : Guarded → Endpoint → Bool
  | .bottom, .bottom _ => true
  | .top, .top => true
  | _, _ => false

def inFlight (kind : Guarded) (s : RestSession T) : Nat :=
  s.inFlight.countP fun request => kind.owns request.endpoint

def fails (kind : Guarded) : RestEvent T → Bool
  | .completed request ⟨_, .error _⟩ _ => kind.owns request.endpoint
  | _ => false

theorem inFlight_complete (kind : Guarded) (s : RestSession T) {i : Nat} {request : Request}
    (hi : s.inFlight[i]? = some request) (source : ATCGenericRestAPIDataSource T) :
    kind.inFlight s =
      kind.inFlight ⟨source, s.inFlight.eraseIdx i⟩ + (kind.owns request.endpoint).toNat := by
  obtain ⟨hlt, rfl⟩ := List.getElem?_eq_some_iff.mp hi
  have hperm := List.getElem_cons_eraseIdx_perm hlt
  rw [inFlight, ← hperm.countP_eq, List.countP_cons, inFlight]
  cases kind.owns s.inFlight[i].endpoint <;> rfl

theorem inFlight_pos (kind : Guarded) (s : RestSession T) :
    0 < kind.inFlight s ↔ ∃ request ∈ s.inFlight, kind.owns request.endpoint = true :=
  List.countP_pos_iff

theorem owns_bottom (endpoint : Endpoint) :
    Guarded.bottom.owns endpoint = true ↔ ∃ page, endpoint = .bottom page := by
  cases endpoint <;> simp [owns]

theorem owns_top (endpoint : Endpoint) : Guarded.top.owns endpoint = true ↔ endpoint = .top := by
  cases endpoint <;> simp [owns]

end Guarded

namespace RestSession

/-! ## The flags and the requests -/

/-- Each flag is set exactly while a request of its kind is in flight. -/
def FlagsExact (s : RestSession T) : Prop :=
  (s.source.isLoadingBottom = true ↔
    ∃ request ∈ s.inFlight, ∃ page, request.endpoint = .bottom page) ∧
  (s.source.isLoadingTop = true ↔ ∃ request ∈ s.inFlight, request.endpoint = .top)

/-- With no request of the kind in flight, a load call sends one, unless the stream ended. -/
def LoadsAreSent (s : RestSession T) : Prop :=
  ((¬ ∃ request ∈ s.inFlight, ∃ page, request.endpoint = .bottom page) →
    s.source.bottomStreamLoadingEnded = false → s.source.loadBottom.2.isSome) ∧
  ((¬ ∃ request ∈ s.inFlight, request.endpoint = .top) → s.source.loadTop.2.isSome)

theorem flagsExact_iff {s : RestSession T}
    (hle : ∀ kind : Guarded, kind.inFlight s ≤ (kind.flag s.source).toNat) :
    FlagsExact s ↔ ∀ kind : Guarded, kind.inFlight s = (kind.flag s.source).toNat := by
  have hkind : ∀ kind : Guarded,
      (kind.flag s.source = true ↔ 0 < kind.inFlight s) ↔
        kind.inFlight s = (kind.flag s.source).toNat := by
    intro kind
    have := hle kind
    cases hflag : kind.flag s.source <;>
      simp only [hflag, Bool.toNat_false, Bool.toNat_true] at this ⊢
    · simp
    · simp; omega
  have hbottom := hkind .bottom
  have htop := hkind .top
  simp only [Guarded.inFlight_pos, Guarded.owns_bottom] at hbottom
  simp only [Guarded.inFlight_pos, Guarded.owns_top] at htop
  constructor
  · rintro ⟨hb, ht⟩ kind
    cases kind
    · exact hbottom.mp hb
    · exact htop.mp ht
  · intro h
    exact ⟨hbottom.mpr (h .bottom), htop.mpr (h .top)⟩

theorem loadsAreSent_of_flagsExact {s : RestSession T} (h : FlagsExact s) : LoadsAreSent s := by
  constructor
  · intro hnone hended
    have hflag : s.source.isLoadingBottom = false := by
      rw [← Bool.not_eq_true, h.1]; exact hnone
    simp [ATCGenericRestAPIDataSource.loadBottom, hflag, hended]
  · intro hnone
    have hflag : s.source.isLoadingTop = false := by
      rw [← Bool.not_eq_true, h.2]; exact hnone
    simp [ATCGenericRestAPIDataSource.loadTop, hflag]

/-! ## One step -/

theorem load_guarded (kind : Guarded) (s : RestSession T) (call : Load) :
    kind.flag (s.source.load call).1 = kind.flag s.source ∧
        kind.inFlight ⟨(s.source.load call).1, s.inFlight ++ (s.source.load call).2.toList⟩ =
          kind.inFlight s ∨
      kind.flag s.source = false ∧ kind.flag (s.source.load call).1 = true ∧
        kind.inFlight ⟨(s.source.load call).1, s.inFlight ++ (s.source.load call).2.toList⟩ =
          kind.inFlight s + 1 := by
  cases call with
  | loadFirst =>
    left
    cases kind <;>
      simp [ATCGenericRestAPIDataSource.load, ATCGenericRestAPIDataSource.loadFirst,
        Guarded.flag, Guarded.inFlight, Guarded.owns]
  | loadBottom =>
    simp only [ATCGenericRestAPIDataSource.load, ATCGenericRestAPIDataSource.loadBottom]
    split
    · left; simp [Guarded.inFlight]
    · rename_i hguard
      cases kind with
      | bottom => right; simp_all [Guarded.flag, Guarded.inFlight, Guarded.owns]
      | top => left; simp [Guarded.flag, Guarded.inFlight, Guarded.owns]
  | loadTop =>
    simp only [ATCGenericRestAPIDataSource.load, ATCGenericRestAPIDataSource.loadTop]
    split
    · left; simp [Guarded.inFlight]
    · rename_i hguard
      cases kind with
      | bottom => left; simp [Guarded.flag, Guarded.inFlight, Guarded.owns]
      | top => right; simp_all [Guarded.flag, Guarded.inFlight, Guarded.owns]

variable [CanonicalForm] [ATCGenericBaseModel T]

theorem complete_flag (kind : Guarded) (source : ATCGenericRestAPIDataSource T)
    (endpoint : Endpoint) (objects : Option (List T)) :
    kind.flag (source.complete endpoint ⟨objects, .success⟩).1 =
      (kind.flag source && !kind.owns endpoint) := by
  cases endpoint with
  | first =>
    rw [ATCGenericRestAPIDataSource.complete, source.loadFirstCompletion_success]
    cases kind <;> simp [Guarded.flag, Guarded.owns]
  | bottom page =>
    rw [ATCGenericRestAPIDataSource.complete, source.loadBottomCompletion_success]
    cases kind <;> simp [Guarded.flag, Guarded.owns]
  | top =>
    rw [ATCGenericRestAPIDataSource.complete, source.loadTopCompletion_success]
    cases kind <;> simp [Guarded.flag, Guarded.owns]

theorem step_guarded (kind : Guarded) {s s' : RestSession T} {a : RestAction T} {e : RestEvent T}
    (h : machine.step s a = some (s', e)) :
    (kind.fails e = false ∧ kind.flag s'.source = kind.flag s.source ∧
      kind.inFlight s' = kind.inFlight s) ∨
    (kind.fails e = false ∧ kind.flag s.source = false ∧ kind.flag s'.source = true ∧
      kind.inFlight s' = kind.inFlight s + 1) ∨
    (kind.fails e = false ∧ kind.flag s'.source = false ∧ kind.inFlight s = kind.inFlight s' + 1) ∨
    (kind.fails e = true ∧ kind.flag s'.source = kind.flag s.source ∧
      kind.inFlight s = kind.inFlight s' + 1) := by
  rcases step_cases h with
    ⟨call, rfl, rfl, rfl⟩ | ⟨i, request, ⟨objects, status⟩, rfl, hi, rfl, rfl⟩
  · rcases load_guarded kind s call with hsame | hsent
    · exact .inl ⟨rfl, hsame⟩
    · exact .inr (.inl ⟨rfl, hsent⟩)
  · have hcount :=
      kind.inFlight_complete s hi (s.source.complete request.endpoint ⟨objects, status⟩).1
    cases status with
    | success =>
      have hflag := complete_flag kind s.source request.endpoint objects
      cases howns : kind.owns request.endpoint with
      | false => exact .inl ⟨rfl, by simpa [howns] using hflag, by simpa [howns] using hcount.symm⟩
      | true =>
        exact .inr (.inr (.inl ⟨rfl, by simpa [howns] using hflag, by simpa [howns] using hcount⟩))
    | error text =>
      cases howns : kind.owns request.endpoint with
      | false =>
        exact .inl ⟨by simp [Guarded.fails, howns], by simp, by simpa [howns] using hcount.symm⟩
      | true =>
        exact .inr (.inr (.inr
          ⟨by simp [Guarded.fails, howns], by simp, by simpa [howns] using hcount⟩))

/-! ## Runs -/

theorem run_inFlight_le (kind : Guarded) {configuration : ATCGenericRestAPIDataSourceConfiguration}
    {as : List (RestAction T)} {s : RestSession T} {log : List (RestEvent T)}
    (h : machine.run (initial configuration) as = some (s, log)) :
    kind.inFlight s ≤ (kind.flag s.source).toNat := by
  refine machine.run_invariant (I := fun s => kind.inFlight s ≤ (kind.flag s.source).toNat) ?_ ?_ h
  · intro s a s' e hs hstep
    rcases step_guarded kind hstep with ⟨_, hflag, hcount⟩ | ⟨_, hclear, hset, hcount⟩ |
      ⟨_, hflag, hcount⟩ | ⟨_, hflag, hcount⟩
    · rw [hflag, hcount]; exact hs
    · rw [hclear] at hs
      rw [hset, hcount]
      simpa using hs
    · have hone := Bool.toNat_le (kind.flag s.source)
      rw [hflag]
      simp only [Bool.toNat_false]
      omega
    · rw [hflag]; omega
  · simp [Guarded.inFlight, initial]

theorem run_inFlight_eq (kind : Guarded) {configuration : ATCGenericRestAPIDataSourceConfiguration}
    {as : List (RestAction T)} {s : RestSession T} {log : List (RestEvent T)}
    (h : machine.run (initial configuration) as = some (s, log))
    (hlog : ∀ e ∈ log, kind.fails e = false) :
    kind.inFlight s = (kind.flag s.source).toNat := by
  refine machine.run_induction
    (P := fun log s => (∀ e ∈ log, kind.fails e = false) →
      kind.inFlight s = (kind.flag s.source).toNat)
    ?_ ?_ h hlog
  · intro _
    cases kind <;> simp [Guarded.inFlight, Guarded.flag, initial]
  · intro es s a s' e ih hstep hes
    have hs := ih fun e he => hes e (List.mem_append_left _ he)
    have hnot := hes e (by simp)
    rcases step_guarded kind hstep with ⟨_, hflag, hcount⟩ | ⟨_, hclear, hset, hcount⟩ |
      ⟨_, hflag, hcount⟩ | ⟨hfails, _, _⟩
    · rw [hflag, hcount]; exact hs
    · rw [hclear] at hs
      rw [hset, hcount, hs]; rfl
    · have hone := Bool.toNat_le (kind.flag s.source)
      rw [hflag]
      simp only [Bool.toNat_false]
      omega
    · exact absurd hfails (by simp [hnot])

/-- **The flags are exact as long as no bottom or top request fails**, and from the first
that does they are not. -/
theorem flags_exact_iff (configuration : ATCGenericRestAPIDataSourceConfiguration)
    (as : List (RestAction T)) (s : RestSession T) (log : List (RestEvent T))
    (h : machine.run (initial configuration) as = some (s, log)) :
    (∀ before after s₁ log₁, as = before ++ after →
        machine.run (initial configuration) before = some (s₁, log₁) →
        FlagsExact s₁ ∧ LoadsAreSent s₁) ↔
      ∀ e ∈ log, Guarded.bottom.fails e = false ∧ Guarded.top.fails e = false := by
  constructor
  · intro hexact e he
    -- A failed request leaves its flag set with nothing in flight.
    have hnot : ∀ kind : Guarded, kind.fails e = false := by
      intro kind
      by_contra hfails
      obtain ⟨before, a, after, s₁, es, s₂, has, hbefore, hstep⟩ := machine.exists_step_of_mem h he
      have hrun₂ := machine.run_concat_eq_some.mpr ⟨s₁, es, e, hbefore, hstep, rfl⟩
      have h₁ := (flagsExact_iff fun kind => run_inFlight_le kind hbefore).mp
        (hexact before (a :: after) s₁ es has hbefore).1 kind
      have h₂ := (flagsExact_iff fun kind => run_inFlight_le kind hrun₂).mp
        (hexact (before ++ [a]) after s₂ _ (by simp [has]) hrun₂).1 kind
      rcases step_guarded kind hstep with ⟨hok, _⟩ | ⟨hok, _⟩ | ⟨hok, _⟩ | ⟨_, hflag, hcount⟩
      · exact hfails hok
      · exact hfails hok
      · exact hfails hok
      · rw [hflag] at h₂; omega
    exact ⟨hnot .bottom, hnot .top⟩
  · rintro hlog before after s₁ log₁ rfl hbefore
    obtain ⟨rest, _, rfl⟩ := machine.run_prefix_log h hbefore
    have hnot : ∀ kind : Guarded, ∀ e ∈ log₁, kind.fails e = false := by
      intro kind e he
      have := hlog e (List.mem_append_left _ he)
      cases kind
      · exact this.1
      · exact this.2
    have hexact := (flagsExact_iff fun kind => run_inFlight_le kind hbefore).mpr
      fun kind => run_inFlight_eq kind hbefore (hnot kind)
    exact ⟨hexact, loadsAreSent_of_flagsExact hexact⟩

end RestSession

open scoped ASCII

theorem flags_exact_answered :
    ∃ s log, RestSession.machine.run (.initial sampleConfiguration)
        [.load .loadBottom, .complete 0 (⟨some [], .success⟩ : ListResponse ATCImage),
          .load .loadTop] = some (s, log) ∧
      RestSession.FlagsExact s ∧ RestSession.LoadsAreSent s := by
  have hrun : (RestSession.machine.run (.initial sampleConfiguration)
      [.load .loadBottom, .complete 0 (⟨some [], .success⟩ : ListResponse ATCImage),
        .load .loadTop]).map
      (fun r => r.2.all fun e => !Guarded.bottom.fails e && !Guarded.top.fails e) = some true := by
    decide
  obtain ⟨⟨s, log⟩, h, hlog⟩ := Option.map_eq_some_iff.mp hrun
  refine ⟨s, log, h, (RestSession.flags_exact_iff sampleConfiguration _ s log h).mpr ?_
    _ [] s log (by simp) h⟩
  simpa using hlog

theorem flags_stuck_after_failure :
    ¬ ∀ (as : List (RestAction ATCImage)) s log,
      RestSession.machine.run (.initial sampleConfiguration) as = some (s, log) →
      RestSession.FlagsExact s ∧ RestSession.LoadsAreSent s := by
  -- A bottom request that fails: the flag stays, and no later call sends a request.
  intro hall
  have hrun : (RestSession.machine.run (.initial sampleConfiguration)
      [.load .loadBottom, .complete 0 (⟨none, .error none⟩ : ListResponse ATCImage)]).map
      (fun r => (r.1.inFlight, r.1.source.bottomStreamLoadingEnded, r.1.source.loadBottom.2)) =
        some ([], false, none) := by decide
  obtain ⟨⟨s, log⟩, h, hs⟩ := Option.map_eq_some_iff.mp hrun
  simp only [Prod.mk.injEq] at hs
  have hsent := (hall _ s log h).2.1 (by simp [hs.1]) hs.2.1
  simp [hs.2.2] at hsent

end FinanceApp
