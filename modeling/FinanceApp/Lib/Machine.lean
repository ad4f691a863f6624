import Mathlib.Data.List.Induction

/-!
# Deterministic machines with a log

A step is either not possible, or gives the next state and the event it leaves in
the log. Runs are lists of actions; the rules below are the only inductions over
runs that the developments on top need.
-/

/-- `step s a` is `none` where the action `a` is not possible in `s`. -/
structure Machine (σ α ε : Type*) where
  step : σ → α → Option (σ × ε)

namespace Machine

variable {σ α ε : Type*} (M : Machine σ α ε)

def run : σ → List α → Option (σ × List ε)
  | s, [] => some (s, [])
  | s, a :: as =>
    match M.step s a with
    | none => none
    | some (s₁, e) => (run s₁ as).map fun r => (r.1, e :: r.2)

/-! ## Runs and their parts -/

@[simp] theorem run_nil (s : σ) : M.run s [] = some (s, []) := rfl

theorem run_cons_eq_some {s s' : σ} {a : α} {as : List α} {log : List ε} :
    M.run s (a :: as) = some (s', log) ↔
      ∃ s₁ e es, M.step s a = some (s₁, e) ∧ M.run s₁ as = some (s', es) ∧ log = e :: es := by
  simp only [run]
  cases hstep : M.step s a with
  | none => simp
  | some r =>
    obtain ⟨s₁, e⟩ := r
    simp only [Option.map_eq_some_iff, Prod.mk.injEq, Prod.exists, Option.some.injEq]
    constructor
    · rintro ⟨s₂, es, hrun, rfl, rfl⟩
      exact ⟨s₁, e, es, ⟨rfl, rfl⟩, hrun, rfl⟩
    · rintro ⟨_, _, es, ⟨rfl, rfl⟩, hrun, rfl⟩
      exact ⟨s', es, hrun, rfl, rfl⟩

theorem run_append_eq_some {s s' : σ} {as bs : List α} {log : List ε} :
    M.run s (as ++ bs) = some (s', log) ↔
      ∃ s₁ es₁ es₂, M.run s as = some (s₁, es₁) ∧ M.run s₁ bs = some (s', es₂) ∧
        log = es₁ ++ es₂ := by
  induction as generalizing s log with
  | nil =>
    simp only [List.nil_append, run_nil, Option.some.injEq, Prod.mk.injEq]
    constructor
    · intro h; exact ⟨s, [], log, ⟨rfl, rfl⟩, h, rfl⟩
    · rintro ⟨_, _, _, ⟨rfl, rfl⟩, h, rfl⟩; exact h
  | cons a as ih =>
    simp only [List.cons_append, run_cons_eq_some, ih]
    constructor
    · rintro ⟨s₁, e, es, hstep, ⟨s₂, es₁, es₂, h₁, h₂, rfl⟩, rfl⟩
      exact ⟨s₂, e :: es₁, es₂, ⟨s₁, e, es₁, hstep, h₁, rfl⟩, h₂, rfl⟩
    · rintro ⟨s₂, _, es₂, ⟨s₁, e, es₁, hstep, h₁, rfl⟩, h₂, rfl⟩
      exact ⟨s₁, e, es₁ ++ es₂, hstep, ⟨s₂, es₁, es₂, h₁, h₂, rfl⟩, rfl⟩

@[simp] theorem run_singleton {s s' : σ} {a : α} {log : List ε} :
    M.run s [a] = some (s', log) ↔ ∃ e, M.step s a = some (s', e) ∧ log = [e] := by
  simp only [run_cons_eq_some, run_nil, Option.some.injEq, Prod.mk.injEq]
  constructor
  · rintro ⟨_, e, _, hstep, ⟨rfl, rfl⟩, rfl⟩; exact ⟨e, hstep, rfl⟩
  · rintro ⟨e, hstep, rfl⟩; exact ⟨s', e, [], hstep, ⟨rfl, rfl⟩, rfl⟩

theorem run_concat_eq_some {s s' : σ} {as : List α} {a : α} {log : List ε} :
    M.run s (as ++ [a]) = some (s', log) ↔
      ∃ s₁ es e, M.run s as = some (s₁, es) ∧ M.step s₁ a = some (s', e) ∧ log = es ++ [e] := by
  simp only [run_append_eq_some, run_singleton]
  constructor
  · rintro ⟨s₁, es, _, h, ⟨e, hstep, rfl⟩, rfl⟩; exact ⟨s₁, es, e, h, hstep, rfl⟩
  · rintro ⟨s₁, es, e, h, hstep, rfl⟩; exact ⟨s₁, es, [e], h, ⟨e, hstep, rfl⟩, rfl⟩

theorem exists_step_of_mem {s₀ s : σ} {as : List α} {log : List ε} {e : ε}
    (h : M.run s₀ as = some (s, log)) (he : e ∈ log) :
    ∃ before a after s₁ es s₂, as = before ++ a :: after ∧
      M.run s₀ before = some (s₁, es) ∧ M.step s₁ a = some (s₂, e) := by
  induction as generalizing s₀ log with
  | nil =>
    cases h
    simp at he
  | cons a as ih =>
    obtain ⟨s₁, e₁, es, hstep, hrun, rfl⟩ := M.run_cons_eq_some.mp h
    rcases List.mem_cons.mp he with rfl | he
    · exact ⟨[], a, as, s₀, [], s₁, rfl, rfl, hstep⟩
    · obtain ⟨before, b, after, s₂, es₂, s₃, rfl, hbefore, hb⟩ := ih hrun he
      exact ⟨a :: before, b, after, s₂, e₁ :: es₂, s₃, rfl,
        M.run_cons_eq_some.mpr ⟨s₁, e₁, es₂, hstep, hbefore, rfl⟩, hb⟩

theorem run_prefix_log {s₀ s s₁ : σ} {before after : List α} {log log₁ : List ε}
    (h : M.run s₀ (before ++ after) = some (s, log)) (h₁ : M.run s₀ before = some (s₁, log₁)) :
    ∃ rest, M.run s₁ after = some (s, rest) ∧ log = log₁ ++ rest := by
  obtain ⟨s₂, es₁, es₂, hbefore, hafter, rfl⟩ := M.run_append_eq_some.mp h
  obtain ⟨rfl, rfl⟩ := Prod.mk.inj (Option.some.inj (hbefore.symm.trans h₁))
  exact ⟨es₂, hafter, rfl⟩

/-! ## Induction over a run -/

theorem run_induction {s₀ s : σ} {as : List α} {log : List ε} {P : List ε → σ → Prop}
    (start : P [] s₀)
    (step : ∀ {es s a s' e}, P es s → M.step s a = some (s', e) → P (es ++ [e]) s')
    (h : M.run s₀ as = some (s, log)) : P log s := by
  induction as using List.reverseRecOn generalizing s log with
  | nil => cases h; exact start
  | append_singleton as a ih =>
    obtain ⟨s₁, es, e, hrun, hstep, rfl⟩ := M.run_concat_eq_some.mp h
    exact step (ih hrun) hstep

theorem run_invariant_on {s₀ s : σ} {as : List α} {log : List ε} {I : σ → Prop} {G : α → Prop}
    (step : ∀ {s a s' e}, G a → I s → M.step s a = some (s', e) → I s')
    (start : I s₀) (good : ∀ a ∈ as, G a) (h : M.run s₀ as = some (s, log)) : I s := by
  induction as using List.reverseRecOn generalizing s log with
  | nil => cases h; exact start
  | append_singleton as a ih =>
    obtain ⟨s₁, es, e, hrun, hstep, rfl⟩ := M.run_concat_eq_some.mp h
    exact step (good a (by simp)) (ih (fun b hb => good b (by simp [hb])) hrun) hstep

theorem run_invariant {s₀ s : σ} {as : List α} {log : List ε} {I : σ → Prop}
    (step : ∀ {s a s' e}, I s → M.step s a = some (s', e) → I s')
    (start : I s₀) (h : M.run s₀ as = some (s, log)) : I s :=
  M.run_invariant_on (G := fun _ => True) (fun _ => step) start (fun _ _ => trivial) h

/-- `P` holds of every step of the run that `as` makes from `s`. -/
def Always (P : σ → α → σ → ε → Prop) (s : σ) (as : List α) : Prop :=
  ∀ before a after s₁ es s₂ e, as = before ++ a :: after → M.run s before = some (s₁, es) →
    M.step s₁ a = some (s₂, e) → P s₁ a s₂ e

theorem always_of_step {s : σ} {as : List α} {I : σ → Prop} {G : α → Prop}
    {P : σ → α → σ → ε → Prop} (start : I s) (good : ∀ a ∈ as, G a)
    (step : ∀ {s a s' e}, G a → I s → M.step s a = some (s', e) → I s')
    (gives : ∀ {s a s' e}, G a → I s → M.step s a = some (s', e) → P s a s' e) :
    M.Always P s as := by
  rintro before a after s₁ es s₂ e rfl hrun hstep
  have hs₁ := M.run_invariant_on step start (fun b hb => good b (by simp [hb])) hrun
  exact gives (good a (by simp)) hs₁ hstep

theorem always_last {s s' : σ} {as : List α} {a : α} {log : List ε} {P : σ → α → σ → ε → Prop}
    (h : M.Always P s (as ++ [a])) (hrun : M.run s (as ++ [a]) = some (s', log)) :
    ∃ s₁ es e, M.run s as = some (s₁, es) ∧ log = es ++ [e] ∧ P s₁ a s' e := by
  obtain ⟨s₁, es, e, hbefore, hstep, rfl⟩ := M.run_concat_eq_some.mp hrun
  exact ⟨s₁, es, e, hbefore, rfl, h as a [] s₁ es s' e rfl hbefore hstep⟩

/-! ## Properties of runs that agree -/

@[simp] theorem always_nil {s : σ} {P : σ → α → σ → ε → Prop} : M.Always P s [] := by
  intro before a after s₁ es s₂ e has
  simp at has

theorem always_cons {s : σ} {a : α} {as : List α} {P : σ → α → σ → ε → Prop} :
    M.Always P s (a :: as) ↔
      ∀ {s' e}, M.step s a = some (s', e) → P s a s' e ∧ M.Always P s' as := by
  constructor
  · intro h s' e hstep
    refine ⟨h [] a as s [] s' e rfl rfl hstep, ?_⟩
    intro before b after s₁ es s₂ e' has hrun hstep'
    exact h (a :: before) b after s₁ (e :: es) s₂ e' (by rw [has]; rfl)
      (M.run_cons_eq_some.mpr ⟨s', e, es, hstep, hrun, rfl⟩) hstep'
  · intro h before b after s₁ es s₂ e' has hrun hstep'
    cases before with
    | nil =>
      obtain ⟨rfl, rfl⟩ := List.cons.inj has
      cases hrun
      exact (h hstep').1
    | cons b' before =>
      obtain ⟨rfl, rfl⟩ := List.cons.inj has
      obtain ⟨s', e, es', hstep, hrest, _⟩ := M.run_cons_eq_some.mp hrun
      exact (h hstep).2 before b after s₁ es' s₂ e' rfl hrest hstep'

theorem always_cons_congr {s : σ} {a : α} {as : List α} {P Q : σ → α → σ → ε → Prop}
    (first : ∀ {s' e}, M.step s a = some (s', e) → (P s a s' e ↔ Q s a s' e))
    (rest : ∀ {s' e}, M.step s a = some (s', e) → Q s a s' e →
      (M.Always P s' as ↔ M.Always Q s' as)) :
    M.Always P s (a :: as) ↔ M.Always Q s (a :: as) := by
  rw [always_cons, always_cons]
  constructor
  · intro h s' e hstep
    obtain ⟨hP, has⟩ := h hstep
    have hQ := (first hstep).mp hP
    exact ⟨hQ, (rest hstep hQ).mp has⟩
  · intro h s' e hstep
    obtain ⟨hQ, has⟩ := h hstep
    exact ⟨(first hstep).mpr hQ, (rest hstep hQ).mpr has⟩

/-- Two properties that agree from the states with the invariant `I` agree on runs, when
the steps that have them keep the invariant. -/
theorem always_congr_until {s : σ} {as : List α} {I : σ → Prop} {P Q : σ → α → σ → ε → Prop}
    (start : I s) (step : ∀ {s a s' e}, I s → M.step s a = some (s', e) → Q s a s' e → I s')
    (agree : ∀ {s a s' e}, I s → M.step s a = some (s', e) → (P s a s' e ↔ Q s a s' e)) :
    M.Always P s as ↔ M.Always Q s as := by
  induction as generalizing s with
  | nil => simp
  | cons a as ih =>
    exact M.always_cons_congr (agree start) fun hstep hQ => ih (step start hstep hQ)

theorem always_congr {s : σ} {as : List α} {I : σ → Prop} {P Q : σ → α → σ → ε → Prop}
    (start : I s) (step : ∀ {s a s' e}, I s → M.step s a = some (s', e) → I s')
    (agree : ∀ {s a s' e}, I s → M.step s a = some (s', e) → (P s a s' e ↔ Q s a s' e)) :
    M.Always P s as ↔ M.Always Q s as :=
  M.always_congr_until start (fun hs hstep _ => step hs hstep) agree

end Machine
