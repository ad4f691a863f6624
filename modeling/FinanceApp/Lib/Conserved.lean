import FinanceApp.Lib.Machine
import Mathlib.Algebra.BigOperators.Group.List.Basic
import Mathlib.Tactic.Abel

/-!
# What a machine holds

What a machine holds is measured in a commutative monoid, say as a multiset of things. An event
may bring some in and let some out, and nothing else changes what is held. Then a whole run
balances too.
-/

namespace Machine

variable {σ α ε A : Type*} [AddCommMonoid A] (M : Machine σ α ε)

/-- What was held at the start or brought in is held at the end or was let out. -/
theorem run_conserves (held : σ → A) (brings lets : ε → A) {I : σ → Prop} {s₀ s : σ}
    {as : List α} {log : List ε} (start : I s₀)
    (keeps : ∀ {s a s' e}, I s → M.step s a = some (s', e) → I s')
    (step : ∀ {s a s' e}, I s → M.step s a = some (s', e) →
      held s + brings e = held s' + lets e)
    (h : M.run s₀ as = some (s, log)) :
    held s₀ + (log.map brings).sum = held s + (log.map lets).sum := by
  refine (M.run_induction (P := fun log s =>
    I s ∧ held s₀ + (log.map brings).sum = held s + (log.map lets).sum) ⟨start, by simp⟩ ?_ h).2
  rintro es s a s' e ⟨hs, ih⟩ hstep
  refine ⟨keeps hs hstep, ?_⟩
  simp only [List.map_append, List.sum_append, List.map_cons, List.map_nil, List.sum_singleton]
  calc held s₀ + ((es.map brings).sum + brings e)
      = held s₀ + (es.map brings).sum + brings e := (add_assoc ..).symm
    _ = held s + (es.map lets).sum + brings e := by rw [ih]
    _ = held s + brings e + (es.map lets).sum := by abel
    _ = held s' + lets e + (es.map lets).sum := by rw [step hs hstep]
    _ = held s' + ((es.map lets).sum + lets e) := by abel

end Machine
