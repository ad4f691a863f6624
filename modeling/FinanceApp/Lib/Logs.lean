import Mathlib.Data.List.Basic

/-!
# What a log says

Two questions about the events of a run, with the rule for one more event each: is every
event of one kind followed by one of another, and which event of a kind was the last.
-/

namespace Logs

variable {ε β : Type*}

/-- After each `start` event there is a `stop` event. -/
def FollowedBy (start stop : ε → Prop) (log : List ε) : Prop :=
  ∀ before e after, log = before ++ e :: after → start e → ∃ e' ∈ after, stop e'

variable {start stop : ε → Prop}

@[simp] theorem followedBy_nil : FollowedBy start stop [] := by
  intro before e after h
  simp at h

theorem followedBy_concat (log : List ε) (e : ε) :
    FollowedBy start stop (log ++ [e]) ↔ ¬start e ∧ (stop e ∨ FollowedBy start stop log) := by
  -- A `start` event is open, a `stop` event closes all before it.
  constructor
  · intro h
    have hlast : ¬start e := by
      intro hstart
      obtain ⟨_, hmem, _⟩ := h log e [] rfl hstart
      simp at hmem
    refine ⟨hlast, ?_⟩
    by_cases hstop : stop e
    · exact .inl hstop
    · right
      rintro before e₁ after rfl hstart
      obtain ⟨e₂, hmem, he₂⟩ := h before e₁ (after ++ [e]) (by simp) hstart
      rcases List.mem_append.mp hmem with hmem | hmem
      · exact ⟨e₂, hmem, he₂⟩
      · obtain rfl := List.mem_singleton.mp hmem
        exact absurd he₂ hstop
  · rintro ⟨hlast, hlog⟩ before e₁ after heq hstart
    rcases List.eq_nil_or_concat' after with rfl | ⟨after, e₂, rfl⟩
    · -- The event in question is the new one.
      obtain ⟨_, he⟩ := List.append_inj' heq rfl
      obtain rfl := List.singleton_inj.mp he
      exact absurd hstart hlast
    · have heq' : log ++ [e] = (before ++ e₁ :: after) ++ [e₂] := by simpa using heq
      obtain ⟨rfl, he⟩ := List.append_inj' heq' rfl
      obtain rfl := List.singleton_inj.mp he
      rcases hlog with hstop | hlog
      · exact ⟨e, by simp, hstop⟩
      · obtain ⟨e₂, hmem, he₂⟩ := hlog before e₁ after rfl hstart
        exact ⟨e₂, by simp [hmem], he₂⟩

/-- What the last event of a kind carries. -/
def lastOf (kind : ε → Option β) (log : List ε) : Option β := (log.filterMap kind).getLast?

@[simp] theorem lastOf_nil (kind : ε → Option β) : lastOf kind [] = none := rfl

theorem lastOf_concat (kind : ε → Option β) (log : List ε) (e : ε) :
    lastOf kind (log ++ [e]) = (kind e).or (lastOf kind log) := by
  rw [lastOf, List.filterMap_append, List.getLast?_append]
  cases h : kind e <;> simp [h, lastOf]

end Logs
