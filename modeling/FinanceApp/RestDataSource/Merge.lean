import FinanceApp.RestDataSource.Source

/-!
# What the store of a REST source holds

Over any run from the empty source: the first occurrences, by `description`, of all
that the successful responses carried, in the order in which they completed.
-/

open FirstOccurrences

namespace FinanceApp

variable {T : Type}

/-- The objects that an event brings: those of a successful response. -/
def RestEvent.delivered : RestEvent T → List T
  | .completed _ ⟨objects, .success⟩ _ => objects.getD []
  | _ => []

/-- A successful completion hands its delegate exactly what it appends to the store. -/
def ReportsSuffix (s₁ : RestSession T) (_ : RestAction T) (s₂ : RestSession T) : RestEvent T → Prop
  | .completed _ ⟨_, .success⟩ call =>
    ∃ c, call = some c ∧ s₂.source.store = s₁.source.store ++ c.objects
  | _ => True

namespace RestSession

variable [CanonicalForm] [ATCGenericBaseModel T]

/-! ## One step -/

theorem step_store {s s' : RestSession T} {a : RestAction T} {e : RestEvent T}
    (h : machine.step s a = some (s', e)) :
    s'.source.store = s.source.store ++
      fresh ATCGenericRestAPIDataSource.descriptionForm s.source.store e.delivered := by
  rcases step_cases h with ⟨call, rfl, rfl, rfl⟩ | ⟨i, request, ⟨objects, status⟩, rfl, _, rfl, rfl⟩
  · simp [RestEvent.delivered]
  · cases status with
    | error text => simp [RestEvent.delivered]
    | success => exact (s.source.complete_success request.endpoint objects).1

theorem step_reportsSuffix {s s' : RestSession T} {a : RestAction T} {e : RestEvent T}
    (h : machine.step s a = some (s', e)) : ReportsSuffix s a s' e := by
  rcases step_cases h with ⟨call, rfl, rfl, rfl⟩ | ⟨i, request, ⟨objects, status⟩, rfl, _, rfl, rfl⟩
  · trivial
  · cases status with
    | error text => trivial
    | success =>
      obtain ⟨hstore, call, hcall, hobjects⟩ := s.source.complete_success request.endpoint objects
      exact ⟨call, hcall, by rw [hobjects]; exact hstore⟩

/-! ## Runs -/

theorem run_store {configuration : ATCGenericRestAPIDataSourceConfiguration}
    {as : List (RestAction T)} {s : RestSession T} {log : List (RestEvent T)}
    (h : machine.run (initial configuration) as = some (s, log)) :
    s.source.store =
      firstOccurrences ATCGenericRestAPIDataSource.descriptionForm
        (log.flatMap RestEvent.delivered) := by
  refine machine.run_induction
    (P := fun log s => s.source.store = firstOccurrences
      ATCGenericRestAPIDataSource.descriptionForm (log.flatMap RestEvent.delivered)) rfl ?_ h
  intro es s a s' e ih hstep
  rw [step_store hstep, ih, append_fresh]
  simp

theorem run_store_prefix {s s' : RestSession T} {as : List (RestAction T)}
    {log : List (RestEvent T)} (h : machine.run s as = some (s', log)) :
    s.source.store <+: s'.source.store := by
  refine machine.run_invariant (I := fun s' => s.source.store <+: s'.source.store) ?_
    (List.prefix_refl _) h
  intro s₁ a s₂ e hs₁ hstep
  rw [step_store hstep]
  exact hs₁.trans (List.prefix_append _ _)

/-- **The store is the merge of the responses.** Without duplicates, never losing or moving
an object, and in step with what the delegate is told. -/
theorem store_is_merge (configuration : ATCGenericRestAPIDataSourceConfiguration)
    (as : List (RestAction T)) (s : RestSession T) (log : List (RestEvent T))
    (h : machine.run (initial configuration) as = some (s, log)) :
    (s.source.store.Pairwise fun x y => stringEq (description x) (description y) = false) ∧
    (∀ before after s₁ log₁, as = before ++ after →
      machine.run (initial configuration) before = some (s₁, log₁) →
      s₁.source.store <+: s.source.store) ∧
    s.source.store =
      firstOccurrences (fun x => canonicalForm (description x)) (log.flatMap RestEvent.delivered) ∧
    machine.Always ReportsSuffix (initial configuration) as := by
  have hstore := run_store h
  refine ⟨?_, ?_, hstore, ?_⟩
  · rw [hstore]
    refine (pairwise_firstOccurrences _ _).imp ?_
    intro x y hne
    rwa [← Bool.not_eq_true, stringEq_iff]
  · rintro before after s₁ log₁ rfl hbefore
    obtain ⟨rest, hafter, -⟩ := machine.run_prefix_log h hbefore
    exact run_store_prefix hafter
  · intro before a after s₁ es s₂ e _ _ hstep
    exact step_reportsSuffix hstep

end RestSession

/-! ## A run

The bottom response overtakes the first one and repeats itself; the top request fails. -/

def sampleConfiguration : ATCGenericRestAPIDataSourceConfiguration where
  loadFirstURLString := "/first"
  loadTopURLString := "/top"
  consumerKey := some "key"
  consumerSecret := none
  computeLoadBottomURLString _ := "/page"

open scoped ASCII

def overtakingRun : List (RestAction ATCImage) :=
  [.load .loadFirst, .load .loadBottom, .load .loadTop,
    .complete 1 ⟨some [⟨some "a", false⟩, ⟨some "b", false⟩, ⟨some "a", true⟩], .success⟩,
    .complete 0 ⟨some [⟨some "b", true⟩, ⟨some "c", false⟩], .success⟩,
    .complete 0 ⟨none, .error none⟩]

theorem store_is_merge_overtaken :
    ∃ s log, RestSession.machine.run (.initial sampleConfiguration) overtakingRun = some (s, log) ∧
      s.source.store = [⟨some "a", false⟩, ⟨some "b", false⟩, ⟨some "c", false⟩] ∧
      s.source.store =
        firstOccurrences (fun x => canonicalForm (description x))
          (log.flatMap RestEvent.delivered) := by
  have hrun : (RestSession.machine.run (.initial sampleConfiguration) overtakingRun).map
      (·.1.source.store) = some [⟨some "a", false⟩, ⟨some "b", false⟩, ⟨some "c", false⟩] := by
    decide
  obtain ⟨⟨s, log⟩, h, hstore⟩ := Option.map_eq_some_iff.mp hrun
  have hmerge := RestSession.store_is_merge sampleConfiguration overtakingRun s log h
  exact ⟨s, log, h, hstore, hmerge.2.2.1⟩

end FinanceApp
