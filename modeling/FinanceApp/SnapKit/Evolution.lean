import FinanceApp.SnapKit.Installed

/-!
# What can happen to a layout constraint

Once it is made, a layout constraint keeps its items, attributes, relation and multiplier.
Only its activity, its constant and its priority change, and the priority never to or from
a required one.
-/

namespace FinanceApp

/-- What a layout constraint can become. -/
structure LayoutConstraint.Evolves {Item : Type*} (lc lc' : LayoutConstraint Item) : Prop where
  kept : lc' = { lc with
    constant := lc'.constant
    priority := lc'.priority
    isActive := lc'.isActive }
  required : lc'.priority = 1000 ↔ lc.priority = 1000

theorem LayoutConstraint.Evolves.refl {Item : Type*} (lc : LayoutConstraint Item) :
    lc.Evolves lc := ⟨rfl, Iff.rfl⟩

theorem LayoutConstraint.Evolves.trans {Item : Type*} {lc lc' lc'' : LayoutConstraint Item}
    (h : lc.Evolves lc') (h' : lc'.Evolves lc'') : lc.Evolves lc'' := by
  refine ⟨?_, h'.required.trans h.required⟩
  rw [h'.kept, h.kept]

namespace Constraint

variable {Item : Type*} (constraint : Constraint Item)

theorem setActive_evolves (isActive : Bool) :
    List.Forall₂ LayoutConstraint.Evolves constraint.layoutConstraints
      (constraint.setActive isActive).layoutConstraints := by
  rw [setActive, List.forall₂_map_right_iff, List.forall₂_same]
  exact fun lc _ => ⟨rfl, Iff.rfl⟩

theorem updateConstantAndPriorityIfNeeded_evolves (views : ViewHierarchy Item) :
    List.Forall₂ LayoutConstraint.Evolves constraint.layoutConstraints
      (constraint.updateConstantAndPriorityIfNeeded views).layoutConstraints := by
  rw [updateConstantAndPriorityIfNeeded, List.forall₂_map_right_iff, List.forall₂_same]
  refine fun lc _ => ⟨rfl, ?_⟩
  by_cases hupdate : lc.priority < 1000 ∧ constraint.priority ≠ 1000
  · simp only [if_pos hupdate]
    exact iff_of_false hupdate.2 hupdate.1.ne
  · simp only [if_neg hupdate]

end Constraint

namespace ConstraintStore

variable {Item : Type*} {views : ViewHierarchy Item} {store store' store'' : ConstraintStore Item}
  {item : Item}

/-- Every layout constraint is still in its place. -/
def Evolves (store store' : ConstraintStore Item) : Prop :=
  ∀ place lc, store.layoutConstraintAt place = some lc →
    ∃ lc', store'.layoutConstraintAt place = some lc' ∧ lc.Evolves lc'

theorem Evolves.refl (store : ConstraintStore Item) : store.Evolves store :=
  fun _ lc hlc => ⟨lc, hlc, .refl lc⟩

theorem Evolves.trans (h : store.Evolves store') (h' : store'.Evolves store'') :
    store.Evolves store'' := by
  intro place lc hlc
  obtain ⟨lc', hlc', hstep⟩ := h place lc hlc
  obtain ⟨lc'', hlc'', hstep'⟩ := h' place lc' hlc'
  exact ⟨lc'', hlc'', hstep.trans hstep'⟩

theorem evolves_change (store : ConstraintStore Item) (r : Nat)
    {f : Constraint Item → Constraint Item}
    (hf : ∀ c, List.Forall₂ LayoutConstraint.Evolves c.layoutConstraints
      (f c).layoutConstraints) : store.Evolves (store.change r f) := by
  intro place lc hlc
  obtain ⟨c, hc, hlc⟩ := layoutConstraintAt_eq_some.mp hlc
  simp only [layoutConstraintAt_eq_some, change_getElem?, hc, Option.map_some, Option.some.injEq,
    exists_eq_left']
  split
  · obtain ⟨hk, rfl⟩ := List.getElem?_eq_some_iff.mp hlc
    have hlength := (hf c).length_eq
    exact ⟨_, List.getElem?_eq_getElem (hlength ▸ hk), (hf c).get hk (hlength ▸ hk)⟩
  · exact ⟨lc, hlc, .refl lc⟩

theorem evolves_insert (store : ConstraintStore Item) (constraints : List (Constraint Item)) :
    store.Evolves (store.insert constraints) := by
  intro place lc hlc
  obtain ⟨c, hc, hlc⟩ := layoutConstraintAt_eq_some.mp hlc
  refine ⟨lc, layoutConstraintAt_eq_some.mpr ⟨c, ?_, hlc⟩, .refl lc⟩
  rw [insert, List.getElem?_append_left (List.getElem?_eq_some_iff.mp hc).1, hc]

theorem evolves_setConstant (store : ConstraintStore Item) (place : Nat × Nat) (constant : ℚ) :
    store.Evolves (store.setConstant place constant) := by
  refine evolves_change store _ fun c => ?_
  rw [List.forall₂_iff_get]
  refine ⟨(List.length_modify _ _ _).symm, fun k hk hk' => ?_⟩
  simp only [List.get_eq_getElem, List.getElem_modify]
  split <;> exact ⟨rfl, Iff.rfl⟩

variable [DecidableEq Item]

theorem evolves_activateIfNeeded (store : ConstraintStore Item) (r : Nat) :
    store.Evolves (store.activateIfNeeded r) := by
  rw [activateIfNeeded]
  split
  · exact .refl store
  · exact evolves_change store r fun c => c.setActive_evolves true

theorem evolves_deactivateIfNeeded (store : ConstraintStore Item) (r : Nat) :
    store.Evolves (store.deactivateIfNeeded r) := by
  rw [deactivateIfNeeded]
  split
  · exact .refl store
  · exact evolves_change store r fun c => c.setActive_evolves false

omit [DecidableEq Item] in
theorem evolves_foldl {f : ConstraintStore Item → Nat → ConstraintStore Item}
    (hf : ∀ (store : ConstraintStore Item) r, store.Evolves (f store r))
    (store : ConstraintStore Item) (rs : List Nat) : store.Evolves (rs.foldl f store) := by
  induction rs generalizing store with
  | nil => exact .refl store
  | cons r rs ih => exact (hf store r).trans (ih (f store r))

theorem evolves_makeConstraints {calls : List (MakerCall Item)}
    (hmake : store.makeConstraints views item calls = some store') : store.Evolves store' := by
  obtain ⟨constraints, _, hstore⟩ := Option.bind_eq_some_iff.mp hmake
  cases hstore
  exact (evolves_insert store constraints).trans (evolves_foldl evolves_activateIfNeeded _ _)

theorem evolves_updateExisting {allObjects : List Nat} {constraint : Constraint Item}
    {lc : LayoutConstraint Item}
    (hupdate : updateExisting views allObjects constraint store lc = some store') :
    store.Evolves store' := by
  obtain ⟨place, _, hset⟩ := Option.bind_eq_some_iff.mp hupdate
  obtain ⟨existing, _, rfl⟩ := Option.map_eq_some_iff.mp hset
  exact evolves_setConstant store place _

theorem evolves_updateConstraints {calls : List (MakerCall Item)} {allObjects : List Nat}
    (hupdate : store.updateConstraints views item calls allObjects = some store') :
    store.Evolves store' := by
  rw [updateConstraints] at hupdate
  split at hupdate
  · obtain ⟨constraints, _, hfold⟩ := Option.bind_eq_some_iff.mp hupdate
    refine Loops.foldlM_invariant (fun hstore hactivate => ?_) (evolves_insert store constraints)
      hfold
    exact Loops.foldlM_invariant
      (fun hstore hturn => Evolves.trans hstore (evolves_updateExisting hturn)) hstore hactivate
  · exact evolves_makeConstraints hupdate

theorem evolves_step {action : ConstraintAction Item} {event : Unit}
    (hstep : (constraintMachine views).step store action = some (store', event)) :
    store.Evolves store' := by
  obtain ⟨_, hstep⟩ := Option.ite_none_right_eq_some.mp hstep
  cases action with
  | makeConstraints item calls =>
    obtain ⟨_, hmake, hstore⟩ := Option.map_eq_some_iff.mp hstep
    cases hstore
    exact evolves_makeConstraints hmake
  | remakeConstraints item calls =>
    obtain ⟨_, hmake, hstore⟩ := Option.map_eq_some_iff.mp hstep
    cases hstore
    exact (evolves_foldl evolves_deactivateIfNeeded store _).trans (evolves_makeConstraints hmake)
  | updateConstraints item calls allObjects =>
    obtain ⟨_, hupdate, hstore⟩ := Option.map_eq_some_iff.mp hstep
    cases hstore
    exact evolves_updateConstraints hupdate
  | removeConstraints item =>
    cases hstep
    exact evolves_foldl evolves_deactivateIfNeeded store _
  | activate r =>
    cases hstep
    exact evolves_activateIfNeeded store r
  | deactivate r =>
    cases hstep
    exact evolves_deactivateIfNeeded store r
  | updateOffset r offset =>
    cases hstep
    exact evolves_change store r fun c =>
      { c with constant := .number offset }.updateConstantAndPriorityIfNeeded_evolves views
  | updateInset r inset =>
    cases hstep
    exact evolves_change store r fun c =>
      { c with constant := .insets inset.constraintInsetTargetValue
        }.updateConstantAndPriorityIfNeeded_evolves views
  | updatePriority r priority =>
    cases hstep
    exact evolves_change store r fun c =>
      { c with priority }.updateConstantAndPriorityIfNeeded_evolves views

/-- **A layout constraint only changes in activity, constant and priority**, over every run, and
it is required for ever or never. -/
theorem constraints_evolve {actions : List (ConstraintAction Item)} {log : List Unit}
    (h : (constraintMachine views).run store actions = some (store', log)) {place : Nat × Nat}
    {lc : LayoutConstraint Item} (hlc : store.layoutConstraintAt place = some lc) :
    ∃ lc', store'.layoutConstraintAt place = some lc' ∧ lc.Evolves lc' :=
  (constraintMachine views).run_invariant (I := store.Evolves)
    (fun hstore hstep => Evolves.trans hstore (evolves_step hstep)) (.refl store) h place lc hlc

theorem constraints_evolve_in_a_window :
    ∃ store store' log lc lc',
      (constraintMachine .window).run store [.updatePriority 0 500, .removeConstraints 1] =
        some (store', log) ∧
      store.layoutConstraintAt (0, 0) = some lc ∧
      store'.layoutConstraintAt (0, 0) = some lc' ∧ lc.Evolves lc' := by
  have hrun : (((constraintMachine .window).run {} [.makeConstraints 1 (widthCalls 25)]).bind
      fun before => ((constraintMachine .window).run before.1
        [.updatePriority 0 500, .removeConstraints 1]).bind
          fun _ => before.1.layoutConstraintAt (0, 0)).isSome := by decide
  obtain ⟨lc, hrun⟩ := Option.isSome_iff_exists.mp hrun
  obtain ⟨⟨store, _⟩, _, hrun⟩ := Option.bind_eq_some_iff.mp hrun
  obtain ⟨⟨store', log⟩, hrun, hlc⟩ := Option.bind_eq_some_iff.mp hrun
  obtain ⟨lc', hlc', hevolves⟩ := constraints_evolve hrun hlc
  exact ⟨store, store', log, lc, lc', hrun, hlc, hlc', hevolves⟩

end ConstraintStore

end FinanceApp
