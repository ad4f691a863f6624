import FinanceApp.SnapKit.Geometry
import FinanceApp.SnapKit.Evolution

/-!
# Updating instead of remaking

`updateConstraints` looks for the layout constraints that stand already and sets their
constants. Where the closure says the same but for the constants, this is as good as making
all constraints anew. The constants are those of the new constraints, though: the installed
ones do not know them.
-/

namespace FinanceApp

namespace LayoutConstraint

variable {Item : Type*}

/-- What `==` compares. -/
def key (lc : LayoutConstraint Item) : LayoutConstraint Item :=
  { lc with constant := 0, label := none, isActive := false }

theorem same_iff [DecidableEq Item] (lhs rhs : LayoutConstraint Item) :
    lhs.same rhs = true ↔ lhs.key = rhs.key := by
  simp only [same, key, decide_eq_true_eq, mk.injEq]
  tauto

end LayoutConstraint

/-! ## Constants that are forgotten -/

namespace Constraint

variable {Item : Type*} (views : ViewHierarchy Item) {constraint constraint' : Constraint Item}

def eraseConstants (constraint : Constraint Item) : Constraint Item :=
  { constraint with
    layoutConstraints := constraint.layoutConstraints.map fun lc => { lc with constant := 0 } }

theorem updateConstantAndPriorityIfNeeded_eraseConstants (constraint : Constraint Item) :
    constraint.eraseConstants.updateConstantAndPriorityIfNeeded views =
      constraint.updateConstantAndPriorityIfNeeded views := by
  rw [updateConstantAndPriorityIfNeeded, updateConstantAndPriorityIfNeeded, eraseConstants,
    List.map_map]
  rfl

theorem update_congr (h : constraint.eraseConstants = constraint'.eraseConstants) :
    (∀ offset, constraint.updateOffset views offset = constraint'.updateOffset views offset) ∧
      (∀ inset, constraint.updateInset views inset = constraint'.updateInset views inset) ∧
      ∀ priority,
        constraint.updatePriority views priority = constraint'.updatePriority views priority := by
  have hconstant : ∀ constant,
      { constraint with constant }.updateConstantAndPriorityIfNeeded views =
        { constraint' with constant }.updateConstantAndPriorityIfNeeded views := by
    intro constant
    have herase : eraseConstants { constraint with constant } =
        eraseConstants { constraint' with constant } :=
      congrArg (fun c : Constraint Item => { c with constant }) h
    rw [← updateConstantAndPriorityIfNeeded_eraseConstants, herase,
      updateConstantAndPriorityIfNeeded_eraseConstants]
  refine ⟨fun offset => hconstant _, fun inset => hconstant _, fun priority => ?_⟩
  have herase : eraseConstants { constraint with priority } =
      eraseConstants { constraint' with priority } :=
    congrArg (fun c : Constraint Item => { c with priority }) h
  rw [updatePriority, ← updateConstantAndPriorityIfNeeded_eraseConstants, herase,
    updateConstantAndPriorityIfNeeded_eraseConstants, updatePriority]

end Constraint

namespace ConstraintStore

variable {Item : Type*} {views : ViewHierarchy Item} {store store' : ConstraintStore Item}
  {item : Item}

/-- The objects of `store` are those of `store'`, but for the constants of their layout
constraints. -/
def SameButConstants (store store' : ConstraintStore Item) : Prop :=
  ∀ (r : Nat) c, store.constraints[r]? = some c →
    ∃ c', store'.constraints[r]? = some c' ∧ c'.eraseConstants = c.eraseConstants

theorem SameButConstants.setConstant (h : store.SameButConstants store') (place : Nat × Nat)
    (constant : ℚ) : store.SameButConstants (store'.setConstant place constant) := by
  intro r c hr
  obtain ⟨c', hr', herase⟩ := h r c hr
  rw [ConstraintStore.setConstant, change_getElem?, hr', Option.map_some]
  refine ⟨_, rfl, ?_⟩
  split
  · rw [← herase, Constraint.eraseConstants, Constraint.eraseConstants, Constraint.mk.injEq]
    refine ⟨rfl, rfl, rfl, rfl, rfl, rfl, rfl, rfl, ?_⟩
    apply List.ext_getElem?
    intro k
    simp only [List.getElem?_map, List.getElem?_modify]
    cases c'.layoutConstraints[k]? with
    | none => rfl
    | some lc =>
      by_cases hk : place.2 = k <;> simp [hk]
  · exact herase

theorem SameButConstants.insert (h : store.SameButConstants store')
    (constraints : List (Constraint Item)) :
    store.SameButConstants (store'.insert constraints) := by
  intro r c hr
  obtain ⟨c', hr', herase⟩ := h r c hr
  refine ⟨c', ?_, herase⟩
  rw [ConstraintStore.insert, List.getElem?_append_left (List.getElem?_eq_some_iff.mp hr').1, hr']

variable [DecidableEq Item]

theorem SameButConstants.updateExisting {allObjects : List Nat} {constraint : Constraint Item}
    {lc : LayoutConstraint Item} {store'' : ConstraintStore Item}
    (h : store.SameButConstants store')
    (hupdate : updateExisting views allObjects constraint store' lc = some store'') :
    store.SameButConstants store'' := by
  obtain ⟨place, _, hset⟩ := Option.bind_eq_some_iff.mp hupdate
  obtain ⟨existing, _, rfl⟩ := Option.map_eq_some_iff.mp hset
  exact h.setConstant place _

theorem SameButConstants.updateConstraints {calls : List (MakerCall Item)}
    {allObjects : List Nat} {store'' : ConstraintStore Item} (hsound : store'.Sound)
    (h : store.SameButConstants store')
    (hupdate : store'.updateConstraints views item calls allObjects = some store'') :
    store.SameButConstants store'' := by
  rw [ConstraintStore.updateConstraints] at hupdate
  split at hupdate
  · obtain ⟨constraints, _, hfold⟩ := Option.bind_eq_some_iff.mp hupdate
    refine Loops.foldlM_invariant (fun hstore hactivate => ?_) (h.insert constraints) hfold
    exact Loops.foldlM_invariant (fun hstore hturn => SameButConstants.updateExisting hstore hturn)
      hstore hactivate
  · obtain ⟨constraints, hprepare, hstore⟩ := Option.bind_eq_some_iff.mp hupdate
    cases hstore
    obtain ⟨_, hobjects⟩ := install_spec hsound
      fun c hc => (ConstraintMaker.prepareConstraints_made hprepare c hc).2
    intro r c hr
    obtain ⟨c', hr', herase⟩ := h r c hr
    refine ⟨c', ?_, herase⟩
    rw [hobjects, List.getElem?_append_left (List.getElem?_eq_some_iff.mp hr').1, hr']

/-- **The constants of `updateConstraints` are forgotten.** However often the constraints of
whatever items are updated, an object that was there before still has its own constant: setting
its constant or its priority leads to what it would have led to without the updates. -/
theorem updated_constants_are_forgotten {actions updates : List (ConstraintAction Item)}
    {log log' : List Unit} (h : (constraintMachine views).run {} actions = some (store, log))
    (honly : ∀ action ∈ updates, action matches .updateConstraints _ _ _)
    (hupdates : (constraintMachine views).run store updates = some (store', log')) {r : Nat}
    {constraint : Constraint Item} (hr : store.constraints[r]? = some constraint) :
    ∃ updated, store'.constraints[r]? = some updated ∧
      (∀ offset, updated.updateOffset views offset = constraint.updateOffset views offset) ∧
      (∀ inset, updated.updateInset views inset = constraint.updateInset views inset) ∧
      ∀ priority,
        updated.updatePriority views priority = constraint.updatePriority views priority := by
  have hkept := (constraintMachine views).run_invariant_on
    (I := fun s => s.Sound ∧ store.SameButConstants s)
    (G := fun action => action matches .updateConstraints _ _ _)
    (fun {s action s' event} hmatch hs hstep => by
      refine ⟨hs.1.step hstep, ?_⟩
      cases action with
      | updateConstraints item calls allObjects =>
        obtain ⟨_, hstep⟩ := Option.ite_none_right_eq_some.mp hstep
        obtain ⟨_, hupdate, hstore⟩ := Option.map_eq_some_iff.mp hstep
        cases hstore
        exact hs.2.updateConstraints hs.1 hupdate
      | _ => exact absurd hmatch (by simp))
    ⟨sound_of_run h, fun r c hr => ⟨c, hr, rfl⟩⟩ honly hupdates
  obtain ⟨updated, hr', herase⟩ := hkept.2 r constraint hr
  exact ⟨updated, hr', Constraint.update_congr views herase⟩

theorem updated_width_is_forgotten :
    ∃ store store' constraint updated log log',
      (constraintMachine .window).run {} [.makeConstraints 1 (widthCalls 25)] = some (store, log) ∧
      (constraintMachine .window).run store [.updateConstraints 1 (widthCalls 30) [0]] =
        some (store', log') ∧
      store.constraints[0]? = some constraint ∧ store'.constraints[0]? = some updated ∧
      (∀ offset, updated.updateOffset .window offset = constraint.updateOffset .window offset) ∧
      (∀ inset, updated.updateInset .window inset = constraint.updateInset .window inset) ∧
      ∀ priority,
        updated.updatePriority .window priority = constraint.updatePriority .window priority := by
  have hrun : (((constraintMachine .window).run {} [.makeConstraints 1 (widthCalls 25)]).bind
      fun before => ((constraintMachine .window).run before.1
        [.updateConstraints 1 (widthCalls 30) [0]]).bind
          fun _ => before.1.constraints[0]?).isSome := by decide
  obtain ⟨constraint, hrun⟩ := Option.isSome_iff_exists.mp hrun
  obtain ⟨⟨store, log⟩, hmake, hrun⟩ := Option.bind_eq_some_iff.mp hrun
  obtain ⟨⟨store', log'⟩, hupdate, hr⟩ := Option.bind_eq_some_iff.mp hrun
  obtain ⟨updated, hr', hforgotten⟩ :=
    updated_constants_are_forgotten hmake (by simp) hupdate hr
  exact ⟨store, store', constraint, updated, log, log', hmake, hupdate, hr, hr', hforgotten⟩

end ConstraintStore

/-! ## Entries with new constants -/

namespace LayoutConstraint

variable {Item : Type*} [DecidableEq Item] {news : List (LayoutConstraint Item)}
  {new lc : LayoutConstraint Item}

/-- With the constant of the new one that is the same. -/
def withConstants (news : List (LayoutConstraint Item)) (lc : LayoutConstraint Item) :
    LayoutConstraint Item :=
  match news.find? fun new => lc.same new with
  | some new => { lc with constant := new.constant }
  | none => lc

@[simp] theorem withConstants_nil : withConstants [] lc = lc := rfl

@[simp] theorem withConstants_key : (withConstants news lc).key = lc.key := by
  rw [withConstants]
  split <;> rfl

theorem withConstants_append (hfresh : ∀ n ∈ news, n.key ≠ new.key) :
    withConstants (news ++ [new]) lc =
      if lc.key = new.key then { withConstants news lc with constant := new.constant }
      else withConstants news lc := by
  rw [withConstants, withConstants, List.find?_append]
  by_cases hkey : lc.key = new.key
  · have hnone : (news.find? fun n => lc.same n) = none := by
      rw [List.find?_eq_none]
      intro n hn hsame
      exact hfresh n hn (((same_iff lc n).mp hsame).symm.trans hkey)
    simp [hnone, hkey, (same_iff lc new).mpr hkey]
  · have hnot : lc.same new = false := by
      rw [Bool.eq_false_iff]
      exact fun hsame => hkey ((same_iff lc new).mp hsame)
    simp [hnot, hkey]

theorem withConstants_of_mem (hnodup : (news.map key).Nodup) (hnew : new ∈ news)
    (hkey : lc.key = new.key) : withConstants news lc = { lc with constant := new.constant } := by
  rw [withConstants]
  cases hfind : news.find? fun n => lc.same n with
  | none =>
    rw [List.find?_eq_none] at hfind
    exact absurd ((same_iff lc new).mpr hkey) (hfind new hnew)
  | some n =>
    have hsame : lc.key = n.key := (same_iff lc n).mp (List.find?_some hfind)
    obtain rfl := List.inj_on_of_nodup_map hnodup (List.mem_of_find?_eq_some hfind) hnew
      (hsame.symm.trans hkey)
    rfl

theorem map_withConstants_perm {entries : List (LayoutConstraint Item)}
    (hnodup : (entries.map key).Nodup) (hkeys : (news.map key).Perm (entries.map key))
    (hactive : ∀ lc ∈ entries, lc.isActive = true) :
    ((entries.map (withConstants news)).map fun lc => { lc with label := none }).Perm
      ((news.map fun lc => { lc with isActive := true }).map
        fun lc => { lc with label := none }) := by
  have hnews : (news.map key).Nodup := hkeys.nodup_iff.mpr hnodup
  let renewed (k : LayoutConstraint Item) : LayoutConstraint Item :=
    { withConstants news k with label := none, isActive := true }
  have hentries : (entries.map (withConstants news)).map (fun lc => { lc with label := none }) =
      (entries.map key).map renewed := by
    rw [List.map_map, List.map_map, List.map_inj_left]
    intro lc hlc
    obtain ⟨new, hnew, hkey⟩ := List.mem_map.mp (hkeys.mem_iff.mpr (List.mem_map_of_mem hlc))
    have hrenewed : withConstants news lc.key = { lc.key with constant := new.constant } :=
      withConstants_of_mem hnews hnew hkey.symm
    simp only [Function.comp_apply, renewed]
    rw [withConstants_of_mem hnews hnew hkey.symm, hrenewed, key, hactive lc hlc]
  have hrenewed : (news.map fun lc => { lc with isActive := true }).map
        (fun lc => { lc with label := none }) = (news.map key).map renewed := by
    rw [List.map_map, List.map_map, List.map_inj_left]
    intro new hnew
    have hsame : withConstants news new.key = { new.key with constant := new.constant } :=
      withConstants_of_mem hnews hnew rfl
    simp only [Function.comp_apply, renewed]
    rw [hsame, key]
  rw [hentries, hrenewed]
  exact (hkeys.map renewed).symm

end LayoutConstraint

namespace ConstraintStore

variable {Item : Type*} {views : ViewHierarchy Item} {store store' : ConstraintStore Item}
  {item : Item} {allObjects : List Nat} {news : List (LayoutConstraint Item)}

theorem layoutConstraintsOf_setConstant (place : Nat × Nat) (constant : ℚ) (r : Nat) :
    (store.setConstant place constant).layoutConstraintsOf r =
      if place.1 = r then
        (store.layoutConstraintsOf r).modify place.2 fun lc => { lc with constant }
      else store.layoutConstraintsOf r := by
  rw [layoutConstraintsOf, setConstant, change_getElem?, layoutConstraintsOf]
  cases store.constraints[r]? with
  | none => simp
  | some c =>
    rw [Option.map_some, Option.map_some, Option.getD_some, Option.map_some, Option.getD_some]
    split <;> rfl

theorem mem_places {place : Nat × Nat} :
    place ∈ store.places allObjects ↔
      place.1 ∈ allObjects ∧ ∃ lc, (store.layoutConstraintsOf place.1)[place.2]? = some lc := by
  obtain ⟨r, k⟩ := place
  simp only [places, List.mem_flatMap, List.mem_map, List.mem_range, Prod.mk.injEq,
    List.getElem?_eq_some_iff]
  constructor
  · rintro ⟨_, hr, _, hk, rfl, rfl⟩
    exact ⟨hr, _, hk, rfl⟩
  · rintro ⟨hr, _, hk, _⟩
    exact ⟨r, hr, k, hk, rfl, rfl⟩

theorem place_unique (hnodup : ((store.installed item).map (·.key)).Nodup) {r r' k k' : Nat}
    {lc lc' : LayoutConstraint Item} (hr : r ∈ store.constraintsSet item)
    (hr' : r' ∈ store.constraintsSet item) (hlc : (store.layoutConstraintsOf r)[k]? = some lc)
    (hlc' : (store.layoutConstraintsOf r')[k']? = some lc') (hkey : lc.key = lc'.key) :
    r = r' ∧ k = k' := by
  rw [installed, List.map_flatMap, List.nodup_flatMap] at hnodup
  obtain ⟨heach, hdisjoint⟩ := hnodup
  have hmem := List.mem_map_of_mem (f := (·.key)) (List.mem_of_getElem? hlc)
  have hmem' := List.mem_map_of_mem (f := (·.key)) (List.mem_of_getElem? hlc')
  obtain rfl : r = r' := by
    by_contra hne
    have : Std.Symm (Function.onFun List.Disjoint fun r =>
      (store.layoutConstraintsOf r).map (·.key)) := ⟨fun _ _ hapart => hapart.symm⟩
    exact hdisjoint.forall hr hr' hne hmem (hkey ▸ hmem')
  refine ⟨rfl, ?_⟩
  have hk := (List.getElem?_eq_some_iff.mp hlc).1
  apply (List.getElem?_inj (by rwa [List.length_map]) (heach r hr)).mp
  rw [List.getElem?_map, List.getElem?_map, hlc, hlc', Option.map_some, Option.map_some, hkey]

variable [DecidableEq Item]

/-- The item's layout constraints have the constants of the new ones. -/
structure UpdatedBy (store : ConstraintStore Item) (item : Item)
    (news : List (LayoutConstraint Item)) (store' : ConstraintStore Item) : Prop where
  constraintsSet : store'.constraintsSet = store.constraintsSet
  layoutConstraints : ∀ r ∈ store.constraintsSet item, store'.layoutConstraintsOf r =
    (store.layoutConstraintsOf r).map (LayoutConstraint.withConstants news)

theorem UpdatedBy.setConstant {new lc : LayoutConstraint Item} {place : Nat × Nat}
    (h : store.UpdatedBy item news store')
    (hnodup : ((store.installed item).map (·.key)).Nodup)
    (hplace : place.1 ∈ store.constraintsSet item)
    (hlc : (store.layoutConstraintsOf place.1)[place.2]? = some lc) (hkey : lc.key = new.key)
    (hfresh : ∀ n ∈ news, n.key ≠ new.key) :
    store.UpdatedBy item (news ++ [new]) (store'.setConstant place new.constant) where
  constraintsSet := h.constraintsSet
  layoutConstraints r hr := by
    rw [layoutConstraintsOf_setConstant, h.layoutConstraints r hr]
    apply List.ext_getElem?
    intro k
    split
    next hsame =>
      subst hsame
      simp only [List.getElem?_modify, List.getElem?_map, Option.map_eq_map, Option.map_map]
      cases hk : (store.layoutConstraintsOf place.1)[k]? with
      | none => rfl
      | some lc' =>
        simp only [Option.map_some, Function.comp_apply,
          LayoutConstraint.withConstants_append hfresh, Option.some.injEq]
        by_cases hthere : place.2 = k
        · obtain rfl : lc = lc' := Option.some.inj (hlc.symm.trans (hthere ▸ hk))
          rw [if_pos hthere, if_pos hkey]
        · rw [if_neg hthere, if_neg]
          intro hkey'
          exact hthere (place_unique hnodup hplace hr hlc hk (hkey.trans hkey'.symm)).2
    next hother =>
      simp only [List.getElem?_map]
      cases hk : (store.layoutConstraintsOf r)[k]? with
      | none => rfl
      | some lc' =>
        rw [Option.map_some, Option.map_some, LayoutConstraint.withConstants_append hfresh, if_neg]
        intro hkey'
        exact hother (place_unique hnodup hplace hr hlc hk (hkey.trans hkey'.symm)).1

theorem UpdatedBy.updateExisting {constraint : Constraint Item} {new : LayoutConstraint Item}
    (h : store.UpdatedBy item news store')
    (hobjects : allObjects.Perm (store.constraintsSet item))
    (hnodup : ((store.installed item).map (·.key)).Nodup) (hmade : constraint.IsMade views)
    (hnew : new ∈ constraint.layoutConstraints) (hfresh : ∀ n ∈ news, n.key ≠ new.key)
    (hmem : new.key ∈ (store.installed item).map (·.key)) :
    ∃ store'', ConstraintStore.updateExisting views allObjects constraint store' new =
      some store'' ∧ store.UpdatedBy item (news ++ [new]) store'' := by
  -- A turn finds the one layout constraint that is the same as the new one.
  have hsome : ((store'.places allObjects).find? fun place =>
      (store'.layoutConstraintAt place).any fun existing => existing.same new).isSome := by
    rw [List.find?_isSome]
    obtain ⟨lc, hlc, hkey⟩ := List.mem_map.mp hmem
    obtain ⟨r, hr, hlc⟩ := List.mem_flatMap.mp hlc
    obtain ⟨k, hk⟩ := List.mem_iff_getElem?.mp hlc
    have hk' : (store'.layoutConstraintsOf r)[k]? = some (.withConstants news lc) := by
      rw [h.layoutConstraints r hr, List.getElem?_map, hk, Option.map_some]
    refine ⟨(r, k), mem_places.mpr ⟨hobjects.mem_iff.mpr hr, _, hk'⟩, ?_⟩
    rw [layoutConstraintAt, hk', Option.any_some, LayoutConstraint.same_iff,
      LayoutConstraint.withConstants_key, hkey]
  obtain ⟨place, hfind⟩ := Option.isSome_iff_exists.mp hsome
  obtain ⟨hplace, existing, hexisting⟩ := mem_places.mp (List.mem_of_find?_eq_some hfind)
  have hset := hobjects.mem_iff.mp hplace
  have hsame := List.find?_some hfind
  rw [layoutConstraintAt, hexisting, Option.any_some, LayoutConstraint.same_iff] at hsame
  have hconstant : constraint.constantFor views existing = new.constant := by
    have hsecond : existing.key.secondAttribute = new.key.secondAttribute :=
      congrArg (·.secondAttribute) hsame
    change existing.secondAttribute = new.secondAttribute at hsecond
    rw [Constraint.constantFor, LayoutConstraint.updateAttribute, hsecond,
      if_neg (hmade.secondAttribute_ne hnew), ← (hmade.gives hnew).constant]
  refine ⟨store'.setConstant place new.constant, ?_, ?_⟩
  · rw [ConstraintStore.updateExisting, hfind, Option.bind_some, layoutConstraintAt, hexisting,
      Option.map_some, hconstant]
  · rw [h.layoutConstraints _ hset, List.getElem?_map] at hexisting
    obtain ⟨lc, hlc, rfl⟩ := Option.map_eq_some_iff.mp hexisting
    rw [LayoutConstraint.withConstants_key] at hsame
    exact h.setConstant hnodup hset hlc hsame hfresh

theorem UpdatedBy.activate {constraint : Constraint Item} {rest : List (LayoutConstraint Item)}
    (h : store.UpdatedBy item news store')
    (hobjects : allObjects.Perm (store.constraintsSet item))
    (hnodup : ((store.installed item).map (·.key)).Nodup) (hmade : constraint.IsMade views)
    (hrest : ∀ new ∈ rest, new ∈ constraint.layoutConstraints)
    (hnews : ((news ++ rest).map (·.key)).Nodup)
    (hmem : ∀ new ∈ rest, new.key ∈ (store.installed item).map (·.key)) :
    ∃ store'', rest.foldlM (ConstraintStore.updateExisting views allObjects constraint) store' =
      some store'' ∧ store.UpdatedBy item (news ++ rest) store'' := by
  induction rest generalizing news store' with
  | nil => exact ⟨store', rfl, by rwa [List.append_nil]⟩
  | cons new rest ih =>
    obtain ⟨hnew, hrest⟩ := List.forall_mem_cons.mp hrest
    obtain ⟨hmemNew, hmem⟩ := List.forall_mem_cons.mp hmem
    have hfresh : ∀ n ∈ news, n.key ≠ new.key := by
      intro n hn
      rw [List.map_append, List.nodup_append] at hnews
      exact hnews.2.2 _ (List.mem_map_of_mem hn) _ (by simp)
    rw [List.append_cons] at hnews
    obtain ⟨next, hturn, hnext⟩ :=
      h.updateExisting hobjects hnodup hmade hnew hfresh hmemNew
    obtain ⟨store'', hfold, hupdated⟩ := ih hnext hrest hnews hmem
    refine ⟨store'', ?_, by rwa [List.append_cons]⟩
    rw [List.foldlM_cons, hturn]
    exact hfold

theorem UpdatedBy.foldlM {constraints : List (Constraint Item)}
    (h : store.UpdatedBy item news store')
    (hobjects : allObjects.Perm (store.constraintsSet item))
    (hnodup : ((store.installed item).map (·.key)).Nodup)
    (hmade : ∀ c ∈ constraints, c.IsMade views)
    (hnews : ((news ++ constraints.flatMap (·.layoutConstraints)).map (·.key)).Nodup)
    (hmem : ∀ new ∈ constraints.flatMap (·.layoutConstraints),
      new.key ∈ (store.installed item).map (·.key)) :
    ∃ store'', constraints.foldlM (activateUpdatingExisting views allObjects) store' =
      some store'' ∧
        store.UpdatedBy item (news ++ constraints.flatMap (·.layoutConstraints)) store'' := by
  induction constraints generalizing news store' with
  | nil => exact ⟨store', rfl, by rwa [List.flatMap_nil, List.append_nil]⟩
  | cons constraint constraints ih =>
    obtain ⟨hmadeHere, hmade⟩ := List.forall_mem_cons.mp hmade
    rw [List.flatMap_cons] at hnews hmem ⊢
    obtain ⟨hmemHere, hmem⟩ := List.forall_mem_append.mp hmem
    rw [← List.append_assoc] at hnews ⊢
    obtain ⟨next, hactivate, hnext⟩ := h.activate hobjects hnodup hmadeHere (fun _ hn => hn)
      (hnews.sublist (List.Sublist.map _ (List.sublist_append_left _ _))) hmemHere
    obtain ⟨store'', hfold, hupdated⟩ := ih hnext hmade hnews hmem
    refine ⟨store'', ?_, hupdated⟩
    rw [List.foldlM_cons, activateUpdatingExisting, hactivate]
    exact hfold

omit [DecidableEq Item] in
theorem layoutConstraintsOf_insert (h : store.Sound) {r : Nat}
    (hr : r ∈ store.constraintsSet item) (constraints : List (Constraint Item)) :
    (store.insert constraints).layoutConstraintsOf r = store.layoutConstraintsOf r := by
  obtain ⟨c, hc, _⟩ := Option.bind_eq_some_iff.mp (h.installed item r hr)
  have hlt := (List.getElem?_eq_some_iff.mp hc).1
  rw [layoutConstraintsOf, insert, List.getElem?_append_left hlt, layoutConstraintsOf]

theorem UpdatedBy.installed_eq (h : store.UpdatedBy item news store') :
    store'.installed item = (store.installed item).map (.withConstants news) := by
  rw [installed, installed, h.constraintsSet, List.map_flatMap]
  exact List.flatMap_congr h.layoutConstraints

omit [DecidableEq Item] in
theorem Sound.installed_active (h : store.Sound) :
    ∀ lc ∈ store.installed item, lc.isActive = true := by
  intro lc hinstalled
  obtain ⟨r, hr, hlc⟩ := List.mem_flatMap.mp hinstalled
  obtain ⟨c, hc, htarget⟩ := Option.bind_eq_some_iff.mp (h.installed item r hr)
  obtain ⟨item', hobject⟩ := h.objects r c hc
  obtain rfl : item' = item := Option.some.inj (hobject.target.symm.trans htarget)
  rw [layoutConstraintsOf_eq hc] at hlc
  exact (hobject.isActive lc hlc).mpr hr

theorem updateConstraints_spec (h : store.Sound) {calls : List (MakerCall Item)}
    {constraints : List (Constraint Item)}
    (hprepare : ConstraintMaker.prepareConstraints views item calls = some constraints)
    (hsome : (store.constraintsSet item).length > 0)
    (hobjects : allObjects.Perm (store.constraintsSet item))
    (hnodup : ((store.installed item).map (·.key)).Nodup)
    (hkeys : ((constraints.flatMap (·.layoutConstraints)).map (·.key)).Perm
      ((store.installed item).map (·.key))) :
    ∃ updated, store.updateConstraints views item calls allObjects = some updated ∧
      updated.installed item = (store.installed item).map
        (.withConstants (constraints.flatMap (·.layoutConstraints))) := by
  have hstart : store.UpdatedBy item [] (store.insert constraints) := by
    refine ⟨rfl, fun r hr => ?_⟩
    rw [layoutConstraintsOf_insert h hr]
    exact (List.map_id _).symm
  obtain ⟨updated, hfold, hupdated⟩ := hstart.foldlM hobjects hnodup
    (fun c hc => (ConstraintMaker.prepareConstraints_made hprepare c hc).1)
    (hkeys.nodup_iff.mpr hnodup)
    fun new hnew => hkeys.mem_iff.mp (List.mem_map_of_mem hnew)
  refine ⟨updated, ?_, hupdated.installed_eq⟩
  rw [updateConstraints, if_pos hsome, hprepare]
  exact hfold

omit [DecidableEq Item] in
theorem holds_of_perm {lcs lcs' : List (LayoutConstraint Item)}
    (h : (lcs.map fun lc => { lc with label := none }).Perm
      (lcs'.map fun lc => { lc with label := none })) (layout : Layout Item) :
    (∀ lc ∈ lcs, lc.Holds layout) ↔ ∀ lc ∈ lcs', lc.Holds layout := by
  have hunlabelled : ∀ lcs : List (LayoutConstraint Item), (∀ lc ∈ lcs, lc.Holds layout) ↔
      ∀ lc ∈ lcs.map fun lc => { lc with label := none }, lc.Holds layout := by
    intro lcs
    rw [List.forall_mem_map]
    rfl
  rw [hunlabelled lcs, hunlabelled lcs']
  exact forall_congr' fun lc => imp_congr_left h.mem_iff

/-- **Updating is remaking** where the closure makes the same layout constraints but for the
constants, and no two that are the same: it does not trap, whatever the order in which the set
gives its objects, and the item has the layout constraints that remaking gives it, up to their
labels. So the same layouts satisfy them. -/
theorem update_is_remake {actions : List (ConstraintAction Item)} {log : List Unit}
    (h : (constraintMachine views).run {} actions = some (store, log))
    {calls : List (MakerCall Item)} {constraints : List (Constraint Item)}
    (hprepare : ConstraintMaker.prepareConstraints views item calls = some constraints)
    (hobjects : allObjects.Perm (store.constraintsSet item))
    (hnodup : ((store.installed item).map (·.key)).Nodup)
    (hkeys : ((constraints.flatMap (·.layoutConstraints)).map (·.key)).Perm
      ((store.installed item).map (·.key))) :
    ∃ updated remade, store.updateConstraints views item calls allObjects = some updated ∧
      store.remakeConstraints views item calls = some remade ∧
      ((updated.installed item).map fun lc => { lc with label := none }).Perm
        ((remade.installed item).map fun lc => { lc with label := none }) ∧
      ∀ layout : Layout Item, (∀ lc ∈ updated.installed item, lc.Holds layout) ↔
        ∀ lc ∈ remade.installed item, lc.Holds layout := by
  have hsound := sound_of_run h
  have htarget := fun c hc => (ConstraintMaker.prepareConstraints_made hprepare c hc).2
  have hremake : store.remakeConstraints views item calls =
      some ((store.removeConstraints item).install constraints) := by
    rw [remakeConstraints, makeConstraints, hprepare]
    rfl
  have hupdate : ∃ updated, store.updateConstraints views item calls allObjects = some updated ∧
      ((updated.installed item).map fun lc => { lc with label := none }).Perm
        ((((store.removeConstraints item).install constraints).installed item).map
          fun lc => { lc with label := none }) := by
    by_cases hsome : (store.constraintsSet item).length > 0
    · obtain ⟨updated, hupdate, hinstalled⟩ :=
        updateConstraints_spec hsound hprepare hsome hobjects hnodup hkeys
      refine ⟨updated, hupdate, ?_⟩
      rw [hinstalled, installed_remade hsound htarget, List.flatMap_map]
      have hperm := LayoutConstraint.map_withConstants_perm hnodup hkeys hsound.installed_active
      rwa [List.map_flatMap] at hperm
    · refine ⟨_, ?_, List.Perm.refl _⟩
      have hnone : store.removeConstraints item = store := by
        rw [removeConstraints, List.length_eq_zero_iff.mp (Nat.eq_zero_of_not_pos hsome)]
        rfl
      rw [updateConstraints, if_neg hsome, makeConstraints, hprepare, hnone]
      rfl
  obtain ⟨updated, hupdate, hperm⟩ := hupdate
  exact ⟨updated, _, hupdate, hremake, hperm, holds_of_perm hperm⟩

/-- The size of a view, and how far it is below the top of its superview. -/
def sizeThenTop (size : CGSize) (top : ℚ) : List (MakerCall Nat) :=
  [.makeExtendableWithAttributes .size,
    .relatedTo 0 (.constant (.size size)) .equal ("Window.swift", 1),
    .makeExtendableWithAttributes .top,
    .relatedToSuperview 1 .equal ("Window.swift", 2), .offset 1 top]

def topThenSize (size : CGSize) (top : ℚ) : List (MakerCall Nat) :=
  [.makeExtendableWithAttributes .top,
    .relatedToSuperview 0 .equal ("Window.swift", 3), .offset 0 top,
    .makeExtendableWithAttributes .height,
    .relatedTo 1 (.constant (.size size)) .equal ("Window.swift", 4),
    .makeExtendableWithAttributes .width,
    .relatedTo 2 (.constant (.size size)) .equal ("Window.swift", 5)]

theorem update_is_remake_in_a_window :
    ∃ store log updated remade,
      (constraintMachine .window).run {} [.makeConstraints 1 (sizeThenTop ⟨25, 30⟩ 8)] =
        some (store, log) ∧
      store.updateConstraints .window 1 (topThenSize ⟨50, 60⟩ 4) [1, 0] = some updated ∧
      store.remakeConstraints .window 1 (topThenSize ⟨50, 60⟩ 4) = some remade ∧
      ((updated.installed 1).map fun lc => { lc with label := none }).Perm
        ((remade.installed 1).map fun lc => { lc with label := none }) ∧
      ∀ layout : Layout Nat, (∀ lc ∈ updated.installed 1, lc.Holds layout) ↔
        ∀ lc ∈ remade.installed 1, lc.Holds layout := by
  have hrun : (((constraintMachine .window).run {}
      [.makeConstraints 1 (sizeThenTop ⟨25, 30⟩ 8)]).bind fun made =>
        (ConstraintMaker.prepareConstraints .window 1 (topThenSize ⟨50, 60⟩ 4)).map
          fun constraints => decide (made.1.constraintsSet 1 = [0, 1] ∧
            ((made.1.installed 1).map (·.key)).Nodup ∧
            ((constraints.flatMap (·.layoutConstraints)).map (·.key)).Perm
              ((made.1.installed 1).map (·.key)))) = some true := by decide +kernel
  obtain ⟨⟨store, log⟩, hmake, hrun⟩ := Option.bind_eq_some_iff.mp hrun
  obtain ⟨constraints, hprepare, hrun⟩ := Option.map_eq_some_iff.mp hrun
  obtain ⟨hset, hnodup, hkeys⟩ := of_decide_eq_true hrun
  have hobjects : [1, 0].Perm (store.constraintsSet 1) := by
    rw [hset]
    exact List.Perm.swap 0 1 []
  obtain ⟨updated, remade, hboth⟩ := update_is_remake hmake hprepare hobjects hnodup hkeys
  exact ⟨store, log, updated, remade, hmake, hboth⟩

end ConstraintStore

end FinanceApp
