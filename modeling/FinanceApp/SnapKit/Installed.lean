import FinanceApp.SnapKit.Store

/-!
# Installed is active

Whatever is made, remade, updated and removed, a layout constraint is active just while its
constraint is in the set of its item.
-/

namespace FinanceApp

namespace ConstraintStore

variable {Item : Type*} {views : ViewHierarchy Item} {store store' : ConstraintStore Item}
  {item : Item}

/-! ## What the operations do -/

theorem layoutConstraintsOf_eq {r : Nat} {c : Constraint Item}
    (h : store.constraints[r]? = some c) : store.layoutConstraintsOf r = c.layoutConstraints := by
  rw [layoutConstraintsOf, h, Option.map_some, Option.getD_some]

theorem layoutConstraintAt_eq_some {place : Nat × Nat} {lc : LayoutConstraint Item} :
    store.layoutConstraintAt place = some lc ↔
      ∃ c, store.constraints[place.1]? = some c ∧ c.layoutConstraints[place.2]? = some lc := by
  rw [layoutConstraintAt, layoutConstraintsOf]
  cases store.constraints[place.1]? <;> simp

@[simp] theorem change_constraintsSet (r : Nat) (f : Constraint Item → Constraint Item) :
    (store.change r f).constraintsSet = store.constraintsSet := rfl

theorem change_getElem? (r r' : Nat) (f : Constraint Item → Constraint Item) :
    (store.change r f).constraints[r']? =
      store.constraints[r']?.map fun c => if r = r' then f c else c :=
  List.getElem?_modify f r store.constraints r'

theorem change_itemOf {r : Nat} {f : Constraint Item → Constraint Item}
    (hf : ∀ c, (f c).fromItem = c.fromItem) (r' : Nat) :
    (store.change r f).itemOf r' = store.itemOf r' := by
  rw [itemOf, itemOf, change_getElem?]
  cases store.constraints[r']? with
  | none => rfl
  | some c =>
    rw [Option.map_some, Option.bind_some, Option.bind_some]
    split
    · rw [hf]
    · rfl

variable [DecidableEq Item]

theorem activateIfNeeded_eq {r : Nat} (h : store.itemOf r = some item) :
    store.activateIfNeeded r = (store.change r (·.setActive true)).add item r := by
  rw [activateIfNeeded, h]

theorem deactivateIfNeeded_eq {r : Nat} (h : store.itemOf r = some item) :
    store.deactivateIfNeeded r = (store.change r (·.setActive false)).remove item r := by
  rw [deactivateIfNeeded, h]

theorem foldl_deactivate {rs : List Nat} (h : ∀ r ∈ rs, store.itemOf r = some item) :
    (rs.foldl deactivateIfNeeded store).constraintsSet =
        Function.update store.constraintsSet item
          ((store.constraintsSet item).filter (· ∉ rs)) ∧
      ∀ r, (rs.foldl deactivateIfNeeded store).constraints[r]? =
        store.constraints[r]?.map fun c => if r ∈ rs then c.setActive false else c := by
  induction rs generalizing store with
  | nil => simp
  | cons r rs ih =>
    obtain ⟨hr, hrs⟩ := List.forall_mem_cons.mp h
    rw [List.foldl_cons, deactivateIfNeeded_eq hr]
    have hkept : ∀ r' ∈ rs,
        ((store.change r (·.setActive false)).remove item r).itemOf r' = some item :=
      fun r' hr' => (change_itemOf (f := (·.setActive false)) (fun _ => rfl) r').trans (hrs r' hr')
    obtain ⟨hset, hobjects⟩ := ih hkept
    constructor
    · rw [hset]
      simp only [remove, change_constraintsSet, Function.update_self, Function.update_idem,
        List.filter_filter, List.mem_cons, not_or]
      congr 2
      funext r'
      simp [Bool.and_comm]
    · intro r'
      rw [hobjects]
      change ((store.change r (·.setActive false)).constraints[r']?).map _ = _
      rw [change_getElem?, Option.map_map]
      congr 1
      funext c
      by_cases hsame : r = r'
      · subst hsame
        by_cases hmem : r ∈ rs <;> simp [hmem, Constraint.setActive]
      · simp [hsame, Ne.symm hsame]

theorem foldl_activate {rs : List Nat} (h : ∀ r ∈ rs, store.itemOf r = some item)
    (hnodup : rs.Nodup) (hnew : ∀ r ∈ rs, r ∉ store.constraintsSet item) :
    (rs.foldl activateIfNeeded store).constraintsSet =
        Function.update store.constraintsSet item (store.constraintsSet item ++ rs) ∧
      ∀ r, (rs.foldl activateIfNeeded store).constraints[r]? =
        store.constraints[r]?.map fun c => if r ∈ rs then c.setActive true else c := by
  induction rs generalizing store with
  | nil => simp
  | cons r rs ih =>
    obtain ⟨hr, hrs⟩ := List.forall_mem_cons.mp h
    obtain ⟨hnewr, hnewrs⟩ := List.forall_mem_cons.mp hnew
    obtain ⟨hfresh, hnodup⟩ := List.nodup_cons.mp hnodup
    rw [List.foldl_cons, activateIfNeeded_eq hr]
    have hkept : ∀ r' ∈ rs,
        ((store.change r (·.setActive true)).add item r).itemOf r' = some item :=
      fun r' hr' => (change_itemOf (f := (·.setActive true)) (fun _ => rfl) r').trans (hrs r' hr')
    have hadd : ((store.change r (·.setActive true)).add item r).constraintsSet =
        Function.update store.constraintsSet item (store.constraintsSet item ++ [r]) := by
      simp [add, hnewr]
    have hstill : ∀ r' ∈ rs,
        r' ∉ ((store.change r (·.setActive true)).add item r).constraintsSet item := by
      intro r' hr'
      rw [hadd, Function.update_self, List.mem_append, List.mem_singleton, not_or]
      exact ⟨hnewrs r' hr', fun hsame => hfresh (hsame ▸ hr')⟩
    obtain ⟨hset, hobjects⟩ := ih hkept hnodup hstill
    constructor
    · rw [hset, hadd, Function.update_self, Function.update_idem, List.append_assoc]
      rfl
    · intro r'
      rw [hobjects]
      change ((store.change r (·.setActive true)).constraints[r']?).map _ = _
      rw [change_getElem?, Option.map_map]
      congr 1
      funext c
      by_cases hsame : r = r'
      · subst hsame
        simp [hfresh]
      · simp [hsame, Ne.symm hsame]

/-! ## The invariant -/

/-- An object of an item is active just while it is in the set of the item. -/
structure ObjectSound (store : ConstraintStore Item) (r : Nat) (constraint : Constraint Item)
    (item : Item) : Prop where
  target : constraint.fromItem.target = some item
  firstItem : ∀ lc ∈ constraint.layoutConstraints, lc.firstItem = item
  secondAttribute : ∀ lc ∈ constraint.layoutConstraints, lc.secondAttribute ≠ .notAnAttribute
  isActive : ∀ lc ∈ constraint.layoutConstraints,
    lc.isActive = true ↔ r ∈ store.constraintsSet item

structure Sound (store : ConstraintStore Item) : Prop where
  objects : ∀ r constraint, store.constraints[r]? = some constraint →
    ∃ item, store.ObjectSound r constraint item
  installed : ∀ item, ∀ r ∈ store.constraintsSet item, store.itemOf r = some item
  nodup : ∀ item, (store.constraintsSet item).Nodup

omit [DecidableEq Item] in
theorem sound_init : ({} : ConstraintStore Item).Sound := ⟨by simp, by simp, by simp⟩

omit [DecidableEq Item] in
theorem ObjectSound.itemOf_eq {r : Nat} {constraint : Constraint Item}
    (hsound : store.ObjectSound r constraint item) (hr : store.constraints[r]? = some constraint) :
    store.itemOf r = some item := by
  rw [itemOf, hr, Option.bind_some, hsound.target]

omit [DecidableEq Item] in
theorem Sound.change (h : store.Sound) {r : Nat} {f : Constraint Item → Constraint Item}
    (hfrom : ∀ c, (f c).fromItem = c.fromItem)
    (hlist : ∀ c, ∀ lc' ∈ (f c).layoutConstraints, ∃ lc ∈ c.layoutConstraints,
      lc'.firstItem = lc.firstItem ∧ lc'.secondAttribute = lc.secondAttribute ∧
        lc'.isActive = lc.isActive) :
    (store.change r f).Sound where
  objects r' c' hc' := by
    rw [change_getElem?] at hc'
    obtain ⟨c, hc, rfl⟩ := Option.map_eq_some_iff.mp hc'
    obtain ⟨item, hsound⟩ := h.objects r' c hc
    refine ⟨item, ?_⟩
    split
    · refine ⟨(congrArg ConstraintItem.target (hfrom c)).trans hsound.target, ?_, ?_, ?_⟩
      all_goals
        intro lc' hlc'
        obtain ⟨lc, hlc, hfirst, hsecond, hactive⟩ := hlist c lc' hlc'
      · exact hfirst.trans (hsound.firstItem lc hlc)
      · exact hsecond ▸ hsound.secondAttribute lc hlc
      · exact hactive ▸ hsound.isActive lc hlc
    · exact ⟨hsound.target, hsound.firstItem, hsound.secondAttribute, hsound.isActive⟩
  installed item r' hr' := by
    rw [change_itemOf hfrom]
    exact h.installed item r' hr'
  nodup := h.nodup

theorem Sound.setActive (h : store.Sound) {r : Nat} (hr : store.itemOf r = some item)
    {isActive : Bool} {set : List Nat} (hnodup : set.Nodup)
    (hset : ∀ r', r' ∈ set ↔ if r' = r then isActive = true else r' ∈ store.constraintsSet item) :
    ConstraintStore.Sound ⟨(store.change r (·.setActive isActive)).constraints,
      Function.update store.constraintsSet item set⟩ where
  objects r' c' hc' := by
    replace hc' : (store.change r (·.setActive isActive)).constraints[r']? = some c' := hc'
    rw [change_getElem?] at hc'
    obtain ⟨c, hc, rfl⟩ := Option.map_eq_some_iff.mp hc'
    obtain ⟨item', hsound⟩ := h.objects r' c hc
    refine ⟨item', ?_⟩
    by_cases hsame : r = r'
    · subst hsame
      obtain rfl : item = item' := Option.some.inj (hr.symm.trans (hsound.itemOf_eq hc))
      have hmem : r ∈ set ↔ isActive = true := by simpa using hset r
      rw [if_pos rfl]
      refine ⟨hsound.target, ?_, ?_, ?_⟩ <;>
        simp only [Constraint.setActive, List.forall_mem_map]
      · exact hsound.firstItem
      · exact hsound.secondAttribute
      · intro lc _
        rw [Function.update_self, hmem]
    · rw [if_neg hsame]
      refine ⟨hsound.target, hsound.firstItem, hsound.secondAttribute, fun lc hlc => ?_⟩
      rw [hsound.isActive lc hlc]
      change _ ↔ r' ∈ Function.update store.constraintsSet item set item'
      by_cases hitem : item' = item
      · subst hitem
        rw [Function.update_self, hset, if_neg (Ne.symm hsame)]
      · rw [Function.update_of_ne hitem]
  installed item' r' hr' := by
    replace hr' : r' ∈ Function.update store.constraintsSet item set item' := hr'
    refine (change_itemOf (f := (·.setActive isActive)) (fun _ => rfl) r').trans ?_
    by_cases hitem : item' = item
    · subst hitem
      rw [Function.update_self, hset] at hr'
      split at hr'
      next hsame => exact hsame ▸ hr
      next => exact h.installed item' r' hr'
    · rw [Function.update_of_ne hitem] at hr'
      exact h.installed item' r' hr'
  nodup item' := by
    change (Function.update store.constraintsSet item set item').Nodup
    by_cases hitem : item' = item
    · subst hitem
      rw [Function.update_self]
      exact hnodup
    · rw [Function.update_of_ne hitem]
      exact h.nodup item'

theorem Sound.activateIfNeeded (h : store.Sound) (r : Nat) : (store.activateIfNeeded r).Sound := by
  cases hr : store.itemOf r with
  | none =>
    rw [ConstraintStore.activateIfNeeded, hr]
    exact h
  | some item =>
    rw [activateIfNeeded_eq hr]
    apply h.setActive hr
    · rw [change_constraintsSet]
      split
      · exact h.nodup item
      next hnew =>
        rw [List.nodup_append]
        refine ⟨h.nodup item, by simp, ?_⟩
        intro r' hr' r'' hr'' hsame
        rw [List.mem_singleton.mp hr''] at hsame
        exact hnew (hsame ▸ hr')
    · intro r'
      rw [change_constraintsSet]
      split <;> split <;> simp_all

theorem Sound.deactivateIfNeeded (h : store.Sound) (r : Nat) :
    (store.deactivateIfNeeded r).Sound := by
  cases hr : store.itemOf r with
  | none =>
    rw [ConstraintStore.deactivateIfNeeded, hr]
    exact h
  | some item =>
    rw [deactivateIfNeeded_eq hr]
    apply h.setActive hr
    · exact (h.nodup item).filter _
    · intro r'
      split <;> simp_all

omit [DecidableEq Item] in
theorem Sound.foldl {f : ConstraintStore Item → Nat → ConstraintStore Item}
    (hf : ∀ {store : ConstraintStore Item}, store.Sound → ∀ r, (f store r).Sound)
    (h : store.Sound) (rs : List Nat) : (rs.foldl f store).Sound := by
  induction rs generalizing store with
  | nil => exact h
  | cons r rs ih => exact ih (hf h r)

omit [DecidableEq Item] in
theorem Sound.insert {constraints : List (Constraint Item)} (h : store.Sound)
    (hmade : ∀ c ∈ constraints, c.IsMade views ∧ c.fromItem.target = some item) :
    (store.insert constraints).Sound where
  objects r c hc := by
    rw [ConstraintStore.insert, List.getElem?_append] at hc
    split at hc
    · obtain ⟨item', hsound⟩ := h.objects r c hc
      exact ⟨item', hsound.target, hsound.firstItem, hsound.secondAttribute, hsound.isActive⟩
    next hnew =>
      obtain ⟨hmade, htarget⟩ := hmade c (List.mem_of_getElem? hc)
      refine ⟨item, htarget, ?_, ?_, ?_⟩ <;> intro lc hlc
      · exact Option.some.inj ((hmade.gives hlc).firstItem.trans htarget)
      · exact hmade.secondAttribute_ne hlc
      · rw [(hmade.gives hlc).isActive]
        refine iff_of_false Bool.false_ne_true fun hr => ?_
        have hitem := h.installed item r hr
        rw [itemOf, List.getElem?_eq_none (not_lt.mp hnew)] at hitem
        exact absurd hitem (by simp)
  installed item' r hr := by
    have hitem := h.installed item' r hr
    obtain ⟨c, hc, htarget⟩ := Option.bind_eq_some_iff.mp hitem
    rw [itemOf, ConstraintStore.insert,
      List.getElem?_append_left (List.getElem?_eq_some_iff.mp hc).1, hc]
    exact htarget
  nodup := h.nodup

theorem Sound.install {constraints : List (Constraint Item)} (h : store.Sound)
    (hmade : ∀ c ∈ constraints, c.IsMade views ∧ c.fromItem.target = some item) :
    (store.install constraints).Sound :=
  Sound.foldl (fun hstore r => hstore.activateIfNeeded r) (h.insert hmade) _

theorem Sound.makeConstraints {calls : List (MakerCall Item)} (h : store.Sound)
    (hmake : store.makeConstraints views item calls = some store') : store'.Sound := by
  obtain ⟨constraints, hprepare, hstore⟩ := Option.bind_eq_some_iff.mp hmake
  cases hstore
  exact h.install (ConstraintMaker.prepareConstraints_made hprepare)

theorem Sound.removeConstraints (h : store.Sound) (item : Item) :
    (store.removeConstraints item).Sound :=
  Sound.foldl (fun hstore r => hstore.deactivateIfNeeded r) h _

omit [DecidableEq Item] in
theorem Sound.setConstant (h : store.Sound) (place : Nat × Nat) (constant : ℚ) :
    (store.setConstant place constant).Sound := by
  refine h.change (fun _ => rfl) fun c lc' hlc' => ?_
  obtain ⟨k, hk, rfl⟩ := List.mem_iff_getElem.mp hlc'
  rw [List.length_modify] at hk
  refine ⟨c.layoutConstraints[k], List.getElem_mem hk, ?_⟩
  rw [List.getElem_modify]
  split <;> exact ⟨rfl, rfl, rfl⟩

theorem Sound.updateExisting {allObjects : List Nat} {constraint : Constraint Item}
    {lc : LayoutConstraint Item} (h : store.Sound)
    (hupdate : updateExisting views allObjects constraint store lc = some store') :
    store'.Sound := by
  obtain ⟨place, _, hset⟩ := Option.bind_eq_some_iff.mp hupdate
  obtain ⟨existing, _, rfl⟩ := Option.map_eq_some_iff.mp hset
  exact h.setConstant place _

theorem Sound.updateConstraints {calls : List (MakerCall Item)} {allObjects : List Nat}
    (h : store.Sound)
    (hupdate : store.updateConstraints views item calls allObjects = some store') :
    store'.Sound := by
  rw [ConstraintStore.updateConstraints] at hupdate
  split at hupdate
  · obtain ⟨constraints, hprepare, hfold⟩ := Option.bind_eq_some_iff.mp hupdate
    refine Loops.foldlM_invariant (fun hstore hactivate => ?_)
      (h.insert (ConstraintMaker.prepareConstraints_made hprepare)) hfold
    exact Loops.foldlM_invariant (fun hstore hturn => Sound.updateExisting hstore hturn) hstore
      hactivate
  · exact h.makeConstraints hupdate

omit [DecidableEq Item] in
theorem Sound.updateConstantAndPriorityIfNeeded (h : store.Sound) (r : Nat)
    {f : Constraint Item → Constraint Item} (hfrom : ∀ c, (f c).fromItem = c.fromItem)
    (hlist : ∀ c, (f c).layoutConstraints = c.layoutConstraints) :
    (store.change r fun c => (f c).updateConstantAndPriorityIfNeeded views).Sound := by
  refine h.change hfrom fun c lc' hlc' => ?_
  obtain ⟨lc, hlc, rfl⟩ := List.mem_map.mp hlc'
  exact ⟨lc, hlist c ▸ hlc, rfl, rfl, rfl⟩

theorem Sound.step {action : ConstraintAction Item} {event : Unit} (h : store.Sound)
    (hstep : (constraintMachine views).step store action = some (store', event)) :
    store'.Sound := by
  obtain ⟨_, hstep⟩ := Option.ite_none_right_eq_some.mp hstep
  cases action with
  | makeConstraints item calls =>
    obtain ⟨_, hmake, hstore⟩ := Option.map_eq_some_iff.mp hstep
    cases hstore
    exact h.makeConstraints hmake
  | remakeConstraints item calls =>
    obtain ⟨_, hmake, hstore⟩ := Option.map_eq_some_iff.mp hstep
    cases hstore
    exact (h.removeConstraints item).makeConstraints hmake
  | updateConstraints item calls allObjects =>
    obtain ⟨_, hupdate, hstore⟩ := Option.map_eq_some_iff.mp hstep
    cases hstore
    exact h.updateConstraints hupdate
  | removeConstraints item =>
    cases hstep
    exact h.removeConstraints item
  | activate r =>
    cases hstep
    exact h.activateIfNeeded r
  | deactivate r =>
    cases hstep
    exact h.deactivateIfNeeded r
  | updateOffset r offset | updateInset r inset | updatePriority r priority =>
    cases hstep
    exact h.updateConstantAndPriorityIfNeeded r (fun _ => rfl) fun _ => rfl

theorem sound_of_run {actions : List (ConstraintAction Item)} {log : List Unit}
    (h : (constraintMachine views).run {} actions = some (store, log)) : store.Sound :=
  (constraintMachine views).run_invariant (fun hstore hstep => hstore.step hstep) sound_init h

/-- **Installed is active.** In every run each constraint belongs to one item, and its layout
constraints are active just while the item's set has it, which has it once. -/
theorem installed_is_active {actions : List (ConstraintAction Item)} {log : List Unit}
    (h : (constraintMachine views).run {} actions = some (store, log)) {r : Nat}
    {constraint : Constraint Item} (hr : store.constraints[r]? = some constraint) :
    ∃ item, constraint.fromItem.target = some item ∧
      (∀ lc ∈ constraint.layoutConstraints,
        lc.isActive = true ↔ r ∈ store.constraintsSet item) ∧
      (store.constraintsSet item).Nodup ∧
      ∀ item', r ∈ store.constraintsSet item' → item' = item := by
  have hsound := sound_of_run h
  obtain ⟨item, hobject⟩ := hsound.objects r constraint hr
  refine ⟨item, hobject.target, hobject.isActive, hsound.nodup item, fun item' hmem => ?_⟩
  exact Option.some.inj ((hsound.installed item' r hmem).symm.trans (hobject.itemOf_eq hr))

/-- `make.width.equalTo(width)` -/
def widthCalls (width : ℚ) : List (MakerCall Nat) :=
  [.makeExtendableWithAttributes .width,
    .relatedTo 0 (.constant (.number width)) .equal ("Window.swift", 1)]

theorem installed_is_active_in_a_window :
    ∃ store log r constraint,
      (constraintMachine .window).run {} [.makeConstraints 1 (widthCalls 25),
        .remakeConstraints 1 (widthCalls 30), .deactivate 1, .activate 0] = some (store, log) ∧
      store.constraints[r]? = some constraint ∧
      ∃ item, constraint.fromItem.target = some item ∧
        (∀ lc ∈ constraint.layoutConstraints,
          lc.isActive = true ↔ r ∈ store.constraintsSet item) ∧
        (store.constraintsSet item).Nodup ∧
        ∀ item', r ∈ store.constraintsSet item' → item' = item := by
  -- A constraint that was remade and its successor.
  have hrun : ((constraintMachine .window).run {} [.makeConstraints 1 (widthCalls 25),
      .remakeConstraints 1 (widthCalls 30), .deactivate 1, .activate 0]).map
        (·.1.constraints.length) = some 2 := by decide
  obtain ⟨⟨store, log⟩, hrun, hlength⟩ := Option.map_eq_some_iff.mp hrun
  have hr : store.constraints[1]? = some _ :=
    List.getElem?_eq_getElem (hlength ▸ Nat.one_lt_two)
  exact ⟨store, log, 1, _, hrun, hr, installed_is_active hrun hr⟩

/-! ## Removing and installing -/

theorem removeConstraints_spec (h : store.Sound) (item : Item) :
    (store.removeConstraints item).constraintsSet = Function.update store.constraintsSet item [] ∧
      (store.removeConstraints item).constraints = store.constraints.mapIdx fun r c =>
        if r ∈ store.constraintsSet item then c.setActive false else c := by
  obtain ⟨hset, hobjects⟩ := foldl_deactivate (h.installed item)
  constructor
  · rw [removeConstraints, hset]
    congr 1
    simp
  · apply List.ext_getElem?
    intro r
    rw [removeConstraints, hobjects, List.getElem?_mapIdx]

theorem install_spec {constraints : List (Constraint Item)} (h : store.Sound)
    (htarget : ∀ c ∈ constraints, c.fromItem.target = some item) :
    (store.install constraints).constraintsSet = Function.update store.constraintsSet item
        (store.constraintsSet item ++ store.newObjects constraints) ∧
      (store.install constraints).constraints =
        store.constraints ++ constraints.map (·.setActive true) := by
  have hitems : ∀ r ∈ store.newObjects constraints,
      (store.insert constraints).itemOf r = some item := by
    intro r hr
    obtain ⟨hle, hlt⟩ := List.mem_range'_1.mp hr
    rw [itemOf, insert, List.getElem?_append_right hle,
      List.getElem?_eq_getElem (by omega), Option.bind_some]
    exact htarget _ (List.getElem_mem _)
  have hnew : ∀ r ∈ store.newObjects constraints,
      r ∉ (store.insert constraints).constraintsSet item := by
    intro r hr hmem
    have hitem := h.installed item r hmem
    rw [itemOf, List.getElem?_eq_none (List.mem_range'_1.mp hr).1] at hitem
    exact absurd hitem (by simp)
  obtain ⟨hset, hobjects⟩ := foldl_activate hitems List.nodup_range' hnew
  refine ⟨hset, ?_⟩
  apply List.ext_getElem?
  intro r
  rw [install, hobjects, insert, newObjects]
  have hmem : r ∈ List.range' store.constraints.length constraints.length ↔
      store.constraints.length ≤ r ∧ r < store.constraints.length + constraints.length :=
    List.mem_range'_1
  rcases lt_or_ge r store.constraints.length with hold | hnew
  · rw [List.getElem?_append_left hold, List.getElem?_append_left hold,
      List.getElem?_eq_getElem hold]
    simp [hmem, not_le.mpr hold]
  · rw [List.getElem?_append_right hnew, List.getElem?_append_right hnew, List.getElem?_map]
    cases hc : constraints[r - store.constraints.length]? with
    | none => rfl
    | some c =>
      have hlt := (List.getElem?_eq_some_iff.mp hc).1
      rw [Option.map_some, Option.map_some, if_pos (hmem.mpr ⟨hnew, by omega⟩)]

/-- The layout constraints of the item's set. -/
def installed (store : ConstraintStore Item) (item : Item) : List (LayoutConstraint Item) :=
  (store.constraintsSet item).flatMap store.layoutConstraintsOf

omit [DecidableEq Item] in
theorem flatMap_range' {β : Type*} (before after : List (Constraint Item))
    (f : Constraint Item → List β) :
    (List.range' before.length after.length).flatMap
      (fun r => ((before ++ after)[r]?.map f).getD []) = after.flatMap f := by
  induction after generalizing before with
  | nil => rfl
  | cons c after ih =>
    have hrest := ih (before ++ [c])
    rw [List.append_assoc, List.length_append] at hrest
    rw [List.length_cons, List.range'_succ, List.flatMap_cons, List.flatMap_cons]
    congr 1
    · simp

omit [DecidableEq Item] in
theorem installed_congr (h : store.Sound) {item' : Item}
    (hset : store'.constraintsSet item' = store.constraintsSet item')
    (hobjects : ∀ (r : Nat) (c : Constraint Item), store.constraints[r]? = some c →
      c.fromItem.target = some item' → store'.constraints[r]? = some c) :
    store'.installed item' = store.installed item' := by
  rw [installed, installed, hset]
  apply List.flatMap_congr
  intro r hr
  obtain ⟨c, hc, htarget⟩ := Option.bind_eq_some_iff.mp (h.installed item' r hr)
  rw [layoutConstraintsOf_eq (hobjects r c hc htarget), layoutConstraintsOf_eq hc]

theorem installed_remade (h : store.Sound) {constraints : List (Constraint Item)}
    (htarget : ∀ c ∈ constraints, c.fromItem.target = some item) :
    ((store.removeConstraints item).install constraints).installed item =
      (constraints.map (·.setActive true)).flatMap (·.layoutConstraints) := by
  obtain ⟨hset, _⟩ := removeConstraints_spec h item
  obtain ⟨hset', hobjects'⟩ := install_spec (h.removeConstraints item) htarget
  have hread := flatMap_range' (store.removeConstraints item).constraints
    (constraints.map (·.setActive true)) (·.layoutConstraints)
  rw [List.length_map, ← hobjects'] at hread
  rw [installed, hset', Function.update_self, hset, Function.update_self, List.nil_append]
  exact hread

/-- **Remaking leaves just what the closure makes.** The constraints that the item had are no
longer active, and other items keep theirs. -/
theorem remake_replaces {actions : List (ConstraintAction Item)} {log : List Unit}
    (h : (constraintMachine views).run {} actions = some (store, log))
    {calls : List (MakerCall Item)}
    (hremake : store.remakeConstraints views item calls = some store') :
    ∃ constraints, ConstraintMaker.prepareConstraints views item calls = some constraints ∧
      store'.installed item =
          (constraints.map (·.setActive true)).flatMap (·.layoutConstraints) ∧
        (∀ r c, r < store.constraints.length → store'.constraints[r]? = some c →
          c.fromItem.target = some item → c.isActive = false) ∧
        ∀ item', item' ≠ item → store'.installed item' = store.installed item' := by
  have hsound := sound_of_run h
  obtain ⟨constraints, hprepare, hstore⟩ := Option.bind_eq_some_iff.mp hremake
  cases hstore
  have htarget := fun c hc => (ConstraintMaker.prepareConstraints_made hprepare c hc).2
  obtain ⟨hset, hobjects⟩ := removeConstraints_spec hsound item
  obtain ⟨hset', hobjects'⟩ := install_spec (hsound.removeConstraints item) htarget
  have hlength : (store.removeConstraints item).constraints.length = store.constraints.length := by
    rw [hobjects, List.length_mapIdx]
  refine ⟨constraints, hprepare, installed_remade hsound htarget, ?_, ?_⟩
  · intro r c hr hc htarget
    rw [hobjects', List.getElem?_append_left (hlength ▸ hr), hobjects, List.getElem?_mapIdx] at hc
    obtain ⟨old, hold, rfl⟩ := Option.map_eq_some_iff.mp hc
    rw [Constraint.isActive, List.any_eq_false]
    split
    · simp [Constraint.setActive]
    next hnot =>
      rw [if_neg hnot] at htarget
      obtain ⟨item', hobject⟩ := hsound.objects r old hold
      obtain rfl : item' = item := Option.some.inj (hobject.target.symm.trans htarget)
      exact fun lc hlc hactive => hnot ((hobject.isActive lc hlc).mp hactive)
  · intro item' hne
    apply installed_congr hsound
    · rw [hset', Function.update_of_ne hne, hset, Function.update_of_ne hne]
    · intro r c hc htarget
      have hnot : r ∉ store.constraintsSet item := by
        intro hmem
        have hitem := hsound.installed item r hmem
        rw [itemOf, hc, Option.bind_some, htarget] at hitem
        exact hne (Option.some.inj hitem)
      have hr := (List.getElem?_eq_some_iff.mp hc).1
      rw [hobjects', List.getElem?_append_left (hlength ▸ hr), hobjects, List.getElem?_mapIdx, hc,
        Option.map_some, if_neg hnot]

theorem remake_replaces_in_a_window :
    ∃ store log store',
      (constraintMachine .window).run {} [.makeConstraints 1 (widthCalls 25)] = some (store, log) ∧
      store.remakeConstraints .window 1 (widthCalls 30) = some store' ∧
      ∃ constraints,
        ConstraintMaker.prepareConstraints .window 1 (widthCalls 30) = some constraints ∧
        store'.installed 1 =
            (constraints.map (·.setActive true)).flatMap (·.layoutConstraints) ∧
          (∀ r c, r < store.constraints.length → store'.constraints[r]? = some c →
            c.fromItem.target = some 1 → c.isActive = false) ∧
          ∀ item', item' ≠ 1 → store'.installed item' = store.installed item' := by
  have hrun : (((constraintMachine .window).run {} [.makeConstraints 1 (widthCalls 25)]).bind
      (·.1.remakeConstraints .window 1 (widthCalls 30))).isSome := by decide
  obtain ⟨store', hrun⟩ := Option.isSome_iff_exists.mp hrun
  obtain ⟨⟨store, log⟩, hrun, hremake⟩ := Option.bind_eq_some_iff.mp hrun
  exact ⟨store, log, store', hrun, hremake, remake_replaces hrun hremake⟩

end ConstraintStore

end FinanceApp
