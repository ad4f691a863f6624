import FinanceApp.SnapKit.Maker
import Mathlib.Data.List.ReduceOption
import Mathlib.Data.List.TakeWhile

/-!
# The constraints that a closure prepares

Whatever the closure calls, in whatever order, making the constraints never traps: what can
go wrong goes wrong in the closure, where an item is related to another.
-/

namespace FinanceApp

/-! ## Constraints as they are made -/

namespace Constraint

variable {Item : Type*} {views : ViewHierarchy Item} {constraint : Constraint Item}

/-- The constraint is as `init` leaves it. -/
def IsMade (views : ViewHierarchy Item) (constraint : Constraint Item) : Prop :=
  init views constraint.fromItem constraint.toItem constraint.relation constraint.sourceLocation
    constraint.label constraint.multiplier constraint.constant constraint.priority =
      some constraint

theorem isMade_of_init {fromItem toItem : ConstraintItem Item} {relation : ConstraintRelation}
    {sourceLocation : String × Nat} {label : Option String} {multiplier : ℚ}
    {constant : ConstraintConstantTarget} {priority : ℚ}
    (h : init views fromItem toItem relation sourceLocation label multiplier constant priority =
      some constraint) : constraint.IsMade views ∧ constraint.fromItem = fromItem := by
  obtain ⟨layoutFrom, layoutConstraints, hfrom, hlist, rfl⟩ :=
    (init_eq_some _ _ _ _ _ _ _ _ _).mp h
  exact ⟨h, rfl⟩

/-- What `init` gives each layout constraint. -/
structure Gives (views : ViewHierarchy Item) (constraint : Constraint Item)
    (layoutConstraint : LayoutConstraint Item) : Prop where
  firstItem : some layoutConstraint.firstItem = constraint.fromItem.target
  secondAttribute : constraint.fromItem.layoutToAttribute constraint.toItem
    layoutConstraint.firstAttribute = some layoutConstraint.secondAttribute
  relation : layoutConstraint.relation = constraint.relation
  multiplier : layoutConstraint.multiplier = constraint.multiplier
  constant : layoutConstraint.constant = constraint.constant.constraintConstantTargetValueFor
    views.interfaceLayoutDirection layoutConstraint.secondAttribute
  priority : layoutConstraint.priority = constraint.priority
  isActive : layoutConstraint.isActive = false

theorem IsMade.gives (h : constraint.IsMade views) {layoutConstraint : LayoutConstraint Item}
    (hmem : layoutConstraint ∈ constraint.layoutConstraints) :
    constraint.Gives views layoutConstraint := by
  obtain ⟨layoutFrom, layoutConstraints, hfrom, hlist, heq⟩ :=
    (init_eq_some _ _ _ _ _ _ _ _ _).mp h
  rw [heq] at hmem
  obtain ⟨a, _, ha⟩ := Loops.exists_of_mem hlist hmem
  obtain ⟨b, hb, rfl⟩ := Option.map_eq_some_iff.mp ha
  exact ⟨hfrom.symm, hb, rfl, rfl, rfl, rfl, rfl⟩

theorem IsMade.firstAttributes (h : constraint.IsMade views) :
    constraint.layoutConstraints.map (·.firstAttribute) =
      constraint.fromItem.attributes.layoutAttributes := by
  obtain ⟨layoutFrom, layoutConstraints, hfrom, hlist, heq⟩ :=
    (init_eq_some _ _ _ _ _ _ _ _ _).mp h
  rw [heq]
  apply Loops.map_eq hlist
  intro a layoutConstraint ha
  obtain ⟨b, _, rfl⟩ := Option.map_eq_some_iff.mp ha
  rfl

theorem IsMade.secondAttribute_ne (h : constraint.IsMade views)
    {layoutConstraint : LayoutConstraint Item}
    (hmem : layoutConstraint ∈ constraint.layoutConstraints) :
    layoutConstraint.secondAttribute ≠ .notAnAttribute := by
  have hfirst : layoutConstraint.firstAttribute ∈ constraint.fromItem.attributes.layoutAttributes :=
    h.firstAttributes ▸ List.mem_map_of_mem hmem
  have hsecond := (h.gives hmem).secondAttribute
  intro hnot
  rw [hnot] at hsecond
  exact constraint.fromItem.layoutToAttribute_ne_notAnAttribute constraint.toItem hfirst hsecond

end Constraint

/-! ## Descriptions -/

namespace ConstraintDescription

variable {Item : Type*} {views : ViewHierarchy Item} {item : Item}
  {description : ConstraintDescription Item}

/-- A description of `item`. Whether it was related shows in three variables. -/
structure Sound (views : ViewHierarchy Item) (item : Item)
    (description : ConstraintDescription Item) : Prop where
  item_eq : description.item = item
  related : description.related.isSome = description.relation.isSome
  sourceLocation : description.sourceLocation.isSome = description.relation.isSome
  lazyConstraint : ∀ c, description.lazyConstraint = some c → description.relation.isSome ∧
    ∃ constraint, c = some constraint ∧ constraint.IsMade views ∧
      constraint.fromItem.target = some item

theorem Sound.constraint (h : description.Sound views item) :
    ∃ c, description.constraint views = some c ∧ c.isSome = description.relation.isSome ∧
      ∀ constraint ∈ c, constraint.IsMade views ∧ constraint.fromItem.target = some item := by
  rw [ConstraintDescription.constraint]
  cases hlazy : description.lazyConstraint with
  | some c =>
    obtain ⟨hrelated, constraint, rfl, hmade, htarget⟩ := h.lazyConstraint c hlazy
    refine ⟨_, rfl, hrelated.symm, ?_⟩
    rintro _ ⟨rfl⟩
    exact ⟨hmade, htarget⟩
  | none =>
    have hrelated := h.related
    have hlocation := h.sourceLocation
    cases hrelation : description.relation with
    | none => exact ⟨none, by simp [makeConstraint, hrelation], rfl, by simp⟩
    | some relation =>
      rw [hrelation, Option.isSome_some] at hrelated hlocation
      obtain ⟨related, hrelated⟩ := Option.isSome_iff_exists.mp hrelated
      obtain ⟨location, hlocation⟩ := Option.isSome_iff_exists.mp hlocation
      obtain ⟨constraint, hinit⟩ := Option.isSome_iff_exists.mp (Constraint.init_isSome views
        ⟨some description.item, description.attributes⟩ related relation location
        description.label description.multiplier description.constant description.priority rfl)
      obtain ⟨hmade, hfrom⟩ := Constraint.isMade_of_init hinit
      refine ⟨some constraint, by simp [makeConstraint, hrelation, hrelated, hlocation, hinit],
        rfl, ?_⟩
      rintro _ ⟨rfl⟩
      rw [hfrom, h.item_eq]
      exact ⟨hmade, rfl⟩

theorem Sound.relatedTo {changed : ConstraintDescription Item}
    {other : ConstraintRelatableTarget Item} {relation : ConstraintRelation}
    {sourceLocation : String × Nat} (h : description.Sound views item)
    (hrelate : description.relatedTo other relation sourceLocation = some changed) :
    changed.Sound views item := by
  have hkept : ∀ c, description.lazyConstraint = some c → ∃ constraint, c = some constraint ∧
      constraint.IsMade views ∧ constraint.fromItem.target = some item :=
    fun c hc => (h.lazyConstraint c hc).2
  cases other with
  | item other =>
    simp only [ConstraintDescription.relatedTo, Option.ite_none_right_eq_some,
      Option.some.injEq] at hrelate
    obtain ⟨_, rfl⟩ := hrelate
    exact ⟨h.item_eq, rfl, rfl, fun c hc => ⟨rfl, hkept c hc⟩⟩
  | view other | constant other | layoutGuide other =>
    cases hrelate
    exact ⟨h.item_eq, rfl, rfl, fun c hc => ⟨rfl, hkept c hc⟩⟩

theorem Sound.readConstraint {changed : ConstraintDescription Item}
    (h : description.Sound views item) (hrelated : description.relation.isSome)
    (hread : description.readConstraint views = some changed) : changed.Sound views item := by
  obtain ⟨c, hc, hsome, hmade⟩ := h.constraint
  simp only [ConstraintDescription.readConstraint, hc, Option.bind_eq_bind, Option.bind_some,
    Option.some.injEq] at hread
  subst hread
  refine ⟨h.item_eq, h.related, h.sourceLocation, ?_⟩
  rintro _ ⟨rfl⟩
  rw [hrelated] at hsome
  obtain ⟨constraint, rfl⟩ := Option.isSome_iff_exists.mp hsome
  exact ⟨hrelated, constraint, rfl, hmade constraint rfl⟩

end ConstraintDescription

/-! ## What a constraint is made of -/

namespace ConstraintDescription

variable {Item : Type*} {views : ViewHierarchy Item} {description : ConstraintDescription Item}

/-- The constraint has all that the description says, and one layout constraint for each of
its attributes, in the order of the tests. -/
structure Represents (views : ViewHierarchy Item) (description : ConstraintDescription Item)
    (constraint : Constraint Item) : Prop where
  fromItem : constraint.fromItem = ⟨some description.item, description.attributes⟩
  toItem : some constraint.toItem = description.related
  relation : some constraint.relation = description.relation
  sourceLocation : some constraint.sourceLocation = description.sourceLocation
  label : constraint.label = description.label
  multiplier : constraint.multiplier = description.multiplier
  constant : constraint.constant = description.constant
  priority : constraint.priority = description.priority
  attributes : constraint.layoutConstraints.map (·.firstAttribute) =
    description.attributes.layoutAttributes
  once : (constraint.layoutConstraints.map (·.firstAttribute)).Nodup
  gives : ∀ layoutConstraint ∈ constraint.layoutConstraints,
    constraint.Gives views layoutConstraint

theorem represents_of_makeConstraint {constraint : Constraint Item}
    (h : description.makeConstraint views = some (some constraint)) :
    description.Represents views constraint := by
  unfold makeConstraint at h
  split at h
  next relation related sourceLocation hrelation hrelated hlocation =>
    obtain ⟨_, hinit, ⟨⟩⟩ := Option.map_eq_some_iff.mp h
    obtain ⟨hmade, -⟩ := Constraint.isMade_of_init hinit
    obtain ⟨_, _, _, _, rfl⟩ := (Constraint.init_eq_some _ _ _ _ _ _ _ _ _).mp hinit
    exact ⟨rfl, hrelated.symm, hrelation.symm, hlocation.symm, rfl, rfl, rfl, rfl,
      hmade.firstAttributes, hmade.firstAttributes ▸ description.attributes.layoutAttributes_nodup,
      fun _ => hmade.gives⟩
  next => cases h

end ConstraintDescription

/-! ## Closures -/

namespace ConstraintMaker

variable {Item : Type*} {views : ViewHierarchy Item} {maker maker' : ConstraintMaker Item}

structure Sound (views : ViewHierarchy Item) (item : Item) (maker : ConstraintMaker Item) :
    Prop where
  item_eq : maker.item = item
  descriptions : ∀ d ∈ maker.descriptions, d.Sound views item

theorem modify_eq_some {i : Nat}
    {f : ConstraintDescription Item → Option (ConstraintDescription Item)} :
    maker.modify i f = some maker' ↔ ∃ d changed, maker.descriptions[i]? = some d ∧
      f d = some changed ∧
      maker' = { maker with descriptions := maker.descriptions.set i changed } := by
  simp only [modify, Option.bind_eq_bind, Option.bind_eq_some_iff, Option.some.injEq]
  constructor
  · rintro ⟨d, hd, changed, hchanged, rfl⟩
    exact ⟨d, changed, hd, hchanged, rfl⟩
  · rintro ⟨d, changed, hd, hchanged, rfl⟩
    exact ⟨d, hd, changed, hchanged, rfl⟩

theorem Sound.modify {item : Item} {i : Nat}
    {f : ConstraintDescription Item → Option (ConstraintDescription Item)}
    (h : maker.Sound views item)
    (hf : ∀ d changed, d.Sound views item → f d = some changed → changed.Sound views item)
    (hmodify : maker.modify i f = some maker') : maker'.Sound views item := by
  obtain ⟨d, changed, hd, hchanged, rfl⟩ := modify_eq_some.mp hmodify
  refine ⟨h.item_eq, fun d' hd' => ?_⟩
  rcases List.mem_or_eq_of_mem_set hd' with hd' | rfl
  · exact h.descriptions d' hd'
  · exact hf d d' (h.descriptions d (List.mem_of_getElem? hd)) hchanged

theorem Sound.edit {item : Item} {i : Nat}
    {f : ConstraintDescription Item → ConstraintDescription Item} (h : maker.Sound views item)
    (hf : ∀ d, d.Sound views item → (f d).Sound views item)
    (hedit : maker.edit i f = some maker') : maker'.Sound views item := by
  refine h.modify (fun d changed hd hchanged => ?_) hedit
  simp only [Option.ite_none_right_eq_some, Option.some.injEq] at hchanged
  obtain ⟨_, rfl⟩ := hchanged
  exact hf d hd

theorem Sound.call {item : Item} {call : MakerCall Item} (h : maker.Sound views item)
    (hcall : maker.call views call = some maker') : maker'.Sound views item := by
  cases call with
  | makeExtendableWithAttributes attributes =>
    cases hcall
    refine ⟨h.item_eq, fun d hd => ?_⟩
    rcases List.mem_append.mp hd with hd | hd
    · exact h.descriptions d hd
    · rw [List.mem_singleton.mp hd]
      exact ⟨h.item_eq, rfl, rfl, by simp⟩
  | extend i attributes =>
    refine h.modify (fun d changed hd hchanged => ?_) hcall
    cases hchanged
    exact ⟨hd.item_eq, hd.related, hd.sourceLocation, hd.lazyConstraint⟩
  | relatedTo i other relation sourceLocation =>
    exact h.modify (fun d changed hd hchanged => hd.relatedTo hchanged) hcall
  | relatedToSuperview i relation sourceLocation =>
    refine h.modify (fun d changed hd hchanged => ?_) hcall
    obtain ⟨superview, _, hrelate⟩ := Option.bind_eq_some_iff.mp hchanged
    exact hd.relatedTo hrelate
  | multipliedBy i amount | dividedBy i amount | offset i amount | inset i amount
  | priority i amount | labeled i label =>
    refine h.edit (fun d hd => ?_) hcall
    exact ⟨hd.item_eq, hd.related, hd.sourceLocation, hd.lazyConstraint⟩
  | constraint i =>
    refine h.modify (fun d changed hd hchanged => ?_) hcall
    obtain ⟨hrelated, hread⟩ := Option.ite_none_right_eq_some.mp hchanged
    exact hd.readConstraint hrelated hread

theorem Sound.closure {item : Item} {calls : List (MakerCall Item)} (h : maker.Sound views item)
    (hcalls : maker.closure views calls = some maker') : maker'.Sound views item :=
  Loops.foldlM_invariant (fun hmaker hcall => Sound.call hmaker hcall) h hcalls

theorem sound_init (views : ViewHierarchy Item) (item : Item) :
    Sound views item { item : ConstraintMaker Item } := ⟨rfl, by simp⟩

theorem exists_constraints {item : Item} {descriptions : List (ConstraintDescription Item)}
    (h : ∀ d ∈ descriptions, d.Sound views item) :
    ∃ cs, descriptions.mapM (fun d => d.constraint views) = some cs ∧
      cs.reduceOption.length = descriptions.countP (·.relation.isSome) ∧
      ∀ c ∈ cs.reduceOption, c.IsMade views ∧ c.fromItem.target = some item := by
  induction descriptions with
  | nil => exact ⟨[], rfl, rfl, by simp⟩
  | cons d descriptions ih =>
    obtain ⟨hd, hrest⟩ := List.forall_mem_cons.mp h
    obtain ⟨c, hc, hsome, hmade⟩ := hd.constraint
    obtain ⟨cs, hcs, hlength, hall⟩ := ih hrest
    refine ⟨c :: cs, by simp [hc, hcs], ?_⟩
    cases c with
    | none =>
      rw [Option.isSome_none] at hsome
      exact ⟨by simp [← hsome, hlength], by simpa using hall⟩
    | some constraint =>
      rw [Option.isSome_some] at hsome
      refine ⟨by simp [← hsome, hlength], ?_⟩
      rw [List.reduceOption_cons_of_some]
      exact List.forall_mem_cons.mpr ⟨hmade constraint rfl, hall⟩

theorem prepareConstraints_eq_some {item : Item} {calls : List (MakerCall Item)}
    {constraints : List (Constraint Item)}
    (hcalls : closure views { item } calls = some maker) :
    prepareConstraints views item calls = some constraints ↔
      ∃ cs, maker.descriptions.mapM (fun d => d.constraint views) = some cs ∧
        cs.reduceOption = constraints := by
  simp only [prepareConstraints, hcalls, Option.bind_eq_bind, Option.bind_some,
    ConstraintMaker.constraints, Option.bind_eq_some_iff, Option.some.injEq]

theorem prepareConstraints_of_closure {item : Item} {calls : List (MakerCall Item)}
    (hcalls : closure views { item } calls = some maker) :
    ∃ constraints, prepareConstraints views item calls = some constraints ∧
      constraints.length = maker.descriptions.countP (·.relation.isSome) ∧
      ∀ c ∈ constraints, c.IsMade views ∧ c.fromItem.target = some item := by
  obtain ⟨cs, hcs, hlength, hall⟩ :=
    exists_constraints ((sound_init views item).closure hcalls).descriptions
  exact ⟨cs.reduceOption, (prepareConstraints_eq_some hcalls).mpr ⟨cs, hcs, rfl⟩, hlength, hall⟩

theorem prepareConstraints_made {item : Item} {calls : List (MakerCall Item)}
    {constraints : List (Constraint Item)}
    (h : prepareConstraints views item calls = some constraints) :
    ∀ c ∈ constraints, c.IsMade views ∧ c.fromItem.target = some item := by
  obtain ⟨maker, hcalls, _⟩ := Option.bind_eq_some_iff.mp h
  obtain ⟨_, hprepare, _, hall⟩ := prepareConstraints_of_closure hcalls
  rw [hprepare, Option.some.injEq] at h
  exact h ▸ hall

/-! ## Descriptions when they are read -/

/-- How many descriptions the calls make. -/
def made (calls : List (MakerCall Item)) : Nat :=
  calls.countP fun call => call matches .makeExtendableWithAttributes _

theorem closure_append (calls calls' : List (MakerCall Item)) :
    maker.closure views (calls ++ calls') =
      (maker.closure views calls).bind fun maker => maker.closure views calls' := by
  simp [closure, List.foldlM_append]

theorem modify_length {i : Nat}
    {f : ConstraintDescription Item → Option (ConstraintDescription Item)}
    (h : maker.modify i f = some maker') :
    maker'.item = maker.item ∧ maker'.descriptions.length = maker.descriptions.length := by
  obtain ⟨d, changed, _, _, rfl⟩ := modify_eq_some.mp h
  exact ⟨rfl, List.length_set⟩

theorem call_length {call : MakerCall Item} (h : maker.call views call = some maker') :
    maker'.item = maker.item ∧
      maker'.descriptions.length = maker.descriptions.length + made [call] := by
  cases call with
  | makeExtendableWithAttributes attributes =>
    cases h
    exact ⟨rfl, List.length_append⟩
  | _ => exact modify_length h

theorem closure_length {calls : List (MakerCall Item)}
    (h : maker.closure views calls = some maker') :
    maker'.item = maker.item ∧
      maker'.descriptions.length = maker.descriptions.length + made calls := by
  induction calls generalizing maker with
  | nil =>
    cases h
    exact ⟨rfl, rfl⟩
  | cons call calls ih =>
    obtain ⟨next, hcall, hrest⟩ := Option.bind_eq_some_iff.mp h
    obtain ⟨hitem, hlength⟩ := call_length hcall
    obtain ⟨hitem', hlength'⟩ := ih hrest
    refine ⟨hitem'.trans hitem, ?_⟩
    rw [hlength', hlength, Nat.add_assoc]
    congr 1
    exact (List.countP_append : (([call] ++ calls).countP _) = _).symm

/-- The `i`-th description when its lazy variable is read first: in the closure, or at the end
of it. -/
def descriptionRead (views : ViewHierarchy Item) (item : Item) (calls : List (MakerCall Item))
    (i : Nat) : Option (ConstraintDescription Item) :=
  (closure views { item } (calls.takeWhile fun call => !call.reads i)).bind (·.descriptions[i]?)

/-- The descriptions that were related, in their order. -/
def relatedDescriptions (views : ViewHierarchy Item) (item : Item)
    (calls : List (MakerCall Item)) : List (ConstraintDescription Item) :=
  ((List.range (made calls)).filterMap (descriptionRead views item calls)).filter
    (·.relation.isSome)

/-- What a call does to the `i`-th description. Only reading changes its lazy variable, and
only an `extend` of it changes its attributes. -/
inductive Touched (views : ViewHierarchy Item) (i : Nat) (call : MakerCall Item)
    (d d' : ConstraintDescription Item) : Prop where
  | kept (unread : call.reads i = false) (lazyConstraint : d'.lazyConstraint = d.lazyConstraint)
      (attributes : (∀ attributes, call ≠ .extend i attributes) → d'.attributes = d.attributes)
  | read (reads : call.reads i = true) (related : d.relation.isSome)
      (hread : d.readConstraint views = some d')

theorem relatedTo_keeps {d d' : ConstraintDescription Item} {other : ConstraintRelatableTarget Item}
    {relation : ConstraintRelation} {sourceLocation : String × Nat}
    (h : d.relatedTo other relation sourceLocation = some d') :
    d'.lazyConstraint = d.lazyConstraint ∧ d'.attributes = d.attributes := by
  cases other with
  | item other =>
    simp only [ConstraintDescription.relatedTo, Option.ite_none_right_eq_some,
      Option.some.injEq] at h
    obtain ⟨_, rfl⟩ := h
    exact ⟨rfl, rfl⟩
  | view other | constant other | layoutGuide other =>
    cases h
    exact ⟨rfl, rfl⟩

theorem touched_modify {i j : Nat} {call : MakerCall Item}
    {f : ConstraintDescription Item → Option (ConstraintDescription Item)}
    {d' : ConstraintDescription Item} (hmodify : maker.modify j f = some maker')
    (hd' : maker'.descriptions[i]? = some d') (hother : j ≠ i → call.reads i = false)
    (hf : j = i → ∀ d, f d = some d' → Touched views i call d d') :
    ∃ d, maker.descriptions[i]? = some d ∧ Touched views i call d d' := by
  obtain ⟨d, changed, hd, hchanged, rfl⟩ := modify_eq_some.mp hmodify
  by_cases hji : j = i
  · subst hji
    rw [List.getElem?_set_self (List.getElem?_eq_some_iff.mp hd).1, Option.some.injEq] at hd'
    exact ⟨d, hd, hf rfl d (hd' ▸ hchanged)⟩
  · rw [List.getElem?_set_ne hji] at hd'
    exact ⟨d', hd', .kept (hother hji) rfl fun _ => rfl⟩

theorem touched_edit {i j : Nat} {call : MakerCall Item}
    {f : ConstraintDescription Item → ConstraintDescription Item}
    {d' : ConstraintDescription Item} (hedit : maker.edit j f = some maker')
    (hd' : maker'.descriptions[i]? = some d') (unread : call.reads i = false)
    (hf : ∀ d, (f d).lazyConstraint = d.lazyConstraint ∧ (f d).attributes = d.attributes) :
    ∃ d, maker.descriptions[i]? = some d ∧ Touched views i call d d' := by
  refine touched_modify hedit hd' (fun _ => unread) fun _ d hchanged => ?_
  obtain ⟨_, hchanged⟩ := Option.ite_none_right_eq_some.mp hchanged
  cases hchanged
  exact .kept unread (hf d).1 fun _ => (hf d).2

theorem touched_call {i : Nat} {call : MakerCall Item} {d' : ConstraintDescription Item}
    (hcall : maker.call views call = some maker') (hd' : maker'.descriptions[i]? = some d') :
    (call.reads i = false ∧ maker.descriptions[i]? = none ∧ d'.lazyConstraint = none) ∨
      ∃ d, maker.descriptions[i]? = some d ∧ Touched views i call d d' := by
  cases call with
  | makeExtendableWithAttributes attributes =>
    cases hcall
    rw [List.getElem?_append] at hd'
    split at hd'
    next => exact .inr ⟨d', hd', .kept rfl rfl fun _ => rfl⟩
    next hlength =>
      rw [List.getElem?_singleton, Option.ite_none_right_eq_some, Option.some.injEq] at hd'
      obtain ⟨_, rfl⟩ := hd'
      exact .inl ⟨rfl, List.getElem?_eq_none (not_lt.mp hlength), rfl⟩
  | extend j attributes =>
    refine .inr (touched_modify hcall hd' (fun _ => rfl) ?_)
    rintro rfl d ⟨⟩
    exact .kept rfl rfl fun hnot => absurd rfl (hnot attributes)
  | relatedTo j other relation sourceLocation =>
    refine .inr (touched_modify hcall hd' (fun _ => rfl) fun _ d hrelate => ?_)
    exact .kept rfl (relatedTo_keeps hrelate).1 fun _ => (relatedTo_keeps hrelate).2
  | relatedToSuperview j relation sourceLocation =>
    refine .inr (touched_modify hcall hd' (fun _ => rfl) fun _ d hrelate => ?_)
    obtain ⟨superview, _, hrelate⟩ := Option.bind_eq_some_iff.mp hrelate
    exact .kept rfl (relatedTo_keeps hrelate).1 fun _ => (relatedTo_keeps hrelate).2
  | multipliedBy j amount | dividedBy j amount | offset j amount | inset j amount
  | priority j amount | labeled j label =>
    exact .inr (touched_edit hcall hd' rfl fun d => ⟨rfl, rfl⟩)
  | constraint j =>
    refine .inr (touched_modify hcall hd' (fun hji => by simpa [MakerCall.reads] using hji) ?_)
    rintro rfl d hread
    obtain ⟨hrelated, hread⟩ := Option.ite_none_right_eq_some.mp hread
    exact .read (by simp [MakerCall.reads]) hrelated hread

theorem lazyConstraint_of_unread {item : Item} {calls : List (MakerCall Item)} {i : Nat}
    {d : ConstraintDescription Item} (hcalls : closure views { item } calls = some maker)
    (hunread : ∀ call ∈ calls, call.reads i = false) (hd : maker.descriptions[i]? = some d) :
    d.lazyConstraint = none := by
  induction calls using List.reverseRecOn generalizing maker d with
  | nil =>
    cases hcalls
    cases hd
  | append_singleton calls call ih =>
    obtain ⟨before, hbefore, hcall⟩ := Loops.foldlM_concat_eq_some.mp hcalls
    have hunread' := fun call hmem => hunread call (List.mem_append_left _ hmem)
    rcases touched_call hcall hd with ⟨_, _, hnone⟩ | ⟨d', hd', htouched⟩
    · exact hnone
    · cases htouched with
      | kept _ hlazy => exact hlazy.trans (ih hbefore hunread' hd')
      | read hreads =>
        rw [hunread call (List.mem_concat_self)] at hreads
        cases hreads

theorem lazyConstraint_kept {calls : List (MakerCall Item)} {i : Nat}
    {d d' : ConstraintDescription Item} {c : Option (Constraint Item)}
    (hcalls : maker.closure views calls = some maker') (hd : maker.descriptions[i]? = some d)
    (hlazy : d.lazyConstraint = some c) (hd' : maker'.descriptions[i]? = some d') :
    d'.lazyConstraint = some c := by
  -- What was read is kept until the end.
  induction calls using List.reverseRecOn generalizing maker' d' with
  | nil =>
    cases hcalls
    rw [hd, Option.some.injEq] at hd'
    exact hd' ▸ hlazy
  | append_singleton calls call ih =>
    obtain ⟨before, hbefore, hcall⟩ := Loops.foldlM_concat_eq_some.mp hcalls
    have hlength := (closure_length hbefore).2
    have hthere := (List.getElem?_eq_some_iff.mp hd).1
    rcases touched_call hcall hd' with ⟨_, hnew, _⟩ | ⟨d₁, hd₁, htouched⟩
    · rw [List.getElem?_eq_none_iff] at hnew
      omega
    · have hlazy₁ := ih hbefore hd₁
      cases htouched with
      | kept _ hkept => exact hkept.trans hlazy₁
      | read _ _ hread =>
        simp only [ConstraintDescription.readConstraint, ConstraintDescription.constraint, hlazy₁,
          Option.bind_eq_bind, Option.bind_some, Option.some.injEq] at hread
        rw [← hread]

/-- The constraint of a description at the end is that of the description when it was read. -/
theorem constraint_of_descriptionRead {item : Item} {calls : List (MakerCall Item)} {i : Nat}
    {d : ConstraintDescription Item} (hcalls : closure views { item } calls = some maker)
    (hd : maker.descriptions[i]? = some d) :
    ∃ d', descriptionRead views item calls i = some d' ∧
      d'.relation.isSome = d.relation.isSome ∧
      d.constraint views = d'.makeConstraint views := by
  cases hfirst : calls.find? (·.reads i) with
  | none =>
    -- It is read only now.
    have hunread : ∀ call ∈ calls, call.reads i = false := by
      simpa using List.find?_eq_none.mp hfirst
    have hall : calls.takeWhile (fun call => !call.reads i) = calls :=
      List.takeWhile_eq_self_iff.mpr fun call hmem => by simp [hunread call hmem]
    refine ⟨d, by simp [descriptionRead, hall, hcalls, hd], rfl, ?_⟩
    rw [ConstraintDescription.constraint, lazyConstraint_of_unread hcalls hunread hd]
  | some call =>
    obtain ⟨hreads, before, after, rfl, hunread⟩ := List.find?_eq_some_iff_append.mp hfirst
    have hbefore : (before ++ call :: after).takeWhile (fun call => !call.reads i) = before := by
      rw [List.takeWhile_append_of_pos hunread, List.takeWhile_cons_of_neg (by simp [hreads]),
        List.append_nil]
    rw [closure_append] at hcalls
    obtain ⟨m₁, hm₁, hrest⟩ := Option.bind_eq_some_iff.mp hcalls
    obtain ⟨m₂, hcall, hafter⟩ := Option.bind_eq_some_iff.mp hrest
    obtain ⟨rfl⟩ : call = .constraint i := by
      cases call <;> simp_all [MakerCall.reads]
    obtain ⟨d₁, d₂, hd₁, hread, rfl⟩ := modify_eq_some.mp hcall
    obtain ⟨hrelated, hread⟩ := Option.ite_none_right_eq_some.mp hread
    have hlazy₁ := lazyConstraint_of_unread hm₁ (by simpa using hunread) hd₁
    obtain ⟨c, hc, hread⟩ := Option.bind_eq_some_iff.mp hread
    have hmade : d₁.makeConstraint views = some c := by
      rw [ConstraintDescription.constraint, hlazy₁] at hc
      exact hc
    cases hread
    have hlazy : d.lazyConstraint = some c :=
      lazyConstraint_kept hafter
        (List.getElem?_set_self (List.getElem?_eq_some_iff.mp hd₁).1) rfl hd
    have hsound :=
      ((sound_init views item).closure hm₁ |>.call hcall |>.closure hafter).descriptions d
        (List.mem_of_getElem? hd)
    refine ⟨d₁, by simp [descriptionRead, hbefore, hm₁, hd₁], ?_, ?_⟩
    · rw [hrelated, (hsound.lazyConstraint c hlazy).1]
    · rw [hmade, ConstraintDescription.constraint, hlazy]

theorem represents_reduceOption {descriptions : List (ConstraintDescription Item)}
    {cs : List (Option (Constraint Item))}
    (h : List.Forall₂ (fun d c => c.isSome = d.relation.isSome ∧
      ∀ constraint ∈ c, d.Represents views constraint) descriptions cs) :
    List.Forall₂ (ConstraintDescription.Represents views)
      (descriptions.filter (·.relation.isSome)) cs.reduceOption := by
  induction h with
  | nil => exact .nil
  | @cons d c descriptions cs hdc _ ih =>
    obtain ⟨hsome, hrepresents⟩ := hdc
    cases c with
    | none =>
      rw [Option.isSome_none] at hsome
      rw [List.filter_cons_of_neg (by simp [← hsome]), List.reduceOption_cons_of_none]
      exact ih
    | some constraint =>
      rw [Option.isSome_some] at hsome
      rw [List.filter_cons_of_pos (by rw [← hsome]), List.reduceOption_cons_of_some]
      exact .cons (hrepresents constraint rfl) ih

theorem represents_constraints {item : Item} {calls : List (MakerCall Item)}
    {cs : List (Option (Constraint Item))}
    (hcalls : closure views { item } calls = some maker)
    (hcs : maker.descriptions.mapM (fun d => d.constraint views) = some cs) :
    List.Forall₂ (ConstraintDescription.Represents views)
      (relatedDescriptions views item calls) cs.reduceOption := by
  have hturns := Loops.mapM_eq_some.mp hcs
  have hmade : cs.length = made calls := by
    rw [← hturns.length_eq]
    simpa using (closure_length hcalls).2
  have hsound := ((sound_init views item).closure hcalls).descriptions
  rw [relatedDescriptions, ← hmade]
  refine represents_reduceOption (Loops.forall₂_filterMap_range fun i c hc => ?_)
  obtain ⟨hi, rfl⟩ := List.getElem?_eq_some_iff.mp hc
  have hlength : i < maker.descriptions.length := hturns.length_eq ▸ hi
  have hconstraint := hturns.get hlength hi
  obtain ⟨d', hread, hrelated, hsame⟩ :=
    constraint_of_descriptionRead hcalls (List.getElem?_eq_getElem hlength)
  obtain ⟨c, hc, hsome, -⟩ := (hsound _ (List.getElem_mem hlength)).constraint
  obtain rfl : c = cs[i] := Option.some.inj (hc.symm.trans hconstraint)
  refine ⟨d', hread, hsome.trans hrelated.symm, fun constraint hmem => ?_⟩
  apply ConstraintDescription.represents_of_makeConstraint
  rw [← hsame, ← Option.mem_def.mp hmem]
  exact hconstraint

/-- **Preparing traps only where the closure does.** Each description that was related gives one
constraint, in their order, of what the description says when it is read. -/
theorem building_never_traps (views : ViewHierarchy Item) (item : Item)
    (calls : List (MakerCall Item)) :
    (prepareConstraints views item calls).isSome = (closure views { item } calls).isSome ∧
      ∀ maker constraints, closure views { item } calls = some maker →
        prepareConstraints views item calls = some constraints →
        constraints.length = maker.descriptions.countP (·.relation.isSome) ∧
          List.Forall₂ (ConstraintDescription.Represents views)
            (relatedDescriptions views item calls) constraints := by
  constructor
  · cases hcalls : closure views { item } calls with
    | none => simp [prepareConstraints, hcalls]
    | some maker =>
      obtain ⟨_, hprepare, _⟩ := prepareConstraints_of_closure hcalls
      rw [hprepare]
      rfl
  · intro maker constraints hcalls h
    obtain ⟨_, hprepare, hlength, _⟩ := prepareConstraints_of_closure hcalls
    rw [hprepare, Option.some.injEq] at h
    subst h
    refine ⟨hlength, ?_⟩
    obtain ⟨cs, hcs, rfl⟩ := (prepareConstraints_eq_some hcalls).mp hprepare
    exact represents_constraints hcalls hcs

/-! ## Chains of attributes -/

/-- `make.first.second.third` as the `i`-th description. -/
def chain (i : Nat) (first : ConstraintAttributes) (rest : List ConstraintAttributes) :
    List (MakerCall Item) :=
  .makeExtendableWithAttributes first :: rest.map (.extend i)

theorem call_extend (item : Item) (descriptions : List (ConstraintDescription Item))
    (d : ConstraintDescription Item) (attributes : ConstraintAttributes) :
    call views ⟨item, descriptions ++ [d]⟩ (.extend descriptions.length attributes) =
      some ⟨item, descriptions ++ [{ d with attributes := d.attributes + attributes }]⟩ := by
  simp [call, modify]

theorem closure_extend (item : Item) (descriptions : List (ConstraintDescription Item))
    (d : ConstraintDescription Item) (rest : List ConstraintAttributes) :
    closure views ⟨item, descriptions ++ [d]⟩ (rest.map (.extend descriptions.length)) =
      some ⟨item, descriptions ++ [{ d with attributes := rest.foldl (· + ·) d.attributes }]⟩ := by
  induction rest generalizing d with
  | nil => rfl
  | cons attributes rest ih =>
    rw [List.map_cons, closure, List.foldlM_cons, call_extend]
    exact ih { d with attributes := d.attributes + attributes }

theorem closure_chain (first : ConstraintAttributes) (rest : List ConstraintAttributes) :
    maker.closure views (chain maker.descriptions.length first rest) =
      some ⟨maker.item, maker.descriptions ++
        [{ item := maker.item, attributes := rest.foldl (· + ·) first }]⟩ :=
  closure_extend maker.item maker.descriptions { item := maker.item, attributes := first } rest

/-- A description with these attributes, now and when it was read. -/
def HasAttributes (attributes : ConstraintAttributes) (d : ConstraintDescription Item) : Prop :=
  d.attributes = attributes ∧ ∀ c, d.lazyConstraint = some (some c) →
    c.layoutConstraints.map (·.firstAttribute) = attributes.layoutAttributes

theorem HasAttributes.constraint {attributes : ConstraintAttributes}
    {d : ConstraintDescription Item} {c : Constraint Item} (h : HasAttributes attributes d)
    (hc : d.constraint views = some (some c)) :
    c.layoutConstraints.map (·.firstAttribute) = attributes.layoutAttributes := by
  unfold ConstraintDescription.constraint at hc
  split at hc
  next hlazy => exact h.2 c (hlazy.trans hc)
  next => exact h.1 ▸ (ConstraintDescription.represents_of_makeConstraint hc).attributes

theorem hasAttributes_chained (item : Item) (attributes : ConstraintAttributes) :
    HasAttributes attributes ({ item, attributes } : ConstraintDescription Item) :=
  ⟨rfl, fun _ hread => nomatch hread⟩

theorem HasAttributes.closure {calls : List (MakerCall Item)} {i : Nat}
    {attributes : ConstraintAttributes} {d d' : ConstraintDescription Item}
    (hcalls : maker.closure views calls = some maker') (hd : maker.descriptions[i]? = some d)
    (h : HasAttributes attributes d) (hnot : ∀ attributes, .extend i attributes ∉ calls)
    (hd' : maker'.descriptions[i]? = some d') : HasAttributes attributes d' := by
  induction calls using List.reverseRecOn generalizing maker' d' with
  | nil =>
    cases hcalls
    rw [hd, Option.some.injEq] at hd'
    exact hd' ▸ h
  | append_singleton calls call ih =>
    obtain ⟨mid, hmid, hcall⟩ := Loops.foldlM_concat_eq_some.mp hcalls
    have hlength := (closure_length hmid).2
    have hthere := (List.getElem?_eq_some_iff.mp hd).1
    rcases touched_call hcall hd' with ⟨_, hnew, _⟩ | ⟨d₁, hd₁, htouched⟩
    · rw [List.getElem?_eq_none_iff] at hnew
      omega
    · have hkept := ih hmid (fun a hmem => hnot a (List.mem_append_left _ hmem)) hd₁
      cases htouched with
      | kept _ hlazy hsame =>
        refine ⟨(hsame fun a hcall => hnot a (hcall ▸ List.mem_concat_self)).trans hkept.1, ?_⟩
        rw [hlazy]
        exact hkept.2
      | read _ _ hread =>
        obtain ⟨c, hc, hread⟩ := Option.bind_eq_some_iff.mp hread
        cases hread
        refine ⟨hkept.1, ?_⟩
        rintro c ⟨⟩
        exact hkept.constraint hc

theorem exists_mem_constraints {item : Item} {calls : List (MakerCall Item)} {i : Nat}
    {d : ConstraintDescription Item} {constraints : List (Constraint Item)}
    (hcalls : closure views { item } calls = some maker)
    (hprepare : prepareConstraints views item calls = some constraints)
    (hd : maker.descriptions[i]? = some d) (hrelated : d.relation.isSome) :
    ∃ c ∈ constraints, d.constraint views = some (some c) := by
  have hmem := List.mem_of_getElem? hd
  obtain ⟨c, hc, hsome, -⟩ :=
    (((sound_init views item).closure hcalls).descriptions d hmem).constraint
  obtain ⟨c, rfl⟩ := Option.isSome_iff_exists.mp (hsome.trans hrelated)
  obtain ⟨cs, hcs, rfl⟩ := (prepareConstraints_eq_some hcalls).mp hprepare
  refine ⟨c, List.reduceOption_mem_iff.mpr ?_, hc⟩
  obtain ⟨hi, rfl⟩ := List.getElem?_eq_some_iff.mp hd
  have hturns := Loops.mapM_eq_some.mp hcs
  have hi' : i < cs.length := hturns.length_eq ▸ hi
  have hturn := hturns.get hi hi'
  simp only [List.get_eq_getElem] at hturn
  rw [hc, Option.some.injEq] at hturn
  exact hturn ▸ List.getElem_mem hi'

/-- **The order of a chain does not matter, nor that it names an attribute twice**, wherever
it stands in the closure. Its constraint has the attributes in the order of the tests. -/
theorem chains_are_unordered (views : ViewHierarchy Item) (item : Item)
    (before after : List (MakerCall Item)) {first first' : ConstraintAttributes}
    {rest rest' : List ConstraintAttributes}
    (h : ∀ attributes, attributes ∈ first :: rest ↔ attributes ∈ first' :: rest') :
    prepareConstraints views item (before ++ (chain (made before) first rest ++ after)) =
        prepareConstraints views item (before ++ (chain (made before) first' rest' ++ after)) ∧
      ((∀ attributes, .extend (made before) attributes ∉ after) →
        ∀ maker constraints d,
          closure views { item } (before ++ (chain (made before) first rest ++ after)) =
            some maker →
          prepareConstraints views item (before ++ (chain (made before) first rest ++ after)) =
            some constraints →
          maker.descriptions[made before]? = some d → d.relation.isSome →
          ∃ c ∈ constraints, d.constraint views = some (some c) ∧
            c.layoutConstraints.map (·.firstAttribute) =
              (ConstraintAttributes.tests.map Prod.snd).filter fun attr =>
                (first' :: rest').any fun attributes =>
                  attributes.layoutAttributes.contains attr) := by
  have hsame := ConstraintAttributes.foldl_add_congr h
  constructor
  · simp only [prepareConstraints, closure_append]
    cases hbefore : closure views { item } before with
    | none => rfl
    | some maker =>
      have hlength : maker.descriptions.length = made before := by
        simpa using (closure_length hbefore).2
      simp only [Option.bind_some, ← hlength, closure_chain, hsame]
  · intro hafter maker constraints d hcalls hprepare hd hrelated
    obtain ⟨c, hmem, hc⟩ := exists_mem_constraints hcalls hprepare hd hrelated
    refine ⟨c, hmem, hc, ?_⟩
    rw [closure_append] at hcalls
    obtain ⟨start, hbefore, hrest⟩ := Option.bind_eq_some_iff.mp hcalls
    have hlength : start.descriptions.length = made before := by
      simpa using (closure_length hbefore).2
    rw [closure_append, ← hlength, closure_chain, Option.bind_some] at hrest
    rw [← hlength] at hafter hd
    have hchained : HasAttributes (rest.foldl (· + ·) first) d :=
      HasAttributes.closure hrest List.getElem?_concat_length (hasAttributes_chained _ _) hafter hd
    rw [hchained.constraint hc, hsame, ConstraintAttributes.layoutAttributes_foldl_add]

def topOfWindow : List (MakerCall Nat) :=
  [.makeExtendableWithAttributes .top, .relatedToSuperview 0 .equal ("Window.swift", 1)]

/-- The constraint of the second description is read before the third is made. -/
def squareAndLeft : List (MakerCall Nat) :=
  [.relatedTo 1 (.constant (.number 25)) .equal ("Window.swift", 2), .constraint 1,
    .makeExtendableWithAttributes .left, .relatedToSuperview 2 .equal ("Window.swift", 3)]

theorem width_and_height_are_unordered :
    ∃ constraints, prepareConstraints .window 1
        (topOfWindow ++ (chain 1 .height [.width, .width] ++ squareAndLeft)) = some constraints ∧
      ∃ c ∈ constraints, c.layoutConstraints.map (·.firstAttribute) = [.width, .height] := by
  have hsame : ∀ attributes, attributes ∈ [ConstraintAttributes.width, .height] ↔
      attributes ∈ [ConstraintAttributes.height, .width, .width] := by
    intro attributes
    simp only [List.mem_cons, List.not_mem_nil, or_false]
    tauto
  obtain ⟨heq, hattributes⟩ :=
    chains_are_unordered .window 1 topOfWindow squareAndLeft hsame
  have hrelated : ((closure .window { item := 1 } (topOfWindow ++
      (chain 1 .width [.height] ++ squareAndLeft))).bind (·.descriptions[1]?)).any
        (·.relation.isSome) = true := by decide +kernel
  obtain ⟨d, hd, hrelated⟩ := Option.any_eq_true _ _ |>.mp hrelated
  obtain ⟨maker, hmaker, hd⟩ := Option.bind_eq_some_iff.mp hd
  obtain ⟨constraints, hprepare, -⟩ := prepareConstraints_of_closure hmaker
  obtain ⟨c, hmem, -, hc⟩ :=
    hattributes (by simp [squareAndLeft]) maker constraints d hmaker hprepare hd hrelated
  exact ⟨constraints, heq ▸ hprepare, c, hmem, hc⟩

end ConstraintMaker

end FinanceApp
