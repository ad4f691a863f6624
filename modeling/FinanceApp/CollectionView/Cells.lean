import FinanceApp.Lib.Machine
import Mathlib.Logic.Function.Basic

/-!
# Adapters and cells

A collection view controller keeps an adapter for each class of objects. The nibs of their
cells are registered under the class names once, in `viewDidLoad`; cells are dequeued for
whatever objects the data source has.
-/

namespace FinanceApp

/-- `String(describing: type(of: object))` -/
class ClassDescribed (T : Type) where
  stringClass : T → String

export ClassDescribed (stringClass)

/-- An adapter object. `cellClass` is the name of the class it returns. -/
structure ATCGenericCollectionRowAdapter where
  id : Nat
  cellClass : String
  deriving DecidableEq, Repr

/-- What a controller needs for its cells. `object` is `genericDataSource?.object(at:)`,
`registered` has the nib name of each reuse identifier of the collection view. -/
structure CellsScreen (T : Type) where
  adapterStore : String → Option ATCGenericCollectionRowAdapter
  registered : String → Option String := fun _ => none
  object : Nat → Option T := fun _ => none
  crashed : Bool := false

inductive CellsAction (T : Type) where
  | use (adapter : ATCGenericCollectionRowAdapter) (classString : String)
  | viewDidLoad
  | changeObjects (object : Nat → Option T)
  | cellForItemAt (row : Nat)

/-- A cell of a nib, by its identifier and the adapter that configured it, or the exception
of an identifier that is not registered. -/
inductive CellsEvent where
  | nothing
  | cell (identifier nibName : String) (configuredBy : Option ATCGenericCollectionRowAdapter)
  | unregistered (identifier : String)
  deriving DecidableEq, Repr

variable {T : Type} [ClassDescribed T]

namespace CellsScreen

/-- The store after `init`. -/
def start (carousel : ATCGenericCollectionRowAdapter) : CellsScreen T where
  adapterStore := Function.update (fun _ => none) "ATCCarouselViewModel" (some carousel)

variable (s : CellsScreen T)

def use (adapter : ATCGenericCollectionRowAdapter) (classString : String) : CellsScreen T :=
  { s with adapterStore := Function.update s.adapterStore classString (some adapter) }

/-- A new nib replaces the one registered before. -/
def registerReuseIdentifiers : CellsScreen T :=
  { s with registered := fun key =>
      match s.adapterStore key with
      | some adapter => some adapter.cellClass
      | none => s.registered key }

def dequeueReusableCell (identifier : String)
    (configuredBy : Option ATCGenericCollectionRowAdapter) : CellsEvent :=
  match s.registered identifier with
  | some nibName => .cell identifier nibName configuredBy
  | none => .unregistered identifier

def cellForItemAt (row : Nat) : CellsEvent :=
  match s.object row with
  | some object =>
    s.dequeueReusableCell (stringClass object) (s.adapterStore (stringClass object))
  | none => s.dequeueReusableCell "UICollectionViewCell" none

/-- Nothing follows an exception. -/
def step (action : CellsAction T) : Option (CellsScreen T × CellsEvent) :=
  if s.crashed then none
  else
    match action with
    | .use adapter classString => some (s.use adapter classString, .nothing)
    | .viewDidLoad => some (s.registerReuseIdentifiers, .nothing)
    | .changeObjects object => some ({ s with object }, .nothing)
    | .cellForItemAt row =>
      match s.cellForItemAt row with
      | .unregistered identifier => some ({ s with crashed := true }, .unregistered identifier)
      | event => some (s, event)

def machine : Machine (CellsScreen T) (CellsAction T) CellsEvent := ⟨step⟩

/-! ## The history of the two tables -/

def addUsed (store : String → Option ATCGenericCollectionRowAdapter) :
    CellsAction T → String → Option ATCGenericCollectionRowAdapter
  | .use adapter classString => Function.update store classString (some adapter)
  | _ => store

/-- The adapters that a controller used, the last one for each class. -/
def used (carousel : ATCGenericCollectionRowAdapter) (actions : List (CellsAction T)) :
    String → Option ATCGenericCollectionRowAdapter :=
  actions.foldl addUsed (Function.update (fun _ => none) "ATCCarouselViewModel" (some carousel))

omit [ClassDescribed T] in
theorem used_concat (carousel : ATCGenericCollectionRowAdapter) (actions : List (CellsAction T))
    (action : CellsAction T) :
    used carousel (actions ++ [action]) = addUsed (used carousel actions) action := by
  rw [used, List.foldl_append]
  rfl

def isLoad : CellsAction T → Bool
  | .viewDidLoad => true
  | _ => false

/-- The actions before the last `viewDidLoad`. -/
def untilLoad (actions : List (CellsAction T)) : Option (List (CellsAction T)) :=
  match actions.reverse.dropWhile fun action => !isLoad action with
  | [] => none
  | _ :: before => some before.reverse

omit [ClassDescribed T] in
theorem untilLoad_concat (actions : List (CellsAction T)) (action : CellsAction T) :
    untilLoad (actions ++ [action]) =
      if isLoad action then some actions else untilLoad actions := by
  cases hload : isLoad action <;> simp [untilLoad, hload]

/-- What the tables are after the actions. -/
structure Tables (carousel : ATCGenericCollectionRowAdapter) (actions : List (CellsAction T))
    (s : CellsScreen T) : Prop where
  store : s.adapterStore = used carousel actions
  registered : ∀ key, s.registered key =
    (untilLoad actions).bind fun before => (used carousel before key).map (·.cellClass)
  stored : ∀ key, s.adapterStore key = none → s.registered key = none

omit [ClassDescribed T] in
theorem dequeueReusableCell_eq_cell_iff {identifier identifier' nibName : String}
    {configuredBy configuredBy' : Option ATCGenericCollectionRowAdapter} :
    s.dequeueReusableCell identifier configuredBy = .cell identifier' nibName configuredBy' ↔
      identifier = identifier' ∧ s.registered identifier = some nibName ∧
        configuredBy = configuredBy' := by
  unfold dequeueReusableCell
  cases s.registered identifier <;> simp

variable {s}

theorem step_cases {s' : CellsScreen T} {action : CellsAction T} {event : CellsEvent}
    (h : s.step action = some (s', event)) :
    (∃ adapter classString, action = .use adapter classString ∧ s' = s.use adapter classString) ∨
    (action = .viewDidLoad ∧ s' = s.registerReuseIdentifiers) ∨
    (∃ object, action = .changeObjects object ∧ s' = { s with object }) ∨
    (∃ row crashed, action = .cellForItemAt row ∧ s' = { s with crashed } ∧
      event = s.cellForItemAt row) := by
  unfold step at h
  split at h
  · cases h
  · cases action with
    | use adapter classString =>
      cases h
      exact .inl ⟨adapter, classString, rfl, rfl⟩
    | viewDidLoad =>
      cases h
      exact .inr (.inl ⟨rfl, rfl⟩)
    | changeObjects object =>
      cases h
      exact .inr (.inr (.inl ⟨object, rfl, rfl⟩))
    | cellForItemAt row =>
      refine .inr (.inr (.inr ⟨row, s'.crashed, rfl, ?_⟩))
      simp only at h
      split at h
      · next hevent =>
        cases h
        exact ⟨rfl, hevent.symm⟩
      · cases h
        exact ⟨rfl, rfl⟩

section Runs

variable {carousel : ATCGenericCollectionRowAdapter} {actions : List (CellsAction T)}

theorem Tables.step {s' : CellsScreen T} {action : CellsAction T} {event : CellsEvent}
    (h : Tables carousel actions s) (hstep : s.step action = some (s', event)) :
    Tables carousel (actions ++ [action]) s' := by
  rcases step_cases hstep with ⟨adapter, classString, rfl, rfl⟩ | ⟨rfl, rfl⟩ | ⟨object, rfl, rfl⟩ |
    ⟨row, crashed, rfl, rfl, _⟩
  · constructor
    · rw [used_concat, ← h.store]
      rfl
    · intro key
      rw [untilLoad_concat]
      exact h.registered key
    · intro key hnone
      apply h.stored
      by_contra hne
      refine absurd hnone ?_
      rcases eq_or_ne key classString with rfl | hkey
      · simp [use]
      · simpa [use, Function.update_of_ne hkey] using hne
  · constructor
    · rw [used_concat]
      exact h.store
    · intro key
      rw [untilLoad_concat, isLoad, if_pos rfl, Option.bind_some, ← h.store]
      simp only [registerReuseIdentifiers]
      cases hstored : s.adapterStore key with
      | none => exact h.stored key hstored
      | some adapter => rfl
    · intro key hnone
      have hnone : s.adapterStore key = none := hnone
      simp only [registerReuseIdentifiers, hnone]
      exact h.stored key hnone
  all_goals
    refine ⟨?_, fun key => ?_, h.stored⟩
    · rw [used_concat]
      exact h.store
    · rw [untilLoad_concat]
      exact h.registered key

theorem tables_of_run {log : List CellsEvent}
    (h : machine.run (start carousel) actions = some (s, log)) : Tables carousel actions s := by
  induction actions using List.reverseRecOn generalizing s log with
  | nil =>
    cases h
    exact ⟨rfl, fun _ => rfl, fun _ _ => rfl⟩
  | append_singleton actions action ih =>
    obtain ⟨s₁, log₁, event, hrun, hstep, rfl⟩ := machine.run_concat_eq_some.mp h
    exact (ih hrun).step hstep

end Runs

/-! ## Cells for adapters -/

/-- An object whose class has an adapter gets a cell of the nib of that adapter, which then
configures it. -/
def CellMatches (s : CellsScreen T) (action : CellsAction T) (_ : CellsScreen T)
    (event : CellsEvent) : Prop :=
  ∀ row object adapter, action = .cellForItemAt row → s.object row = some object →
    s.adapterStore (stringClass object) = some adapter →
      event = .cell (stringClass object) adapter.cellClass (some adapter)

/-- A class has had an adapter of the same cell class since before the last `viewDidLoad`. -/
def UsedBeforeLoad (carousel : ATCGenericCollectionRowAdapter) (actions : List (CellsAction T))
    (classString : String) : Prop :=
  ∃ before, untilLoad actions = some before ∧
    (used carousel before classString).map (·.cellClass) =
      (used carousel actions classString).map (·.cellClass)

theorem running_of_step {s' : CellsScreen T} {action : CellsAction T} {event : CellsEvent}
    (h : s.step action = some (s', event)) : s.crashed = false := by
  by_contra hcrashed
  rw [Bool.not_eq_false] at hcrashed
  unfold step at h
  rw [if_pos hcrashed] at h
  cases h

theorem exists_step_cellForItemAt (hrunning : s.crashed = false) (row : Nat) :
    ∃ s' event, s.step (.cellForItemAt row) = some (s', event) := by
  unfold step
  rw [hrunning, if_neg (by decide)]
  simp only
  split <;> exact ⟨_, _, rfl⟩

theorem event_of_step_cellForItemAt {s' : CellsScreen T} {row : Nat} {event : CellsEvent}
    (h : s.step (.cellForItemAt row) = some (s', event)) : event = s.cellForItemAt row := by
  rcases step_cases h with ⟨_, _, h, _⟩ | ⟨h, _⟩ | ⟨_, h, _⟩ | ⟨row', _, h, _, hevent⟩
  · cases h
  · cases h
  · cases h
  · cases h
    exact hevent

theorem Tables.matches_iff {carousel : ATCGenericCollectionRowAdapter}
    {actions : List (CellsAction T)} (h : Tables carousel actions s) {row : Nat} {object : T}
    {adapter : ATCGenericCollectionRowAdapter} (hobject : s.object row = some object)
    (hadapter : s.adapterStore (stringClass object) = some adapter) :
    s.cellForItemAt row = .cell (stringClass object) adapter.cellClass (some adapter) ↔
      UsedBeforeLoad carousel actions (stringClass object) := by
  have hused : used carousel actions (stringClass object) = some adapter := by
    rw [← h.store, hadapter]
  have hcell : s.cellForItemAt row = s.dequeueReusableCell (stringClass object) (some adapter) := by
    rw [cellForItemAt, hobject, ← hadapter]
  rw [hcell, dequeueReusableCell_eq_cell_iff, h.registered, UsedBeforeLoad, hused]
  simp [Option.bind_eq_some_iff]

/-- **Cells match their adapters exactly in the runs where, at each request for an object of
a class with an adapter, the class has had an adapter of its cell class since before the last
`viewDidLoad`.** -/
theorem cells_match_adapters_iff (carousel : ATCGenericCollectionRowAdapter)
    (actions : List (CellsAction T)) :
    machine.Always CellMatches (start carousel) actions ↔
      ∀ before row after s log object, actions = before ++ .cellForItemAt row :: after →
        machine.run (start carousel) before = some (s, log) → s.crashed = false →
          s.object row = some object → used carousel before (stringClass object) ≠ none →
            UsedBeforeLoad carousel before (stringClass object) := by
  constructor
  · intro halways before row after s log object hactions hrun hrunning hobject hne
    have htables := tables_of_run hrun
    obtain ⟨adapter, hadapter⟩ := Option.ne_none_iff_exists'.mp hne
    rw [← htables.store] at hadapter
    obtain ⟨s', event, hstep⟩ := exists_step_cellForItemAt hrunning row
    have hmatches := halways before _ after s log s' event hactions hrun hstep row object adapter
      rfl hobject hadapter
    rw [event_of_step_cellForItemAt hstep] at hmatches
    exact (htables.matches_iff hobject hadapter).mp hmatches
  · intro hinTime before action after s log s' event hactions hrun hstep row object adapter
    rintro rfl hobject hadapter
    have htables := tables_of_run hrun
    have hstep : s.step (.cellForItemAt row) = some (s', event) := hstep
    have hne : used carousel before (stringClass object) ≠ none := by
      rw [← htables.store, hadapter]
      simp
    rw [event_of_step_cellForItemAt hstep]
    exact (htables.matches_iff hobject hadapter).mpr
      (hinTime before row after s log object hactions hrun (running_of_step hstep) hobject hne)

theorem late_adapter_has_no_cells :
    ¬∀ (T : Type) (_ : ClassDescribed T) (carousel : ATCGenericCollectionRowAdapter)
      (actions : List (CellsAction T)), machine.Always CellMatches (start carousel) actions := by
  -- An adapter used after `viewDidLoad` has no identifier to dequeue its cells under.
  intro hall
  let adapter : ATCGenericCollectionRowAdapter := ⟨1, "FinanceAssetCollectionViewCell"⟩
  let before : List (CellsAction Unit) :=
    [.viewDidLoad, .use adapter "ATCFinanceAsset", .changeObjects fun _ => some ()]
  have halways := hall Unit ⟨fun _ => "ATCFinanceAsset"⟩ ⟨0, "ATCCarouselCollectionViewCell"⟩
    (before ++ [.cellForItemAt 0])
  have hcell := halways before _ [] _ _ _ (.unregistered "ATCFinanceAsset") rfl rfl rfl 0 ()
    adapter rfl rfl (by simp [start, use])
  cases hcell

end CellsScreen

end FinanceApp
