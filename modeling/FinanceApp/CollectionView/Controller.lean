import FinanceApp.DataSources
import Mathlib.Logic.Function.Basic

/-!
# A collection view controller and its data sources

What `ATCGenericCollectionViewController` does with its `genericDataSource`, and the
machine of one controller among any number of data source objects. UIKit's collection
view is the number of rows it shows: `reloadData` sets it from the data source,
`insertItems` in a batch update adds to it.
-/

namespace FinanceApp

variable {T : Type}

/-- `genericDataSource` is a reference: the place of the source among all sources. -/
structure ATCGenericCollectionViewController where
  pullToRefreshEnabled : Bool
  genericDataSource : Option Nat := none
  rows : Nat := 0
  activityIndicatorIsAnimating : Bool := false
  refreshControlIsRefreshing : Bool := false

/-- The controller, the data sources by reference, and which of them have the controller
as their `delegate`. -/
structure ListScreen (T : Type) where
  controller : ATCGenericCollectionViewController
  sources : Nat → DataSource T
  delegateIsController : Nat → Bool := fun _ => false

inductive ViewUpdate where
  | reloadData
  | insertItems (rows : List Int)
  deriving DecidableEq, Repr

/-- The delegate call that reached the controller, and what it did to the collection view. -/
structure ScreenEvent (T : Type) where
  received : Option (Nat × DelegateCall T) := none
  update : Option ViewUpdate := none

inductive ScreenAction (T : Type) where
  | setDataSource (source : Option Nat)
  | viewDidLoad
  | didPullToRefresh
  | willDisplay (row : Nat)
  | reloadCollectionView
  | source (id : Nat) (action : DataSourceAction T)

namespace ListScreen

/-! ## The methods of the controller -/

def numberOfItemsInSection (s : ListScreen T) : Nat :=
  match s.controller.genericDataSource with
  | some id => (s.sources id).numberOfObjects
  | none => 0

/-- `didSet` makes the controller the delegate of the new source. The old one keeps it too. -/
def setDataSource (s : ListScreen T) (source : Option Nat) : ListScreen T :=
  { s with
    controller := { s.controller with genericDataSource := source }
    delegateIsController := match source with
      | some id => Function.update s.delegateIsController id true
      | none => s.delegateIsController }

def reloadCollectionView (s : ListScreen T) : ListScreen T × ViewUpdate :=
  ({ s with controller := { s.controller with rows := s.numberOfItemsInSection } }, .reloadData)

def didLoadFirst (s : ListScreen T) : ListScreen T × ViewUpdate :=
  reloadCollectionView
    { s with controller := { s.controller with activityIndicatorIsAnimating := false } }

def didLoadBottom (s : ListScreen T) (dataSource : Nat) (objects : List T) :
    ListScreen T × ViewUpdate :=
  let offset : Int := (s.sources dataSource).numberOfObjects - objects.length
  let indexPaths := (List.range objects.length).map fun i : Nat => offset + i
  ({ s with controller := { s.controller with rows := s.controller.rows + indexPaths.length } },
    .insertItems indexPaths)

def didLoadTop (s : ListScreen T) : ListScreen T × ViewUpdate :=
  reloadCollectionView
    (if s.controller.pullToRefreshEnabled then
      { s with controller := { s.controller with refreshControlIsRefreshing := false } }
    else s)

def receive (s : ListScreen T) (dataSource : Nat) : DelegateCall T → ListScreen T × ViewUpdate
  | .didLoadFirst _ => s.didLoadFirst
  | .didLoadBottom objects => s.didLoadBottom dataSource objects
  | .didLoadTop _ => s.didLoadTop

/-! ## Steps -/

variable [CanonicalForm] [ATCGenericBaseModel T]

def callSource (s : ListScreen T) (id : Nat) (action : DataSourceAction T) :
    Option (ListScreen T × ScreenEvent T) :=
  match (s.sources id).step action with
  | none => none
  | some (source, call) =>
    let s := { s with sources := Function.update s.sources id source }
    match call, s.delegateIsController id with
    | some call, true =>
      let (s, update) := s.receive id call
      some (s, ⟨some (id, call), some update⟩)
    | _, _ => some (s, {})

/-- `genericDataSource?.loadFirst()`, and the like. -/
def callCurrent (s : ListScreen T) (call : Load) : Option (ListScreen T × ScreenEvent T) :=
  match s.controller.genericDataSource with
  | some id => s.callSource id (.load call)
  | none => some (s, {})

/-- `reloadCollectionView` is the call of a child controller, `source` any other use of a source. -/
def step (s : ListScreen T) : ScreenAction T → Option (ListScreen T × ScreenEvent T)
  | .setDataSource source => some (s.setDataSource source, {})
  | .viewDidLoad =>
    callCurrent { s with controller := { s.controller with activityIndicatorIsAnimating := true } }
      .loadFirst
  | .didPullToRefresh =>
    if s.controller.pullToRefreshEnabled then
      callCurrent { s with controller := { s.controller with refreshControlIsRefreshing := true } }
        .loadTop
    else none
  | .willDisplay row =>
    if row + 1 ≥ s.numberOfItemsInSection then s.callCurrent .loadBottom else some (s, {})
  | .reloadCollectionView =>
    let (s, update) := s.reloadCollectionView
    some (s, { update := some update })
  | .source id action => s.callSource id action

def machine : Machine (ListScreen T) (ScreenAction T) (ScreenEvent T) := ⟨step⟩

/-! ## What a step can do -/

/-- The screen with its two spinners set, which no list depends on. -/
def withSpinners (s : ListScreen T) (activityIndicator refreshControl : Bool) : ListScreen T :=
  { s with controller := { s.controller with
      activityIndicatorIsAnimating := activityIndicator
      refreshControlIsRefreshing := refreshControl } }

def setSource (s : ListScreen T) (id : Nat) (source : DataSource T) : ListScreen T :=
  { s with sources := Function.update s.sources id source }

theorem callSource_cases {s s' : ListScreen T} {id : Nat} {action : DataSourceAction T}
    {e : ScreenEvent T} (h : s.callSource id action = some (s', e)) :
    ∃ source call, (s.sources id).step action = some (source, call) ∧
      ((call = none ∨ s.delegateIsController id = false) ∧ s' = s.setSource id source ∧ e = {} ∨
        ∃ c, call = some c ∧ s.delegateIsController id = true ∧
          s' = ((s.setSource id source).receive id c).1 ∧
          e = ⟨some (id, c), some ((s.setSource id source).receive id c).2⟩) := by
  simp only [callSource] at h
  cases hstep : (s.sources id).step action with
  | none => simp [hstep] at h
  | some r =>
    obtain ⟨source, call⟩ := r
    refine ⟨source, call, rfl, ?_⟩
    simp only [hstep] at h
    cases call with
    | none => cases h; exact .inl ⟨.inl rfl, rfl, rfl⟩
    | some c =>
      cases hdelegate : s.delegateIsController id with
      | false =>
        simp only [hdelegate] at h
        cases h
        exact .inl ⟨.inr rfl, rfl, rfl⟩
      | true =>
        simp only [hdelegate] at h
        cases h
        exact .inr ⟨c, rfl, rfl, rfl, rfl⟩

theorem step_cases {s s' : ListScreen T} {a : ScreenAction T} {e : ScreenEvent T}
    (h : machine.step s a = some (s', e)) :
    (∃ source, a = .setDataSource source ∧ s' = s.setDataSource source ∧ e = {}) ∨
    (a = .reloadCollectionView ∧ s' = s.reloadCollectionView.1 ∧
      e = { update := some s.reloadCollectionView.2 }) ∨
    (∃ x y, s' = s.withSpinners x y ∧ e = {} ∧ ∀ source, a ≠ .setDataSource source) ∨
    (∃ x y id action, (s.withSpinners x y).callSource id action = some (s', e) ∧
      ∀ source, a ≠ .setDataSource source) := by
  have hcurrent : ∀ x y call, (s.withSpinners x y).callCurrent call = some (s', e) →
      (∀ source, a ≠ .setDataSource source) →
      (∃ x y, s' = s.withSpinners x y ∧ e = {} ∧ ∀ source, a ≠ .setDataSource source) ∨
      (∃ x y id action, (s.withSpinners x y).callSource id action = some (s', e) ∧
        ∀ source, a ≠ .setDataSource source) := by
    intro x y call hcall hne
    simp only [callCurrent] at hcall
    split at hcall
    · exact .inr ⟨x, y, _, _, hcall, hne⟩
    · cases hcall; exact .inl ⟨x, y, rfl, rfl, hne⟩
  cases a with
  | setDataSource source => cases h; exact .inl ⟨source, rfl, rfl, rfl⟩
  | viewDidLoad => exact .inr (.inr (hcurrent true _ .loadFirst h (by simp)))
  | didPullToRefresh =>
    simp only [machine, step] at h
    split at h
    · exact .inr (.inr (hcurrent _ true .loadTop h (by simp)))
    · cases h
  | willDisplay row =>
    simp only [machine, step] at h
    split at h
    · exact .inr (.inr (hcurrent _ _ .loadBottom h (by simp)))
    · cases h; exact .inr (.inr (.inl ⟨_, _, rfl, rfl, by simp⟩))
  | reloadCollectionView => cases h; exact .inr (.inl ⟨rfl, rfl, rfl⟩)
  | source id action => exact .inr (.inr (.inr ⟨_, _, id, action, h, by simp⟩))

end ListScreen

end FinanceApp
