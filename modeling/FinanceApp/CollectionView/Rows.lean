import FinanceApp.CollectionView.Controller
import FinanceApp.RestDataSource.Merge
import Mathlib.Data.List.Nodup

/-!
# The rows shown by one source

With one data source attached from empty, the collection view has as many rows as the
source has objects whenever no source is at work, and a batch update inserts exactly
the rows of the objects it reports.
-/

namespace FinanceApp

namespace ListScreen

variable {T : Type}

/-! ## What the methods keep -/

theorem receive_keeps (s : ListScreen T) (id : Nat) (call : DelegateCall T) :
    (s.receive id call).1.sources = s.sources ∧
      (s.receive id call).1.delegateIsController = s.delegateIsController ∧
      (s.receive id call).1.controller.genericDataSource = s.controller.genericDataSource := by
  cases call with
  | didLoadFirst objects => exact ⟨rfl, rfl, rfl⟩
  | didLoadBottom objects => exact ⟨rfl, rfl, rfl⟩
  | didLoadTop objects =>
    simp only [receive, didLoadTop, reloadCollectionView]
    split <;> exact ⟨rfl, rfl, rfl⟩

theorem receive_numberOfItems (s : ListScreen T) (id : Nat) (call : DelegateCall T) :
    (s.receive id call).1.numberOfItemsInSection = s.numberOfItemsInSection := by
  obtain ⟨hsources, _, hcurrent⟩ := s.receive_keeps id call
  rw [numberOfItemsInSection, numberOfItemsInSection, hsources, hcurrent]

theorem receive_rows (s : ListScreen T) (id : Nat) (call : DelegateCall T) :
    (∃ objects, call = .didLoadBottom objects ∧
      (s.receive id call).1.controller.rows = s.controller.rows + objects.length ∧
      (s.receive id call).2 = .insertItems ((List.range objects.length).map fun i : Nat =>
        (((s.sources id).numberOfObjects : Int) - objects.length) + i)) ∨
    ((∀ objects, call ≠ .didLoadBottom objects) ∧
      (s.receive id call).1.controller.rows = s.numberOfItemsInSection ∧
      (s.receive id call).2 = .reloadData) := by
  -- A `didLoadBottom` inserts as many rows as it reports objects; the other calls reload.
  cases call with
  | didLoadFirst objects => exact .inr ⟨by simp, rfl, rfl⟩
  | didLoadBottom objects => exact .inl ⟨objects, rfl, by simp [receive, didLoadBottom], rfl⟩
  | didLoadTop objects =>
    refine .inr ⟨by simp, ?_, rfl⟩
    simp only [receive, didLoadTop, reloadCollectionView]
    split <;> rfl

theorem setSource_numberOfItems_self {s : ListScreen T} {id : Nat} (source : DataSource T)
    (h : s.controller.genericDataSource = some id) :
    (s.setSource id source).numberOfItemsInSection = source.objects.length := by
  simp [numberOfItemsInSection, setSource, h]

theorem setSource_numberOfItems_other {s : ListScreen T} {id : Nat} (source : DataSource T)
    (h : s.controller.genericDataSource ≠ some id) :
    (s.setSource id source).numberOfItemsInSection = s.numberOfItemsInSection := by
  simp only [numberOfItemsInSection, setSource]
  cases hcurrent : s.controller.genericDataSource with
  | none => rfl
  | some current =>
    have hne : current ≠ id := fun he => h (by rw [hcurrent, he])
    simp [Function.update_of_ne hne]

/-! ## The invariant -/

/-- The source `id`, and no other, is attached, and its objects are the rows shown. -/
structure Attached (id : Nat) (s : ListScreen T) : Prop where
  current : s.controller.genericDataSource = some id
  delegate : s.delegateIsController id = true
  others : ∀ other, other ≠ id → s.delegateIsController other = false
  rows : s.controller.rows = s.numberOfItemsInSection

def attached (pullToRefreshEnabled : Bool) (sources : Nat → DataSource T) (id : Nat) :
    ListScreen T :=
  setDataSource { controller := { pullToRefreshEnabled }, sources } (some id)

theorem attached_start {sources : Nat → DataSource T} {id : Nat}
    {configuration : ATCGenericRestAPIDataSourceConfiguration} (pullToRefreshEnabled : Bool)
    (h : sources id = .rest (.initial configuration)) :
    Attached id (attached pullToRefreshEnabled sources id) := by
  refine ⟨rfl, by simp [attached, setDataSource], fun other hne => ?_, ?_⟩
  · simp [attached, setDataSource, Function.update_of_ne hne]
  · simp only [attached, setDataSource, numberOfItemsInSection, h]
    rfl

/-- Each batch update adds, to rows that matched the data source, distinct and consecutive
rows that end at its last object, and they are the positions of the objects reported. -/
def InsertsMatch (s : ListScreen T) (_ : ScreenAction T) (s' : ListScreen T) (e : ScreenEvent T) :
    Prop :=
  ∀ rows, e.update = some (.insertItems rows) → ∃ id objects,
    s'.controller.genericDataSource = some id ∧ e.received = some (id, .didLoadBottom objects) ∧
    s.controller.rows + rows.length = (s'.sources id).numberOfObjects ∧
    rows.Nodup ∧ rows = (List.range' s.controller.rows objects.length).map Int.ofNat ∧
    ∀ i, i < objects.length → (s'.sources id).objects[s.controller.rows + i]? = objects[i]?

theorem Attached.setSource {id other : Nat} {s : ListScreen T} {source : DataSource T}
    {call : Option (DelegateCall T)} (hs : Attached id s)
    (hsilent : call = none ∨ s.delegateIsController other = false)
    (hmatch : DataSource.CallMatches (s.sources other) source call) :
    Attached id (s.setSource other source) := by
  obtain ⟨current, delegate, others, rows⟩ := hs
  refine ⟨current, delegate, others, ?_⟩
  by_cases hid : other = id
  · subst hid
    have hnone : call = none := hsilent.resolve_right (by simp [delegate])
    rw [hnone] at hmatch
    rw [setSource_numberOfItems_self _ current, hmatch]
    show s.controller.rows = _
    simpa [numberOfItemsInSection, current] using rows
  · have hne : s.controller.genericDataSource ≠ some other := by
      rw [current]; simpa using Ne.symm hid
    rw [setSource_numberOfItems_other _ hne]
    exact rows

theorem receive_attached {id : Nat} {s : ListScreen T} {source : DataSource T}
    {c : DelegateCall T} {a : ScreenAction T} (hs : Attached id s)
    (hmatch : DataSource.CallMatches (s.sources id) source (some c)) :
    Attached id ((s.setSource id source).receive id c).1 ∧
      InsertsMatch s a ((s.setSource id source).receive id c).1
        ⟨some (id, c), some ((s.setSource id source).receive id c).2⟩ := by
  obtain ⟨current, delegate, others, rows⟩ := hs
  obtain ⟨hsources, hdelegates, hcurrent⟩ := (s.setSource id source).receive_keeps id c
  have hcount : s.numberOfItemsInSection = (s.sources id).objects.length := by
    simp [numberOfItemsInSection, current]
  have hself : (s.setSource id source).sources id = source := by simp [setSource]
  have hattached : ((s.setSource id source).receive id c).1.controller.rows =
      ((s.setSource id source).receive id c).1.numberOfItemsInSection →
        Attached id ((s.setSource id source).receive id c).1 := fun hrows =>
    ⟨hcurrent.trans current, by rw [hdelegates]; exact delegate,
      fun other hne => by rw [hdelegates]; exact others other hne, hrows⟩
  rcases (s.setSource id source).receive_rows id c with
    ⟨objects, rfl, hrows, hupdate⟩ | ⟨hne, hrows, hupdate⟩
  · have happend : source.objects = (s.sources id).objects ++ objects := hmatch
    have hlength : source.objects.length = s.controller.rows + objects.length := by
      rw [happend, List.length_append, rows, hcount]
    have hpositions : ((List.range objects.length).map fun i : Nat =>
        ((source.objects.length : Int) - objects.length) + i) =
        (List.range' s.controller.rows objects.length).map Int.ofNat := by
      rw [List.range'_eq_map_range, List.map_map]
      refine List.map_congr_left fun i _ => ?_
      simp only [Function.comp_apply, Int.ofNat_eq_natCast, hlength]
      omega
    refine ⟨hattached ?_, ?_⟩
    · rw [hrows, receive_numberOfItems, setSource_numberOfItems_self _ current, hlength]
      rfl
    · intro inserted hinserted
      obtain rfl := ViewUpdate.insertItems.inj (Option.some.inj (hupdate ▸ hinserted))
      rw [hself, DataSource.numberOfObjects_eq, hpositions]
      refine ⟨id, objects, hcurrent.trans current, rfl, ?_, ?_, rfl, ?_⟩
      · rw [hsources, hself, DataSource.numberOfObjects_eq, hlength]
        simp
      · exact List.Nodup.map (fun _ _ he => Int.ofNat.inj he) (List.nodup_range')
      · intro i hi
        rw [hsources, hself, happend, rows, hcount,
          List.getElem?_append_right (Nat.le_add_right _ _), Nat.add_sub_cancel_left]
  · refine ⟨hattached ?_, ?_⟩
    · rw [hrows, receive_numberOfItems]
    · intro inserted hinserted
      rw [hupdate] at hinserted
      cases hinserted

variable [CanonicalForm] [ATCGenericBaseModel T]

theorem callSource_attached {id : Nat} {s s' : ListScreen T} {other : Nat}
    {action : DataSourceAction T} {e : ScreenEvent T} {a : ScreenAction T} (hs : Attached id s)
    (h : s.callSource other action = some (s', e)) : Attached id s' ∧ InsertsMatch s a s' e := by
  obtain ⟨source, call, hstep, hcases⟩ := callSource_cases h
  have hmatch := DataSource.step_callMatches hstep
  rcases hcases with ⟨hsilent, rfl, rfl⟩ | ⟨c, rfl, hdelegate, rfl, rfl⟩
  · exact ⟨hs.setSource hsilent hmatch, fun _ hupdate => by cases hupdate⟩
  · -- Only the attached source has the controller as its delegate.
    obtain rfl : other = id := by
      by_contra hid
      rw [hs.others other hid] at hdelegate
      cases hdelegate
    exact receive_attached hs hmatch

theorem step_attached {id : Nat} {s s' : ListScreen T} {a : ScreenAction T} {e : ScreenEvent T}
    (ha : ∀ source, a ≠ .setDataSource source) (hs : Attached id s)
    (h : machine.step s a = some (s', e)) : Attached id s' ∧ InsertsMatch s a s' e := by
  rcases step_cases h with
    ⟨source, rfl, _⟩ | ⟨_, rfl, rfl⟩ | ⟨x, y, rfl, rfl, _⟩ | ⟨x, y, other, action, hcall, _⟩
  · exact absurd rfl (ha source)
  · exact ⟨⟨hs.current, hs.delegate, hs.others, rfl⟩, fun _ hupdate => by cases hupdate⟩
  · exact ⟨⟨hs.current, hs.delegate, hs.others, hs.rows⟩, fun _ hupdate => by cases hupdate⟩
  · have hspinners : Attached id (s.withSpinners x y) :=
      ⟨hs.current, hs.delegate, hs.others, hs.rows⟩
    have hstep := callSource_attached (a := a) hspinners hcall
    exact hstep

/-! ## Runs -/

/-- **The rows are the objects.** From an empty REST source attached to a new controller
and kept there, whatever loads and responses come in whatever order: between any two
steps the collection view has a row for each object of the source, and each batch
update inserts the rows of the objects reported, after those already shown. -/
theorem rows_match {sources : Nat → DataSource T} {id : Nat}
    {configuration : ATCGenericRestAPIDataSourceConfiguration} {pullToRefreshEnabled : Bool}
    {as : List (ScreenAction T)} {s : ListScreen T} {log : List (ScreenEvent T)}
    (hempty : sources id = .rest (.initial configuration))
    (hkept : ∀ source, ScreenAction.setDataSource source ∉ as)
    (hrun : machine.run (attached pullToRefreshEnabled sources id) as = some (s, log)) :
    s.controller.rows = (s.sources id).numberOfObjects ∧
      machine.Always InsertsMatch (attached pullToRefreshEnabled sources id) as := by
  have hgood : ∀ a ∈ as, ∀ source, a ≠ .setDataSource source := by
    rintro a ha source rfl
    exact hkept source ha
  have hstart := attached_start pullToRefreshEnabled hempty
  constructor
  · have hs := machine.run_invariant_on (fun ha hs h => (step_attached ha hs h).1) hstart hgood hrun
    rw [hs.rows, numberOfItemsInSection, hs.current]
  · exact machine.always_of_step hstart hgood (fun ha hs h => (step_attached ha hs h).1)
      (fun ha hs h => (step_attached ha hs h).2)

end ListScreen

open scoped ASCII

def scrollingRun : List (ScreenAction ATCImage) :=
  [.viewDidLoad, .source 0 (.complete 0 ⟨some [⟨some "a", false⟩], .success⟩), .willDisplay 0,
    .source 0 (.complete 0 ⟨some [⟨some "a", false⟩, ⟨some "b", false⟩], .success⟩),
    .didPullToRefresh, .source 0 (.complete 0 ⟨none, .error none⟩)]

theorem rows_match_scrolling :
    ∃ s log, ListScreen.machine.run
        (.attached true (fun _ => .rest (.initial sampleConfiguration)) 0) scrollingRun =
          some (s, log) ∧
      s.controller.rows = 2 ∧ s.controller.rows = (s.sources 0).numberOfObjects := by
  have hrun : (ListScreen.machine.run
      (.attached true (fun _ => .rest (.initial sampleConfiguration)) 0) scrollingRun).map
      (·.1.controller.rows) = some 2 := by decide
  obtain ⟨⟨s, log⟩, h, hrows⟩ := Option.map_eq_some_iff.mp hrun
  have hkept : ∀ source, ScreenAction.setDataSource source ∉ scrollingRun := by
    simp [scrollingRun]
  exact ⟨s, log, h, hrows, (ListScreen.rows_match rfl hkept h).1⟩

end FinanceApp
