import FinanceApp.Lib.Logs
import FinanceApp.CollectionView.Rows

/-!
# The spinners of a collection view

The controller starts both spinners itself and leaves it to its source to stop them. Only
a successful answer to a first load stops the activity indicator, and only one to a top
load stops the refresh control: a failed load, a source that has no such load, or no
source at all leaves a spinner running.
-/

open Logs

namespace FinanceApp

variable {T : Type}

/-- What happens to a controller that keeps its source. `answered` is the answer to a
request of that source. -/
inductive SpinnerAction (T : Type) where
  | viewDidLoad
  | didPullToRefresh
  | willDisplay (row : Nat)
  | answered (answer : DataSourceAction T)

inductive SpinnerEvent where
  | viewDidLoad
  | didPullToRefresh
  | willDisplay
  | answered (load : Load) (success : Bool)
  deriving DecidableEq, Repr

def Endpoint.load : Endpoint → Load
  | first => .loadFirst
  | bottom _ => .loadBottom
  | top => .loadTop

def DelegateCall.load : DelegateCall T → Load
  | didLoadFirst _ => .loadFirst
  | didLoadBottom _ => .loadBottom
  | didLoadTop _ => .loadTop

namespace DataSource

/-- The two sources whose objects are there from the start. -/
def isLocal : DataSource T → Bool
  | list _ => true
  | hetero _ => true
  | _ => false

/-- The load that an action answers, and whether with a success. -/
def answers : DataSource T → DataSourceAction T → Option (Load × Bool)
  | rest session, .complete i response =>
    session.inFlight[i]?.map fun request => (request.endpoint.load, response.status == .success)
  | firestore _ _, .answer answer =>
    some (.loadFirst, answer.error.isNone && answer.documents.isSome)
  | _, _ => none

def inFlight : DataSource T → Nat
  | rest session => session.inFlight.length
  | firestore _ queries => queries
  | _ => 0

end DataSource

namespace ListScreen

def currentSource (s : ListScreen T) : Option (DataSource T) :=
  s.controller.genericDataSource.map s.sources

def idle (s : ListScreen T) : Prop := ∀ d, s.currentSource = some d → d.inFlight = 0

def spinning (s : ListScreen T) : Bool :=
  s.controller.refreshControlIsRefreshing || s.controller.activityIndicatorIsAnimating

/-- A new controller, with a source or without. -/
def opened (pullToRefreshEnabled : Bool) : Option (DataSource T) → ListScreen T
  | some source => attached pullToRefreshEnabled (fun _ => source) 0
  | none => { controller := { pullToRefreshEnabled }, sources := fun _ => .hetero ⟨[]⟩ }

variable [CanonicalForm] [ATCGenericBaseModel T]

def spinnerStep (s : ListScreen T) : SpinnerAction T → Option (ListScreen T × SpinnerEvent)
  | .viewDidLoad => (s.step .viewDidLoad).map fun (s, _) => (s, .viewDidLoad)
  | .didPullToRefresh => (s.step .didPullToRefresh).map fun (s, _) => (s, .didPullToRefresh)
  | .willDisplay row => (s.step (.willDisplay row)).map fun (s, _) => (s, .willDisplay)
  | .answered answer => do
    let id ← s.controller.genericDataSource
    let (load, success) ← (s.sources id).answers answer
    let (s, _) ← s.step (.source id answer)
    return (s, .answered load success)

def spinnerMachine : Machine (ListScreen T) (SpinnerAction T) SpinnerEvent := ⟨spinnerStep⟩

end ListScreen

/-! ## What one call of a source does -/

namespace DataSource

variable [CanonicalForm] [ATCGenericBaseModel T]

theorem step_load {d d' : DataSource T} {load : Load} {call : Option (DelegateCall T)}
    (h : d.step (.load load) = some (d', call)) :
    d'.isLocal = d.isLocal ∧
      call.map (·.load) = if d.isLocal ∧ load = .loadFirst then some .loadFirst else none := by
  cases d with
  | rest session =>
    simp only [step, RestSession.step, Option.map_some, Option.some.injEq, Prod.mk.injEq] at h
    obtain ⟨rfl, rfl⟩ := h
    simp [isLocal, RestEvent.call]
  | list source =>
    simp only [step, Option.some.injEq, Prod.mk.injEq] at h
    obtain ⟨rfl, rfl⟩ := h
    cases load <;> simp [isLocal, ATCGenericLocalDataSource.load, DelegateCall.load]
  | hetero source =>
    simp only [step, Option.some.injEq, Prod.mk.injEq] at h
    obtain ⟨rfl, rfl⟩ := h
    cases load <;> simp [isLocal, ATCGenericLocalHeteroDataSource.load, DelegateCall.load]
  | firestore source queries =>
    cases load <;> simp only [step, Option.some.injEq, Prod.mk.injEq] at h <;>
      obtain ⟨rfl, rfl⟩ := h <;> simp [isLocal]

theorem step_answers {d d' : DataSource T} {action : DataSourceAction T} {load : Load}
    {success : Bool} {call : Option (DelegateCall T)}
    (hanswers : d.answers action = some (load, success)) (h : d.step action = some (d', call)) :
    d'.isLocal = d.isLocal ∧ call.map (·.load) = if success then some load else none := by
  unfold answers at hanswers
  split at hanswers
  · rename_i session i response
    obtain ⟨request, hrequest, hload⟩ := Option.map_eq_some_iff.mp hanswers
    obtain ⟨rfl, rfl⟩ := Prod.mk.inj hload
    obtain ⟨⟨session', event⟩, hstep, heq⟩ := Option.map_eq_some_iff.mp h
    obtain ⟨rfl, rfl⟩ := Prod.mk.inj heq
    refine ⟨rfl, ?_⟩
    simp only [RestSession.step, hrequest, Option.some.injEq, Prod.mk.injEq] at hstep
    rw [← hstep.2]
    obtain ⟨objects, status⟩ := response
    cases status with
    | error text => simp [RestEvent.call]
    | success =>
      simp only [RestEvent.call, beq_self_eq_true, if_true]
      cases request.endpoint <;> rfl
  · rename_i source queries answer
    obtain ⟨rfl, rfl⟩ := Prod.mk.inj (Option.some.inj hanswers)
    cases queries with
    | zero => simp [step] at h
    | succ queries =>
      simp only [step, Option.some.injEq, Prod.mk.injEq] at h
      obtain ⟨rfl, rfl⟩ := h
      obtain ⟨documents, error⟩ := answer
      refine ⟨rfl, ?_⟩
      cases error <;> cases documents <;> rfl
  · simp at hanswers

end DataSource

namespace ListScreen

/-- The source in use is a local one. -/
def currentIsLocal (s : ListScreen T) : Bool := s.currentSource.any (·.isLocal)

theorem receive_spinners (s : ListScreen T) (id : Nat) (call : DelegateCall T) :
    (s.receive id call).1.controller.pullToRefreshEnabled = s.controller.pullToRefreshEnabled ∧
      (s.receive id call).1.controller.activityIndicatorIsAnimating =
        (s.controller.activityIndicatorIsAnimating && call.load ≠ .loadFirst) ∧
      (s.receive id call).1.controller.refreshControlIsRefreshing =
        (s.controller.refreshControlIsRefreshing &&
          !(call.load = .loadTop ∧ s.controller.pullToRefreshEnabled)) := by
  cases call with
  | didLoadFirst objects => simp [receive, didLoadFirst, reloadCollectionView, DelegateCall.load]
  | didLoadBottom objects => simp [receive, didLoadBottom, DelegateCall.load]
  | didLoadTop objects =>
    simp only [receive, didLoadTop, reloadCollectionView, DelegateCall.load]
    split <;> simp_all

/-! ## Steps -/

/-- The activity indicator after an event. -/
def indicatorAfter (isLocal animating : Bool) : SpinnerEvent → Bool
  | .viewDidLoad => !isLocal
  | .answered load success => animating && !(load == .loadFirst && success)
  | _ => animating

/-- The refresh control after an event. -/
def refreshAfter (refreshing : Bool) : SpinnerEvent → Bool
  | .didPullToRefresh => true
  | .answered load success => refreshing && !(load == .loadTop && success)
  | _ => refreshing

/-- The controller has the calls of its source, and refreshes only where that is enabled. -/
structure Serving (s : ListScreen T) : Prop where
  delegate : ∀ id, s.controller.genericDataSource = some id → s.delegateIsController id = true
  enabled : s.controller.refreshControlIsRefreshing = true →
    s.controller.pullToRefreshEnabled = true

variable [CanonicalForm] [ATCGenericBaseModel T]

theorem callSource_spinners {s s' : ListScreen T} {id : Nat} {action : DataSourceAction T}
    {e : ScreenEvent T} (hs : Serving s) (hcurrent : s.controller.genericDataSource = some id)
    (h : s.callSource id action = some (s', e)) :
    ∃ source call, (s.sources id).step action = some (source, call) ∧
      (source.isLocal = (s.sources id).isLocal →
        Serving s' ∧ s'.currentIsLocal = s.currentIsLocal) ∧
      s'.controller.activityIndicatorIsAnimating =
        (s.controller.activityIndicatorIsAnimating && call.map (·.load) ≠ some .loadFirst) ∧
      s'.controller.refreshControlIsRefreshing =
        (s.controller.refreshControlIsRefreshing && call.map (·.load) ≠ some .loadTop) := by
  obtain ⟨source, call, hstep, hcases⟩ := callSource_cases h
  refine ⟨source, call, hstep, ?_⟩
  have hdelegate := hs.delegate id hcurrent
  rcases hcases with ⟨hsilent, rfl, rfl⟩ | ⟨c, rfl, _, rfl, rfl⟩
  · obtain rfl : call = none := hsilent.resolve_right (by simp [hdelegate])
    refine ⟨fun hlocal => ⟨⟨hs.delegate, hs.enabled⟩, ?_⟩, by simp [setSource], by simp [setSource]⟩
    simp [currentIsLocal, currentSource, setSource, hcurrent, hlocal]
  · obtain ⟨hsources, hdelegates, hkept⟩ := (s.setSource id source).receive_keeps id c
    obtain ⟨henabled, hindicator, hrefresh⟩ := (s.setSource id source).receive_spinners id c
    have hstopped : ((s.setSource id source).receive id c).1.controller.refreshControlIsRefreshing =
        (s.controller.refreshControlIsRefreshing && c.load ≠ .loadTop) := by
      rw [hrefresh]
      show (s.controller.refreshControlIsRefreshing &&
        !(c.load = .loadTop ∧ s.controller.pullToRefreshEnabled)) = _
      cases hrefreshing : s.controller.refreshControlIsRefreshing with
      | false => rfl
      | true => simp [hs.enabled hrefreshing]
    refine ⟨fun hlocal => ⟨⟨?_, ?_⟩, ?_⟩, by simpa [setSource] using hindicator,
      by simpa using hstopped⟩
    · intro other hother
      rw [hkept] at hother
      rw [hdelegates]
      exact hs.delegate other hother
    · rw [hstopped, henabled]
      intro hrefreshing
      exact hs.enabled (Bool.and_eq_true_iff.mp hrefreshing).1
    · rw [currentIsLocal, currentSource, hkept, hsources]
      simp [currentIsLocal, currentSource, setSource, hcurrent, hlocal]

theorem callCurrent_spinners {s s' : ListScreen T} {load : Load} {e : ScreenEvent T}
    (hs : Serving s) (h : s.callCurrent load = some (s', e)) :
    Serving s' ∧ s'.currentIsLocal = s.currentIsLocal ∧
      s'.controller.activityIndicatorIsAnimating =
        (s.controller.activityIndicatorIsAnimating && !(s.currentIsLocal && load == .loadFirst)) ∧
      s'.controller.refreshControlIsRefreshing = s.controller.refreshControlIsRefreshing := by
  simp only [callCurrent] at h
  split at h
  · rename_i id hcurrent
    obtain ⟨source, call, hstep, hkeeps, hindicator, hrefresh⟩ := callSource_spinners hs hcurrent h
    obtain ⟨hlocal, hcall⟩ := DataSource.step_load hstep
    obtain ⟨hserving, hsame⟩ := hkeeps hlocal
    have hislocal : s.currentIsLocal = (s.sources id).isLocal := by
      simp [currentIsLocal, currentSource, hcurrent]
    refine ⟨hserving, hsame, ?_, ?_⟩
    · rw [hindicator, hcall, hislocal]
      cases (s.sources id).isLocal <;> cases load <;> simp
    · rw [hrefresh, hcall]
      cases (s.sources id).isLocal <;> cases load <;> simp
  · rename_i hnone
    obtain ⟨rfl, rfl⟩ := Prod.mk.inj (Option.some.inj h)
    simp [hs, currentIsLocal, currentSource, hnone]

theorem spinnerStep_after {s s' : ListScreen T} {a : SpinnerAction T} {e : SpinnerEvent}
    (hs : Serving s) (h : spinnerMachine.step s a = some (s', e)) :
    Serving s' ∧ s'.currentIsLocal = s.currentIsLocal ∧
      s'.controller.activityIndicatorIsAnimating =
        indicatorAfter s.currentIsLocal s.controller.activityIndicatorIsAnimating e ∧
      s'.controller.refreshControlIsRefreshing =
        refreshAfter s.controller.refreshControlIsRefreshing e := by
  cases a with
  | viewDidLoad =>
    obtain ⟨⟨_, event⟩, hstep, heq⟩ := Option.map_eq_some_iff.mp h
    obtain ⟨rfl, rfl⟩ := Prod.mk.inj heq
    have hstart : Serving { s with
        controller := { s.controller with activityIndicatorIsAnimating := true } } :=
      ⟨hs.delegate, hs.enabled⟩
    obtain ⟨hserving, hlocal, hindicator, hrefresh⟩ := callCurrent_spinners hstart hstep
    refine ⟨hserving, hlocal, ?_, hrefresh⟩
    rw [hindicator]
    simp [indicatorAfter, currentIsLocal, currentSource]
  | didPullToRefresh =>
    obtain ⟨⟨_, event⟩, hstep, heq⟩ := Option.map_eq_some_iff.mp h
    obtain ⟨rfl, rfl⟩ := Prod.mk.inj heq
    simp only [step] at hstep
    split at hstep
    · rename_i henabled
      have hpulled : Serving { s with
          controller := { s.controller with refreshControlIsRefreshing := true } } :=
        ⟨hs.delegate, fun _ => henabled⟩
      obtain ⟨hserving, hlocal, hindicator, hrefresh⟩ := callCurrent_spinners hpulled hstep
      refine ⟨hserving, hlocal, ?_, hrefresh⟩
      rw [hindicator]
      simp [indicatorAfter]
    · simp at hstep
  | willDisplay row =>
    obtain ⟨⟨_, event⟩, hstep, heq⟩ := Option.map_eq_some_iff.mp h
    obtain ⟨rfl, rfl⟩ := Prod.mk.inj heq
    simp only [step] at hstep
    split at hstep
    · obtain ⟨hserving, hlocal, hindicator, hrefresh⟩ := callCurrent_spinners hs hstep
      refine ⟨hserving, hlocal, ?_, hrefresh⟩
      rw [hindicator]
      simp [indicatorAfter]
    · obtain ⟨rfl, rfl⟩ := Prod.mk.inj (Option.some.inj hstep)
      exact ⟨hs, rfl, rfl, rfl⟩
  | answered answer =>
    simp only [spinnerMachine, spinnerStep, Option.bind_eq_bind, Option.bind_eq_some_iff,
      Option.pure_def, Option.some.injEq, Prod.mk.injEq] at h
    obtain ⟨id, hcurrent, ⟨load, success⟩, hanswers, ⟨_, event⟩, hstep, rfl, rfl⟩ := h
    obtain ⟨source, call, hsource, hkeeps, hindicator, hrefresh⟩ :=
      callSource_spinners hs hcurrent hstep
    obtain ⟨hlocal, hcall⟩ := DataSource.step_answers hanswers hsource
    obtain ⟨hserving, hsame⟩ := hkeeps hlocal
    refine ⟨hserving, hsame, ?_, ?_⟩
    · rw [hindicator, hcall]
      cases load <;> cases success <;> simp [indicatorAfter]
    · rw [hrefresh, hcall]
      cases load <;> cases success <;> simp [refreshAfter]

/-! ## Runs -/

/-- Each load that started a spinner was answered with a success afterwards. A local source
answers the first load of a view itself. -/
def LoadsAnswered (isLocal : Bool) (log : List SpinnerEvent) : Prop :=
  (isLocal = true ∨ FollowedBy (· = .viewDidLoad) (· = .answered .loadFirst true) log) ∧
    FollowedBy (· = .didPullToRefresh) (· = .answered .loadTop true) log

structure SpinsFor (isLocal : Bool) (log : List SpinnerEvent) (s : ListScreen T) : Prop where
  serving : Serving s
  kind : s.currentIsLocal = isLocal
  indicator : s.controller.activityIndicatorIsAnimating = false ↔
    isLocal = true ∨ FollowedBy (· = .viewDidLoad) (· = .answered .loadFirst true) log
  refresh : s.controller.refreshControlIsRefreshing = false ↔
    FollowedBy (· = .didPullToRefresh) (· = .answered .loadTop true) log

omit [CanonicalForm] [ATCGenericBaseModel T] in
theorem opened_spinsFor (pullToRefreshEnabled : Bool) (source : Option (DataSource T)) :
    SpinsFor (source.any (·.isLocal)) [] (opened pullToRefreshEnabled source) := by
  cases source with
  | none => exact ⟨⟨by rintro _ ⟨⟩, by rintro ⟨⟩⟩, rfl, by simp [opened], by simp [opened]⟩
  | some d =>
    refine ⟨⟨?_, by rintro ⟨⟩⟩, rfl, by simp [opened, attached, setDataSource],
      by simp [opened, attached, setDataSource]⟩
    rintro id hid
    obtain rfl : 0 = id := Option.some.inj hid
    simp [opened, attached, setDataSource]

theorem step_spinsFor {isLocal : Bool} {log : List SpinnerEvent} {s s' : ListScreen T}
    {a : SpinnerAction T} {e : SpinnerEvent} (hs : SpinsFor isLocal log s)
    (h : spinnerMachine.step s a = some (s', e)) : SpinsFor isLocal (log ++ [e]) s' := by
  obtain ⟨hserving, hlocal, hindicator, hrefresh⟩ := spinnerStep_after hs.serving h
  refine ⟨hserving, hlocal.trans hs.kind, ?_, ?_⟩
  · rw [hindicator, followedBy_concat, hs.kind]
    have hbefore := hs.indicator
    cases e with
    | viewDidLoad => simp [indicatorAfter]
    | didPullToRefresh => simpa [indicatorAfter] using hbefore
    | willDisplay => simpa [indicatorAfter] using hbefore
    | answered load success =>
      cases load <;> cases success <;> simp [indicatorAfter, hbefore]
  · rw [hrefresh, followedBy_concat]
    have hbefore := hs.refresh
    cases e with
    | viewDidLoad => simpa [refreshAfter] using hbefore
    | didPullToRefresh => simp [refreshAfter]
    | willDisplay => simpa [refreshAfter] using hbefore
    | answered load success =>
      cases load <;> cases success <;> simp [refreshAfter, hbefore]

/-- **When no request is in flight, no spinner runs, if and only if** each view that was
loaded and each pull were followed by a successful answer to their load. -/
theorem spinners_stop_iff {pullToRefreshEnabled : Bool} {source : Option (DataSource T)}
    {as : List (SpinnerAction T)} {s : ListScreen T} {log : List SpinnerEvent}
    (hrun : spinnerMachine.run (opened pullToRefreshEnabled source) as = some (s, log)) :
    (s.idle → s.spinning = false) ↔ (s.idle → LoadsAnswered (source.any (·.isLocal)) log) := by
  have hs := spinnerMachine.run_induction (P := SpinsFor (source.any (·.isLocal)))
    (opened_spinsFor pullToRefreshEnabled source) step_spinsFor hrun
  rw [spinning, Bool.or_eq_false_iff, hs.indicator, hs.refresh, and_comm]
  rfl

end ListScreen

open scoped ASCII

/-- A view that loads and refreshes. -/
def refreshingRun : List (SpinnerAction ATCImage) :=
  [.viewDidLoad, .answered (.complete 0 ⟨some [], .success⟩), .didPullToRefresh,
    .answered (.complete 0 ⟨some [⟨some "a", false⟩], .success⟩)]

theorem spinners_stop_iff_refreshing :
    ∃ s log, ListScreen.spinnerMachine.run
        (.opened true (some (.rest (.initial sampleConfiguration)))) refreshingRun = some (s, log) ∧
      ((s.idle → s.spinning = false) ↔ (s.idle → ListScreen.LoadsAnswered false log)) := by
  have hrun : (ListScreen.spinnerMachine.run
      (.opened true (some (.rest (.initial sampleConfiguration)))) refreshingRun).isSome := by
    decide
  obtain ⟨⟨s, log⟩, h⟩ := Option.isSome_iff_exists.mp hrun
  exact ⟨s, log, h, ListScreen.spinners_stop_iff h⟩

theorem local_refresh_spins :
    ¬ ∀ (pullToRefreshEnabled : Bool) (source : Option (DataSource ATCImage))
      (as : List (SpinnerAction ATCImage)) (s : ListScreen ATCImage) (log : List SpinnerEvent),
      ListScreen.spinnerMachine.run (.opened pullToRefreshEnabled source) as = some (s, log) →
        s.idle → s.spinning = false := by
  -- A local source has no top load to answer the pull with.
  intro hall
  have hrun : (ListScreen.spinnerMachine.run (.opened true (some (.list ⟨[⟨some "a", false⟩]⟩)))
      ([.viewDidLoad, .didPullToRefresh] : List (SpinnerAction ATCImage))).map
      (fun r => (r.1.spinning, r.1.currentSource.map (·.inFlight))) = some (true, some 0) := by
    decide
  obtain ⟨⟨s, log⟩, h, hs⟩ := Option.map_eq_some_iff.mp hrun
  obtain ⟨hspins, hsource⟩ := Prod.mk.inj hs
  have hidle : s.idle := by
    intro d hd
    simpa [hd] using hsource
  simp [hall _ _ _ s log h hidle] at hspins

end FinanceApp
