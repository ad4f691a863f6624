import FinanceApp.Lib.FirstOccurrences
import FinanceApp.Lib.Machine
import FinanceApp.Users.PersistentStore

/-!
# The walkthrough

The page controller turns only to the page that its data source gives for the current one.
After the last page comes an empty controller, and turning to it, also when the turn is
then abandoned, finishes the walkthrough.
-/

open FirstOccurrences

namespace FinanceApp

variable {Page : Type} [DecidableEq Page]

/-- `fakeVC` marks the end. It is created by `init`, so it is not one of the pages. -/
structure ATCWalkthroughViewController (Page : Type) where
  viewControllers : List Page
  fakeVC : Page
  nonempty : viewControllers ≠ []
  distinct : viewControllers.Nodup
  fresh : fakeVC ∉ viewControllers

inductive NavigationDirection where
  | forward
  | reverse
  deriving DecidableEq, Repr

namespace ATCWalkthroughViewController

variable (self : ATCWalkthroughViewController Page)

def index (viewController : Page) : Option Nat :=
  self.viewControllers.findIdx? fun vc => viewController = vc

def viewControllerBefore (viewController : Page) : Option Page :=
  match self.index viewController with
  | some index => if index = 0 then none else self.viewControllers[index - 1]?
  | none => none

def viewControllerAfter (viewController : Page) : Option Page :=
  match self.index viewController with
  | some index =>
    if index + 1 ≥ self.viewControllers.length then some self.fakeVC
    else self.viewControllers[index + 1]?
  | none => none

def neighbour (viewController : Page) : NavigationDirection → Option Page
  | .forward => self.viewControllerAfter viewController
  | .reverse => self.viewControllerBefore viewController

end ATCWalkthroughViewController

/-! ## Turning pages -/

/-- `current` is the last view controller of the page controller. The host keeps in its
store that the walkthrough is completed. -/
structure WalkthroughScreen (Page : Type) where
  current : Page
  currentPage : Nat := 0
  pageControllerRemoved : Bool := false
  store : ATCPersistentStore

/-- A turn that is not completed goes back to the current page. -/
structure PageTurn where
  direction : NavigationDirection
  completed : Bool
  deriving DecidableEq, Repr

/-- The page that was turned to, and whether that finished the flow. -/
structure PageTurned (Page : Type) where
  pending : Page
  completed : Bool
  finished : Bool

namespace WalkthroughScreen

variable (walkthrough : ATCWalkthroughViewController Page) (s : WalkthroughScreen Page)

/-- The delegate of the walkthrough is the host. -/
def willTransitionTo (pending : Page) : WalkthroughScreen Page :=
  if pending = walkthrough.fakeVC then
    { s with pageControllerRemoved := true, store := s.store.markWalkthroughCompleted }
  else s

def didFinishAnimating (pending : Page) (completed : Bool) : WalkthroughScreen Page :=
  if !completed then s
  else
    { s with
      current := pending
      currentPage := (walkthrough.index pending).getD s.currentPage }

def step (turn : PageTurn) : Option (WalkthroughScreen Page × PageTurned Page) :=
  (walkthrough.neighbour s.current turn.direction).map fun pending =>
    ((s.willTransitionTo walkthrough pending).didFinishAnimating walkthrough pending turn.completed,
      { pending, completed := turn.completed, finished := pending = walkthrough.fakeVC })

def machine : Machine (WalkthroughScreen Page) PageTurn (PageTurned Page) := ⟨step walkthrough⟩

/-- `viewDidLoad` sets the first page. -/
def start (store : ATCPersistentStore) : WalkthroughScreen Page where
  current := walkthrough.viewControllers.head walkthrough.nonempty
  store := store

end WalkthroughScreen

/-! ## The pages and the marker in a row -/

namespace ATCWalkthroughViewController

variable (self : ATCWalkthroughViewController Page)

def row : List Page := self.viewControllers ++ [self.fakeVC]

omit [DecidableEq Page] in
theorem row_nodup : self.row.Nodup := by
  rw [row, List.nodup_append]
  refine ⟨self.distinct, List.pairwise_singleton _ _, ?_⟩
  rintro page hpage _ hfake rfl
  exact self.fresh (List.mem_singleton.mp hfake ▸ hpage)

omit [DecidableEq Page] in
theorem length_row : self.row.length = self.viewControllers.length + 1 := by
  rw [row, List.length_append, List.length_singleton]

theorem index_eq_some {i : Nat} {page : Page} (h : self.viewControllers[i]? = some page) :
    self.index page = some i := by
  obtain ⟨hi, rfl⟩ := List.getElem?_eq_some_iff.mp h
  rw [index, List.findIdx?_eq_some_iff_getElem]
  refine ⟨hi, decide_eq_true rfl, ?_⟩
  intro j hj hsame
  exact absurd ((List.getElem_inj self.distinct).mp (of_decide_eq_true hsame)) (by omega)

theorem index_fakeVC : self.index self.fakeVC = none := by
  rw [index, List.findIdx?_eq_none_iff]
  intro page hpage
  exact decide_eq_false fun hsame => self.fresh (hsame ▸ hpage)

omit [DecidableEq Page] in
theorem row_cases {i : Nat} {page : Page} (h : self.row[i]? = some page) :
    self.viewControllers[i]? = some page ∨
      i = self.viewControllers.length ∧ page = self.fakeVC := by
  rcases Nat.lt_or_ge i self.viewControllers.length with hi | hi
  · rw [row, List.getElem?_append_left hi] at h
    exact .inl h
  · rw [row, List.getElem?_append_right hi, List.getElem?_singleton] at h
    split at h
    · next hzero => exact .inr ⟨by omega, (Option.some.inj h).symm⟩
    · cases h

theorem viewControllerAfter_row {i : Nat} {page : Page} (h : self.row[i]? = some page) :
    self.viewControllerAfter page = self.row[i + 1]? := by
  unfold viewControllerAfter
  rcases self.row_cases h with hpage | ⟨rfl, rfl⟩
  · obtain ⟨hi, _⟩ := List.getElem?_eq_some_iff.mp hpage
    rw [self.index_eq_some hpage]
    simp only
    split
    · next hlast =>
      have heq : i + 1 = self.viewControllers.length := by omega
      rw [row, heq, List.getElem?_concat_length]
    · next hmore => rw [row, List.getElem?_append_left (by omega)]
  · rw [index_fakeVC, List.getElem?_eq_none (Nat.le_of_eq self.length_row)]

theorem viewControllerBefore_row {i : Nat} {page : Page} (h : self.row[i]? = some page) :
    self.viewControllerBefore page =
      if i = 0 ∨ i = self.viewControllers.length then none else self.row[i - 1]? := by
  unfold viewControllerBefore
  rcases self.row_cases h with hpage | ⟨rfl, rfl⟩
  · obtain ⟨hi, _⟩ := List.getElem?_eq_some_iff.mp hpage
    have hlast : i ≠ self.viewControllers.length := by omega
    rw [self.index_eq_some hpage]
    simp only [hlast, or_false]
    split
    · rfl
    · rw [row, List.getElem?_append_left (by omega)]
  · rw [index_fakeVC, if_pos (.inr rfl)]

omit [DecidableEq Page] in
theorem row_inj {i j : Nat} {page : Page} (hi : self.row[i]? = some page)
    (hj : self.row[j]? = some page) : i = j := by
  obtain ⟨hi, heq⟩ := List.getElem?_eq_some_iff.mp hi
  obtain ⟨hj, heq'⟩ := List.getElem?_eq_some_iff.mp hj
  exact (List.getElem_inj self.row_nodup).mp (heq.trans heq'.symm)

theorem neighbour_row {i : Nat} {page pending : Page} {direction : NavigationDirection}
    (h : self.row[i]? = some page) (hneighbour : self.neighbour page direction = some pending) :
    ∃ j, self.row[j]? = some pending ∧
      (j = i + 1 ∨ j + 1 = i ∧ i < self.viewControllers.length) := by
  cases direction with
  | forward =>
    rw [neighbour, self.viewControllerAfter_row h] at hneighbour
    exact ⟨i + 1, hneighbour, .inl rfl⟩
  | reverse =>
    rw [neighbour, self.viewControllerBefore_row h] at hneighbour
    split at hneighbour
    · cases hneighbour
    · next hinner =>
      obtain ⟨hi, _⟩ := List.getElem?_eq_some_iff.mp h
      rw [length_row] at hi
      exact ⟨i - 1, hneighbour, .inr (by omega)⟩

end ATCWalkthroughViewController

/-! ## What a run has shown -/

namespace WalkthroughScreen

variable (walkthrough : ATCWalkthroughViewController Page)

/-- The pages in the order in which they were shown, with repetitions. -/
def showings (log : List (PageTurned Page)) : List Page :=
  walkthrough.viewControllers.head walkthrough.nonempty ::
    log.filterMap fun turned => if turned.completed then some turned.pending else none

/-- The pages in the order of their first showings. -/
def firstShowings (log : List (PageTurned Page)) : List Page :=
  firstOccurrences id (showings walkthrough log)

variable {walkthrough} {s s' : WalkthroughScreen Page}

/-- Where a run is in the row, how much of it has been shown, and what finishing it took. -/
structure Progress (walkthrough : ATCWalkthroughViewController Page) (store : ATCPersistentStore)
    (log : List (PageTurned Page)) (s : WalkthroughScreen Page) : Prop where
  reached : ∃ i n, walkthrough.row[i]? = some s.current ∧ i < n ∧ n ≤ walkthrough.row.length ∧
    firstShowings walkthrough log = walkthrough.row.take n
  finished : ∀ before turned after, log = before ++ turned :: after → turned.finished = true →
    ∀ page ∈ walkthrough.viewControllers, page ∈ showings walkthrough before
  store : s.store.isWalkthroughCompleted = true →
    store.isWalkthroughCompleted = true ∨ ∃ turned ∈ log, turned.finished = true

section Showings

variable {log : List (PageTurned Page)} {turned : PageTurned Page}

theorem mem_firstShowings (page : Page) :
    page ∈ firstShowings walkthrough log ↔ page ∈ showings walkthrough log := by
  unfold firstShowings
  simpa using mem_keys_firstOccurrences id (showings walkthrough log) page

omit [DecidableEq Page] in
theorem showings_concat (h : turned.completed = true) :
    showings walkthrough (log ++ [turned]) = showings walkthrough log ++ [turned.pending] := by
  simp [showings, h]

theorem firstShowings_concat_seen
    (h : turned.completed = true → turned.pending ∈ firstShowings walkthrough log) :
    firstShowings walkthrough (log ++ [turned]) = firstShowings walkthrough log := by
  unfold firstShowings
  cases hcompleted : turned.completed with
  | false => simp [showings, hcompleted]
  | true =>
    have hseen := (mem_firstShowings _).mp (h hcompleted)
    rw [showings_concat hcompleted, firstOccurrences_concat, if_pos (by simpa using hseen)]

theorem firstShowings_concat_new (hcompleted : turned.completed = true)
    (hnew : turned.pending ∉ firstShowings walkthrough log) :
    firstShowings walkthrough (log ++ [turned]) =
      firstShowings walkthrough log ++ [turned.pending] := by
  rw [mem_firstShowings] at hnew
  rw [firstShowings, showings_concat hcompleted, firstOccurrences_concat,
    if_neg (by simpa using hnew), firstShowings]

end Showings

section Turns

variable (s) (pending : Page) (completed : Bool)

theorem willTransitionTo_current :
    (s.willTransitionTo walkthrough pending).current = s.current := by
  unfold willTransitionTo
  split <;> rfl

theorem willTransitionTo_store :
    (s.willTransitionTo walkthrough pending).store =
      if pending = walkthrough.fakeVC then s.store.markWalkthroughCompleted else s.store := by
  unfold willTransitionTo
  split <;> rfl

theorem didFinishAnimating_current :
    (s.didFinishAnimating walkthrough pending completed).current =
      if completed then pending else s.current := by
  cases completed <;> rfl

theorem didFinishAnimating_store :
    (s.didFinishAnimating walkthrough pending completed).store = s.store := by
  cases completed <;> rfl

end Turns

theorem step_cases {turn : PageTurn} {turned : PageTurned Page}
    (h : s.step walkthrough turn = some (s', turned)) :
    walkthrough.neighbour s.current turn.direction = some turned.pending ∧
      (turned.finished = true ↔ turned.pending = walkthrough.fakeVC) ∧
      s'.current = (if turned.completed then turned.pending else s.current) ∧
      s'.store = (if turned.finished then s.store.markWalkthroughCompleted else s.store) := by
  obtain ⟨pending, hneighbour, hturned⟩ := Option.map_eq_some_iff.mp h
  cases hturned
  refine ⟨hneighbour, by simp, ?_, ?_⟩
  · rw [didFinishAnimating_current, willTransitionTo_current]
  · rw [didFinishAnimating_store, willTransitionTo_store]
    simp

omit [DecidableEq Page] in
theorem mem_take_row {i n : Nat} {page : Page} (h : walkthrough.row[i]? = some page) (hi : i < n) :
    page ∈ walkthrough.row.take n :=
  List.mem_of_getElem? (i := i) (by rw [List.getElem?_take_of_lt hi, h])

omit [DecidableEq Page] in
theorem not_mem_take_row {i : Nat} {page : Page} (h : walkthrough.row[i]? = some page) :
    page ∉ walkthrough.row.take i := by
  intro hmem
  obtain ⟨k, hk⟩ := List.mem_iff_getElem?.mp hmem
  rw [List.getElem?_take] at hk
  split at hk
  · exact absurd (walkthrough.row_inj h hk) (by omega)
  · cases hk

theorem progress_start (store : ATCPersistentStore) :
    Progress walkthrough store [] (start walkthrough store) := by
  have hlength := List.length_pos_of_ne_nil walkthrough.nonempty
  have hfirst :
      walkthrough.row[0]? = some (walkthrough.viewControllers.head walkthrough.nonempty) := by
    rw [ATCWalkthroughViewController.row, List.getElem?_append_left hlength,
      List.head_eq_getElem, List.getElem?_eq_getElem]
  refine ⟨⟨0, 1, hfirst, Nat.one_pos, ?_, ?_⟩, ?_, fun h => .inl h⟩
  · rw [walkthrough.length_row]
    omega
  · rw [List.take_one, List.head?_eq_getElem?, hfirst]
    rfl
  · intro before turned after hlog
    simp at hlog

theorem Progress.reached_step {store : ATCPersistentStore} {log : List (PageTurned Page)}
    {turn : PageTurn} {turned : PageTurned Page} (hs : Progress walkthrough store log s)
    (h : s.step walkthrough turn = some (s', turned)) :
    ∃ i n, walkthrough.row[i]? = some s'.current ∧ i < n ∧ n ≤ walkthrough.row.length ∧
      firstShowings walkthrough (log ++ [turned]) = walkthrough.row.take n := by
  -- A turn goes on by at most one entry, so it shows what was shown before, or the next.
  obtain ⟨hneighbour, _, hcurrent, _⟩ := step_cases h
  obtain ⟨i, n, hi, hin, hn, hshown⟩ := hs.reached
  obtain ⟨j, hj, hstep⟩ := walkthrough.neighbour_row hi hneighbour
  cases hcompleted : turned.completed with
  | false =>
    rw [hcompleted] at hcurrent
    refine ⟨i, n, hcurrent ▸ hi, hin, hn, ?_⟩
    rw [firstShowings_concat_seen (by simp [hcompleted]), hshown]
  | true =>
    rw [hcompleted] at hcurrent
    rcases Nat.lt_or_ge j n with hjn | hnj
    · refine ⟨j, n, hcurrent ▸ hj, hjn, hn, ?_⟩
      rw [firstShowings_concat_seen fun _ => hshown ▸ mem_take_row hj hjn, hshown]
    · obtain rfl : j = n := by omega
      obtain ⟨hjlt, _⟩ := List.getElem?_eq_some_iff.mp hj
      refine ⟨j, j + 1, hcurrent ▸ hj, by omega, hjlt, ?_⟩
      rw [firstShowings_concat_new hcompleted (hshown ▸ not_mem_take_row hj), hshown,
        List.take_add_one, hj, Option.toList_some]

theorem Progress.shown_of_finished {store : ATCPersistentStore} {log : List (PageTurned Page)}
    {turn : PageTurn} {turned : PageTurned Page} (hs : Progress walkthrough store log s)
    (h : s.step walkthrough turn = some (s', turned)) (hfinished : turned.finished = true) :
    ∀ page ∈ walkthrough.viewControllers, page ∈ showings walkthrough log := by
  -- The marker is turned to from the last page only, where every page has been shown.
  obtain ⟨hneighbour, hfake, _, _⟩ := step_cases h
  obtain ⟨i, n, hi, hin, hn, hshown⟩ := hs.reached
  obtain ⟨j, hj, hstep⟩ := walkthrough.neighbour_row hi hneighbour
  have hmarker : walkthrough.row[walkthrough.viewControllers.length]? = some turned.pending := by
    rw [hfake.mp hfinished]
    exact List.getElem?_concat_length
  have hlast := walkthrough.row_inj hj hmarker
  intro page hpage
  obtain ⟨k, hk⟩ := List.mem_iff_getElem?.mp hpage
  obtain ⟨hklt, _⟩ := List.getElem?_eq_some_iff.mp hk
  rw [← mem_firstShowings, hshown]
  refine mem_take_row (i := k) ?_ (by omega)
  rw [ATCWalkthroughViewController.row, List.getElem?_append_left hklt, hk]

theorem Progress.step {store : ATCPersistentStore} {log : List (PageTurned Page)} {turn : PageTurn}
    {turned : PageTurned Page} (hs : Progress walkthrough store log s)
    (h : s.step walkthrough turn = some (s', turned)) :
    Progress walkthrough store (log ++ [turned]) s' := by
  refine ⟨hs.reached_step h, ?_, ?_⟩
  · intro before turned' after hlog hfinished
    rcases List.eq_nil_or_concat after with rfl | ⟨after, last, rfl⟩
    · obtain ⟨rfl, hlast⟩ := List.append_inj' hlog rfl
      obtain rfl := List.singleton_inj.mp hlast
      exact hs.shown_of_finished h hfinished
    · have hlog : log ++ [turned] = (before ++ turned' :: after) ++ [last] := by
        rw [hlog]
        simp
      exact hs.finished before turned' after (List.append_inj' hlog rfl).1 hfinished
  · rw [(step_cases h).2.2.2]
    split
    · next hfinished => exact fun _ => .inr ⟨turned, by simp, hfinished⟩
    · intro hcompleted
      refine (hs.store hcompleted).imp_right ?_
      rintro ⟨turned', hmem, hfinished⟩
      exact ⟨turned', List.mem_append_left _ hmem, hfinished⟩

/-! ## The order of a walkthrough -/

/-- What every run has shown, and where its last page can turn. -/
structure InOrder (walkthrough : ATCWalkthroughViewController Page) (store : ATCPersistentStore)
    (log : List (PageTurned Page)) (s : WalkthroughScreen Page) : Prop where
  shown : ∀ page ∈ showings walkthrough log,
    page ∈ walkthrough.viewControllers ∨ page = walkthrough.fakeVC
  returns : ∀ page, walkthrough.viewControllerAfter s.current = some page →
    walkthrough.viewControllerBefore page =
      if page = walkthrough.fakeVC then none else some s.current
  marker : ∀ direction, walkthrough.neighbour s.current direction = some walkthrough.fakeVC →
    s.current = walkthrough.viewControllers.getLast walkthrough.nonempty
  finished : ∀ before turned after, log = before ++ turned :: after → turned.finished = true →
    ∀ page ∈ walkthrough.viewControllers, page ∈ showings walkthrough before
  completed : s.store.isWalkthroughCompleted = true →
    store.isWalkthroughCompleted = true ∨
      ∀ page ∈ walkthrough.viewControllers, page ∈ showings walkthrough log
  ordered : firstShowings walkthrough log <+: walkthrough.viewControllers ++ [walkthrough.fakeVC]

theorem progress_of_run {store : ATCPersistentStore} {turns : List PageTurn}
    {log : List (PageTurned Page)}
    (h : (machine walkthrough).run (start walkthrough store) turns = some (s, log)) :
    Progress walkthrough store log s :=
  (machine walkthrough).run_induction (progress_start store) (fun hs hstep => hs.step hstep) h

/-- **Every run shows the pages in order, each before the marker, and turning on and back
returns to where it was.** -/
theorem walkthrough_in_order {store : ATCPersistentStore} {turns : List PageTurn}
    {log : List (PageTurned Page)}
    (h : (machine walkthrough).run (start walkthrough store) turns = some (s, log)) :
    InOrder walkthrough store log s := by
  have hprogress := progress_of_run h
  obtain ⟨i, n, hi, hin, hn, hshown⟩ := hprogress.reached
  have hmarker : walkthrough.row[walkthrough.viewControllers.length]? = some walkthrough.fakeVC :=
    List.getElem?_concat_length
  constructor
  · intro page hpage
    rw [← mem_firstShowings, hshown] at hpage
    have hrow := List.mem_of_mem_take hpage
    rw [ATCWalkthroughViewController.row, List.mem_append, List.mem_singleton] at hrow
    exact hrow
  · intro page hafter
    rw [walkthrough.viewControllerAfter_row hi] at hafter
    have hfake : page = walkthrough.fakeVC ↔ i + 1 = walkthrough.viewControllers.length := by
      refine ⟨fun hpage => walkthrough.row_inj (hpage ▸ hafter) hmarker, fun hlast => ?_⟩
      rw [hlast, hmarker, Option.some.injEq] at hafter
      exact hafter.symm
    rw [walkthrough.viewControllerBefore_row hafter, Nat.add_sub_cancel, hi]
    simp [hfake]
  · intro direction hneighbour
    obtain ⟨j, hj, hstep⟩ := walkthrough.neighbour_row hi hneighbour
    have hlast := walkthrough.row_inj hj hmarker
    have hpage : i = walkthrough.viewControllers.length - 1 := by omega
    have hlt : i < walkthrough.viewControllers.length := by omega
    rw [ATCWalkthroughViewController.row, List.getElem?_append_left hlt,
      List.getElem?_eq_getElem hlt, Option.some.injEq] at hi
    rw [← hi, List.getLast_eq_getElem]
    congr 1
  · exact hprogress.finished
  · intro hcompleted
    refine (hprogress.store hcompleted).imp_right ?_
    rintro ⟨turned, hmem, hfinished⟩ page hpage
    obtain ⟨before, after, rfl⟩ := List.append_of_mem hmem
    have hbefore := hprogress.finished before turned after rfl hfinished page hpage
    simp only [showings, List.filterMap_append, List.mem_cons, List.mem_append] at hbefore ⊢
    exact hbefore.imp_right Or.inl
  · rw [hshown]
    exact List.take_prefix n _

theorem walkthrough_in_order_two_pages :
    InOrder ⟨[1, 2], 0, by decide, by decide, by decide⟩ {} [⟨2, true, false⟩, ⟨0, false, true⟩]
      ⟨2, 1, true, ⟨true, none⟩⟩ := by
  let walkthrough : ATCWalkthroughViewController Nat :=
    ⟨[1, 2], 0, by decide, by decide, by decide⟩
  have hrun : (machine walkthrough).run (start walkthrough {})
      [⟨.forward, true⟩, ⟨.forward, false⟩] = some (_, _) := rfl
  exact walkthrough_in_order hrun

end WalkthroughScreen

end FinanceApp
