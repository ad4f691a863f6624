import FinanceApp.RestDataSource.Flags

/-!
# The pages that bottom requests ask for

A bottom request reads `currentPage` when it is sent and moves it when it completes; a
successful `loadFirst` puts it back to 1. Between two such reloads the pages asked for
are 1, 2, 3, ..., unless a bottom request was in flight at the reload.
-/

namespace FinanceApp

variable {T : Type}

/-! ## What the log says about pages -/

namespace RestEvent

def asked : RestEvent T → Option Nat
  | .loaded _ (some ⟨.bottom page, _, _⟩) => some page
  | _ => none

/-- The page of a bottom request that fails. -/
def failed : RestEvent T → Option Nat
  | .completed ⟨.bottom page, _, _⟩ ⟨_, .error _⟩ _ => some page
  | _ => none

def merged : RestEvent T → Option Nat
  | .completed ⟨.bottom page, _, _⟩ ⟨_, .success⟩ _ => some page
  | _ => none

def isReload : RestEvent T → Bool
  | .completed ⟨.first, _, _⟩ ⟨_, .success⟩ _ => true
  | _ => false

end RestEvent

/-- `page` may be asked for after the events `before`: it is page 1, or the one after the
last page asked for, or that page again once its request has failed. -/
def FollowsOn (before : List (RestEvent T)) (page : Nat) : Prop :=
  match (before.filterMap RestEvent.asked).getLast? with
  | none => page = 1
  | some last => page = last + 1 ∨
      page = last ∧ ∃ b e c, before = b ++ e :: c ∧ e.failed = some last ∧
        c.filterMap RestEvent.asked = []

def AskedInOrder (window : List (RestEvent T)) : Prop :=
  ∀ before e after page, window = before ++ e :: after → e.asked = some page →
    FollowsOn before page

theorem askedInOrder_concat {window : List (RestEvent T)} {e : RestEvent T}
    (h : AskedInOrder window) (he : ∀ page, e.asked = some page → FollowsOn window page) :
    AskedInOrder (window ++ [e]) := by
  intro before x after page hsplit hx
  rcases List.eq_nil_or_concat after with rfl | ⟨after, z, rfl⟩
  · obtain ⟨rfl, hcons⟩ := List.append_inj' hsplit rfl
    obtain rfl : e = x := by simpa using hcons
    exact he page hx
  · rw [List.concat_eq_append, ← List.cons_append, ← List.append_assoc] at hsplit
    exact h before x after page (List.append_inj' hsplit rfl).1 hx

theorem not_askedInOrder {window : List (RestEvent T)}
    (h : (window.filterMap RestEvent.asked).head? = some 2) : ¬ AskedInOrder window := by
  intro hin
  obtain ⟨rest, hrest⟩ := List.head?_eq_some_iff.mp h
  obtain ⟨before, e, after, hsplit, hnone, he, _⟩ := List.filterMap_eq_cons_iff.mp hrest
  have hfollows := hin before e after 2 hsplit he
  rw [FollowsOn, List.filterMap_eq_nil_iff.mpr hnone] at hfollows
  simp at hfollows

/-! ## The bottom requests in flight -/

def Endpoint.page : Endpoint → Option Nat
  | .bottom page => some page
  | _ => none

namespace RestSession

def bottomPages (s : RestSession T) : List Nat := s.inFlight.filterMap (·.endpoint.page)

theorem length_bottomPages (s : RestSession T) :
    s.bottomPages.length = Guarded.bottom.inFlight s := by
  rw [bottomPages, List.length_filterMap_eq_countP, Guarded.inFlight]
  congr 1
  funext request
  cases request.endpoint <;> rfl

theorem bottomPages_complete (s : RestSession T) {i : Nat} {request : Request}
    (hi : s.inFlight[i]? = some request) (source : ATCGenericRestAPIDataSource T) :
    s.bottomPages.Perm
      (request.endpoint.page.toList ++ bottomPages ⟨source, s.inFlight.eraseIdx i⟩) := by
  obtain ⟨hlt, rfl⟩ := List.getElem?_eq_some_iff.mp hi
  have hperm := (List.getElem_cons_eraseIdx_perm hlt).symm.filterMap (·.endpoint.page)
  rw [List.filterMap_cons] at hperm
  cases hpage : s.inFlight[i].endpoint.page <;> simpa [bottomPages, hpage] using hperm

variable [CanonicalForm] [ATCGenericBaseModel T]

/-! ## One step -/

theorem step_page {s s' : RestSession T} {a : RestAction T} {e : RestEvent T}
    (h : machine.step s a = some (s', e)) (he : e.isReload = false) :
    (e.asked = none ∧ e.merged = none ∧ s'.source.currentPage = s.source.currentPage ∧
      s'.source.isLoadingBottom = s.source.isLoadingBottom ∧ s'.bottomPages.Sublist s.bottomPages) ∨
    (e.asked = some s.source.currentPage ∧ e.merged = none ∧
      s'.source.currentPage = s.source.currentPage ∧ s.source.isLoadingBottom = false ∧
      s'.source.isLoadingBottom = true ∧ s'.bottomPages = s.bottomPages ++ [s.source.currentPage]) ∨
    (∃ page, e.asked = none ∧ e.merged = some page ∧
      s'.source.currentPage = s.source.currentPage + 1 ∧ s'.source.isLoadingBottom = false ∧
      s.bottomPages.Perm (page :: s'.bottomPages)) := by
  rcases step_cases h with
    ⟨call, rfl, rfl, rfl⟩ | ⟨i, request, ⟨objects, status⟩, rfl, hi, rfl, rfl⟩
  · cases call with
    | loadFirst =>
      left
      refine ⟨rfl, rfl, rfl, rfl, ?_⟩
      simp [ATCGenericRestAPIDataSource.load, ATCGenericRestAPIDataSource.loadFirst, bottomPages,
        Endpoint.page]
    | loadBottom =>
      simp only [ATCGenericRestAPIDataSource.load, ATCGenericRestAPIDataSource.loadBottom]
      split
      · left; exact ⟨rfl, rfl, rfl, rfl, by simp [bottomPages]⟩
      · rename_i hguard
        right; left
        exact ⟨rfl, rfl, rfl, by simp_all, rfl, by simp [bottomPages, Endpoint.page]⟩
    | loadTop =>
      left
      simp only [ATCGenericRestAPIDataSource.load, ATCGenericRestAPIDataSource.loadTop]
      split
      · exact ⟨rfl, rfl, rfl, rfl, by simp [bottomPages]⟩
      · exact ⟨rfl, rfl, rfl, rfl, by simp [bottomPages, Endpoint.page]⟩
  · have hperm := bottomPages_complete s hi (s.source.complete request.endpoint ⟨objects, status⟩).1
    have hsub : (bottomPages ⟨(s.source.complete request.endpoint ⟨objects, status⟩).1,
        s.inFlight.eraseIdx i⟩).Sublist s.bottomPages := (List.eraseIdx_sublist _ _).filterMap _
    obtain ⟨endpoint, urlPath, parameters⟩ := request
    cases status with
    | error text =>
      left
      rw [ATCGenericRestAPIDataSource.complete_error] at hsub ⊢
      refine ⟨rfl, ?_, rfl, rfl, hsub⟩
      cases endpoint <;> rfl
    | success =>
      cases endpoint with
      | first => simp [RestEvent.isReload] at he
      | bottom page =>
        right; right
        rw [ATCGenericRestAPIDataSource.complete,
          ATCGenericRestAPIDataSource.loadBottomCompletion_success] at hperm ⊢
        exact ⟨page, rfl, rfl, rfl, rfl, hperm⟩
      | top =>
        left
        rw [ATCGenericRestAPIDataSource.complete,
          ATCGenericRestAPIDataSource.loadTopCompletion_success] at hsub ⊢
        exact ⟨rfl, rfl, rfl, rfl, hsub⟩

theorem step_reload {s s' : RestSession T} {a : RestAction T} {e : RestEvent T}
    (h : machine.step s a = some (s', e)) (he : e.isReload = true) :
    s'.source.currentPage = 1 := by
  rcases step_cases h with
    ⟨call, rfl, rfl, rfl⟩ | ⟨i, request, ⟨objects, status⟩, rfl, hi, rfl, rfl⟩
  · simp [RestEvent.isReload] at he
  · obtain ⟨endpoint, urlPath, parameters⟩ := request
    cases status with
    | error text => cases endpoint <;> simp [RestEvent.isReload] at he
    | success =>
      cases endpoint with
      | bottom page => simp [RestEvent.isReload] at he
      | top => simp [RestEvent.isReload] at he
      | first =>
        rw [ATCGenericRestAPIDataSource.complete,
          ATCGenericRestAPIDataSource.loadFirstCompletion_success]

/-! ## Between two reloads -/

/-- `window` is what the run `as` logs from one reload, which leaves the state `s`, up to
some later moment before the next one. -/
def ReloadWindow (configuration : ATCGenericRestAPIDataSourceConfiguration)
    (as : List (RestAction T)) (s : RestSession T) (window : List (RestEvent T)) : Prop :=
  ∃ before a during after s₀ log₀ e s', as = before ++ a :: (during ++ after) ∧
    machine.run (initial configuration) before = some (s₀, log₀) ∧
    machine.step s₀ a = some (s, e) ∧ e.isReload = true ∧
    machine.run s during = some (s', window) ∧ ∀ e ∈ window, e.isReload = false

/-- The state after the events `window` of a window that began with no bottom request in flight. -/
structure InStep (window : List (RestEvent T)) (s : RestSession T) : Prop where
  inOrder : AskedInOrder window
  merged : window.filterMap RestEvent.merged = List.range' 1 (s.source.currentPage - 1)
  positive : 1 ≤ s.source.currentPage
  atMostOne : s.bottomPages.length ≤ s.source.isLoadingBottom.toNat
  current : ∀ page ∈ s.bottomPages, page = s.source.currentPage
  fresh : window.filterMap RestEvent.asked = [] → s.source.currentPage = 1 ∧ s.bottomPages = []
  last : ∀ last, (window.filterMap RestEvent.asked).getLast? = some last →
    (s.source.currentPage = last ∧ s.source.isLoadingBottom = true) ∨
    (s.source.currentPage = last + 1 ∧ s.bottomPages = [])

section InStep

variable {window : List (RestEvent T)} {s s' : RestSession T} {e : RestEvent T}

omit [CanonicalForm] [ATCGenericBaseModel T] in
theorem InStep.of_quiet (hs : InStep window s) (hasked : e.asked = none) (hmerged : e.merged = none)
    (hpage : s'.source.currentPage = s.source.currentPage)
    (hflag : s'.source.isLoadingBottom = s.source.isLoadingBottom)
    (hsub : s'.bottomPages.Sublist s.bottomPages) : InStep (window ++ [e]) s' := by
  obtain ⟨inOrder, merged, positive, atMostOne, current, fresh, last⟩ := hs
  have hnil : s.bottomPages = [] → s'.bottomPages = [] := fun hn => by
    rw [hn] at hsub; exact List.sublist_nil.mp hsub
  have hlen := hsub.length_le
  refine ⟨askedInOrder_concat inOrder (by simp [hasked]), ?_, by omega, by rw [hflag]; omega,
    ?_, ?_, ?_⟩
  all_goals simp only [List.filterMap_append, List.filterMap_cons, hasked, hmerged,
    List.filterMap_nil, List.append_nil, hpage, hflag]
  · exact merged
  · exact fun p hp => current p (hsub.subset hp)
  · exact fun hn => ⟨(fresh hn).1, hnil (fresh hn).2⟩
  · exact fun l hl => (last l hl).imp id fun ⟨h₁, h₂⟩ => ⟨h₁, hnil h₂⟩

omit [CanonicalForm] [ATCGenericBaseModel T] in
theorem InStep.followsOn (hs : InStep window s) (hclear : s.source.isLoadingBottom = false) :
    FollowsOn window s.source.currentPage := by
  rw [FollowsOn]
  cases hl : (window.filterMap RestEvent.asked).getLast? with
  | none => exact (hs.fresh (List.getLast?_eq_none_iff.mp hl)).1
  | some l =>
    rcases hs.last l hl with ⟨_, hflag⟩ | ⟨hpage, _⟩
    · rw [hclear] at hflag; cases hflag
    · exact Or.inl hpage

omit [CanonicalForm] [ATCGenericBaseModel T] in
theorem InStep.of_asked (hs : InStep window s) (hasked : e.asked = some s.source.currentPage)
    (hmerged : e.merged = none) (hpage : s'.source.currentPage = s.source.currentPage)
    (hclear : s.source.isLoadingBottom = false) (hset : s'.source.isLoadingBottom = true)
    (hpages : s'.bottomPages = s.bottomPages ++ [s.source.currentPage]) :
    InStep (window ++ [e]) s' := by
  -- The current page is asked for; the guard says that no page is in flight.
  have hfollows := hs.followsOn hclear
  obtain ⟨inOrder, merged, positive, atMostOne, current, fresh, last⟩ := hs
  have hnone : s.bottomPages = [] := by
    rw [hclear] at atMostOne
    exact List.eq_nil_of_length_eq_zero (Nat.le_zero.mp atMostOne)
  rw [hnone, List.nil_append] at hpages
  refine ⟨askedInOrder_concat inOrder (by simp [hasked, hfollows]), ?_, by omega, ?_, ?_, ?_, ?_⟩
  all_goals simp only [List.filterMap_append, List.filterMap_cons, hasked, hmerged,
    List.filterMap_nil, List.append_nil, hpage, hset, hpages]
  · exact merged
  · simp
  · simp
  · simp
  · intro l hl
    left
    simpa using hl

omit [CanonicalForm] [ATCGenericBaseModel T] in
theorem InStep.of_merged {page : Nat} (hs : InStep window s) (hasked : e.asked = none)
    (hmerged : e.merged = some page) (hpage : s'.source.currentPage = s.source.currentPage + 1)
    (hflag : s'.source.isLoadingBottom = false)
    (hperm : s.bottomPages.Perm (page :: s'.bottomPages)) : InStep (window ++ [e]) s' := by
  obtain ⟨inOrder, merged, positive, atMostOne, current, fresh, last⟩ := hs
  have hlen := hperm.length_eq
  have hone := Bool.toNat_le s.source.isLoadingBottom
  simp only [List.length_cons] at hlen
  have hnone : s'.bottomPages = [] := List.eq_nil_of_length_eq_zero (by omega)
  have hcurrent := current page (hperm.symm.subset List.mem_cons_self)
  refine ⟨askedInOrder_concat inOrder (by simp [hasked]), ?_, by omega, by simp [hnone], ?_, ?_, ?_⟩
  all_goals simp only [List.filterMap_append, List.filterMap_cons, hasked, hmerged,
    List.filterMap_nil, List.append_nil, hpage, hflag, hnone]
  · rw [merged, hcurrent]
    obtain ⟨n, hn⟩ : ∃ n, s.source.currentPage = n + 1 := ⟨s.source.currentPage - 1, by omega⟩
    simp [hn, List.range'_concat, Nat.add_comm]
  · simp
  · intro hn
    have := (fresh hn).2
    rw [this] at hlen
    simp at hlen
  · intro l hl
    right
    rcases last l hl with ⟨hl, _⟩ | ⟨_, hempty⟩
    · exact ⟨by rw [hl], trivial⟩
    · rw [hempty] at hlen; simp at hlen

theorem InStep.next {a : RestAction T} (hs : InStep window s)
    (h : machine.step s a = some (s', e)) (he : e.isReload = false) :
    InStep (window ++ [e]) s' := by
  rcases step_page h he with ⟨hasked, hmerged, hpage, hflag, hsub⟩ |
    ⟨hasked, hmerged, hpage, hclear, hset, hpages⟩ | ⟨page, hasked, hmerged, hpage, hflag, hperm⟩
  · exact hs.of_quiet hasked hmerged hpage hflag hsub
  · exact hs.of_asked hasked hmerged hpage hclear hset hpages
  · exact hs.of_merged hasked hmerged hpage hflag hperm

end InStep

/-- The state after the events `window` of a window that began with a bottom request in
flight: its success moves the page to 2 before any page has been asked for. -/
def OutOfStep (window : List (RestEvent T)) (s : RestSession T) : Prop :=
  s.bottomPages.length ≤ s.source.isLoadingBottom.toNat ∧
  (window.filterMap RestEvent.asked = [] ∧
      (s.source.currentPage = 1 ∧ s.source.isLoadingBottom = true ∨
        s.source.currentPage = 2 ∧ s.bottomPages = []) ∨
    (window.filterMap RestEvent.asked).head? = some 2)

theorem OutOfStep.next {window : List (RestEvent T)} {s s' : RestSession T} {a : RestAction T}
    {e : RestEvent T} (hs : OutOfStep window s) (h : machine.step s a = some (s', e))
    (he : e.isReload = false) : OutOfStep (window ++ [e]) s' := by
  obtain ⟨atMostOne, hwindow⟩ := hs
  rcases step_page h he with ⟨hasked, hmerged, hpage, hflag, hsub⟩ |
    ⟨hasked, hmerged, hpage, hclear, hset, hpages⟩ | ⟨page, hasked, hmerged, hpage, hflag, hperm⟩
  · have hlen := hsub.length_le
    refine ⟨by rw [hflag]; omega, ?_⟩
    simp only [List.filterMap_append, List.filterMap_cons, hasked, List.filterMap_nil,
      List.append_nil, hpage, hflag]
    refine hwindow.imp_left fun ⟨hnil, hcases⟩ => ⟨hnil, hcases.imp_right fun ⟨htwo, hempty⟩ => ?_⟩
    rw [hempty] at hsub
    exact ⟨htwo, List.sublist_nil.mp hsub⟩
  · rw [hclear] at atMostOne
    have hnone : s.bottomPages = [] := List.eq_nil_of_length_eq_zero (Nat.le_zero.mp atMostOne)
    refine ⟨by simp [hset, hpages, hnone], Or.inr ?_⟩
    simp only [List.filterMap_append, List.filterMap_cons, hasked, List.filterMap_nil]
    rcases hwindow with ⟨hnil, ⟨_, hflag⟩ | ⟨htwo, _⟩⟩ | hhead
    · rw [hclear] at hflag; cases hflag
    · rw [hnil, htwo]; rfl
    · rw [List.head?_append, hhead]; rfl
  · have hlen := hperm.length_eq
    have hone := Bool.toNat_le s.source.isLoadingBottom
    simp only [List.length_cons] at hlen
    have hnone : s'.bottomPages = [] := List.eq_nil_of_length_eq_zero (by omega)
    refine ⟨by simp [hnone], ?_⟩
    simp only [List.filterMap_append, List.filterMap_cons, hasked, List.filterMap_nil,
      List.append_nil]
    refine hwindow.imp_left fun ⟨hnil, hcases⟩ => ⟨hnil, Or.inr ?_⟩
    rcases hcases with ⟨hpage₁, _⟩ | ⟨_, hempty⟩
    · exact ⟨by rw [hpage, hpage₁], hnone⟩
    · rw [hempty] at hlen; simp at hlen

/-! ## Every window of every run -/

section Windows

variable {configuration : ATCGenericRestAPIDataSourceConfiguration} {as : List (RestAction T)}
  {s : RestSession T} {window : List (RestEvent T)}

/-- A property of the steps between two reloads holds throughout a window. -/
theorem ReloadWindow.induct {P : List (RestEvent T) → RestSession T → Prop}
    (h : ReloadWindow configuration as s window)
    (start : s.source.currentPage = 1 → s.bottomPages.length ≤ s.source.isLoadingBottom.toNat →
      P [] s)
    (next : ∀ {w s a s' e}, P w s → machine.step s a = some (s', e) → e.isReload = false →
      P (w ++ [e]) s') : ∃ s', P window s' := by
  obtain ⟨before, a, during, after, s₀, log₀, e, s', -, hbefore, hstep, hreload, hrun, hwindow⟩ := h
  have hs := machine.run_concat_eq_some.mpr ⟨s₀, log₀, e, hbefore, hstep, rfl⟩
  have hle := run_inFlight_le .bottom hs
  rw [← length_bottomPages] at hle
  refine ⟨s', machine.run_induction
    (P := fun w s' => (∀ e ∈ w, e.isReload = false) → P w s') ?_ ?_ hrun hwindow⟩
  · exact fun _ => start (step_reload hstep hreload) hle
  · intro es s₁ a s₂ e ih hstep hes
    exact next (ih fun e he => hes e (List.mem_append_left _ he)) hstep (hes e (by simp))

theorem ReloadWindow.inStep (h : ReloadWindow configuration as s window)
    (hnone : s.bottomPages = []) : ∃ s', InStep window s' := by
  refine h.induct (fun hone hle => ?_) InStep.next
  refine ⟨?_, by simp [hone], by omega, hle, by simp [hnone], fun _ => ⟨hone, hnone⟩, by simp⟩
  intro before e after page hsplit
  simp at hsplit

theorem ReloadWindow.outOfStep (h : ReloadWindow configuration as s window)
    (hsome : s.bottomPages ≠ []) : ∃ s', OutOfStep window s' := by
  refine h.induct (fun hone hle => ⟨hle, Or.inl ⟨rfl, Or.inl ⟨hone, ?_⟩⟩⟩) OutOfStep.next
  have := List.length_pos_iff.mpr hsome
  cases hflag : s.source.isLoadingBottom with
  | true => rfl
  | false => rw [hflag] at hle; simp at hle; contradiction

end Windows

/-- **Pages are asked for in order** after a reload, unless a bottom request was in flight
at it and a page is asked for later on. In a window without such a request the pages
merged are 1, 2, 3, ... too, each once. -/
theorem pages_in_order_iff (configuration : ATCGenericRestAPIDataSourceConfiguration)
    (as : List (RestAction T)) :
    ((∀ s window, ReloadWindow configuration as s window → AskedInOrder window) ↔
      ∀ s window, ReloadWindow configuration as s window →
        s.bottomPages ≠ [] → window.filterMap RestEvent.asked = []) ∧
    ∀ s window, ReloadWindow configuration as s window → s.bottomPages = [] →
      ∃ n, window.filterMap RestEvent.merged = List.range' 1 n := by
  refine ⟨⟨?_, ?_⟩, ?_⟩
  · intro h s window hw hsome
    obtain ⟨s', _, ⟨hnil, _⟩ | hhead⟩ := hw.outOfStep hsome
    · exact hnil
    · exact absurd (h s window hw) (not_askedInOrder hhead)
  · intro h s window hw
    by_cases hnone : s.bottomPages = []
    · obtain ⟨s', hin⟩ := hw.inStep hnone
      exact hin.inOrder
    · intro before e after page hsplit he
      have hnil := h s window hw hnone
      rw [hsplit, List.filterMap_append, List.filterMap_cons, he] at hnil
      simp at hnil
  · intro s window hw hnone
    obtain ⟨s', hin⟩ := hw.inStep hnone
    exact ⟨_, hin.merged⟩

end RestSession

/-! ## A reload that overtakes a page -/

open scoped ASCII

/-- Page 1 is in flight when the second reload completes. -/
def overtakenSession : RestSession ATCImage :=
  ⟨{ configuration := sampleConfiguration, store := [{}], currentPage := 1,
      isLoadingBottom := true },
    [⟨.bottom 1, "/page", []⟩]⟩

theorem page_one_not_asked :
    ¬ ∀ (as : List (RestAction ATCImage)) s window,
      RestSession.ReloadWindow sampleConfiguration as s window → AskedInOrder window := by
  intro hall
  have hbefore : RestSession.machine.run (.initial sampleConfiguration : RestSession ATCImage)
      [.load .loadFirst, .complete 0 ⟨some [{}], .success⟩, .load .loadBottom, .load .loadFirst] =
      some (⟨overtakenSession.source, [⟨.bottom 1, "/page", []⟩, ⟨.first, "/first", []⟩]⟩, _) := rfl
  have hreload : RestSession.machine.step
      ⟨overtakenSession.source, [⟨.bottom 1, "/page", []⟩, ⟨.first, "/first", []⟩]⟩
      (.complete 1 ⟨some [{}], .success⟩) = some (overtakenSession, _) := rfl
  have hduring : (RestSession.machine.run overtakenSession
      [.complete 0 ⟨some [{}], .success⟩, .load .loadBottom]).map
      (fun r => ((r.2.filterMap RestEvent.asked).head?, r.2.all fun e => !e.isReload)) =
        some (some 2, true) := by decide
  obtain ⟨⟨s', window⟩, hrun, hwindow⟩ := Option.map_eq_some_iff.mp hduring
  simp only [Prod.mk.injEq, List.all_eq_true, Bool.not_eq_true'] at hwindow
  exact not_askedInOrder hwindow.1 (hall _ overtakenSession window
    ⟨_, _, _, [], _, _, _, s', rfl, hbefore, hreload, rfl, hrun, hwindow.2⟩)

end FinanceApp
