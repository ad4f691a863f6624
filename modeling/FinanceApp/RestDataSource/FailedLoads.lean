import FinanceApp.RestDataSource.Merge

/-!
# Loads that bring no list

A load fails in two ways: there is no answer, or the answer is JSON of another shape than
a list of objects, as the body of an API error is. The second arrives as a success with
no objects, and counts as the last page.
-/

namespace FinanceApp

/-- What comes in from the network, for one of the requests in flight. -/
inductive WireAction where
  | load (call : Load)
  | answer (i : Nat) (result : AlamofireResult)

def parsedList (result : AlamofireResult) : Option (List JSONDict) :=
  result.value.bind JSON.asArrayOfObjects

theorem parsedList_eq_nil {result : AlamofireResult} (h : parsedList result = some []) :
    result.value = some (.array []) := by
  obtain ⟨json, hvalue, hlist⟩ := Option.bind_eq_some_iff.mp h
  cases json with
  | array items =>
    cases items with
    | nil => exact hvalue
    | cons item items =>
      simp [JSON.asArrayOfObjects, List.mapM_cons, Option.bind_eq_some_iff] at hlist
  | _ => simp [JSON.asArrayOfObjects] at hlist

@[simp] theorem ATCGenericRestAPIDataSource.load_ended {T : Type}
    (source : ATCGenericRestAPIDataSource T) (call : Load) :
    (source.load call).1.bottomStreamLoadingEnded = source.bottomStreamLoadingEnded := by
  cases call with
  | loadFirst => rfl
  | loadBottom => simp only [load, loadBottom]; split <;> rfl
  | loadTop => simp only [load, loadTop]; split <;> rfl

namespace RestSession

variable {T : Type} [CanonicalForm] [ATCGenericBaseModel T]

def wireStep (s : RestSession T) : WireAction → Option (RestSession T × RestEvent T)
  | .load call => s.step (.load call)
  | .answer i result => s.step (.complete i (retrieveListFromJSON result))

def wireMachine : Machine (RestSession T) WireAction (RestEvent T) := ⟨wireStep⟩

/-- What pagination goes by. -/
structure SamePages (s s' : RestSession T) : Prop where
  store : s'.source.store = s.source.store
  currentPage : s'.source.currentPage = s.source.currentPage
  bottomStreamLoadingEnded :
    s'.source.bottomStreamLoadingEnded = s.source.bottomStreamLoadingEnded

/-- A first or bottom load that brings no list changes nothing, and only an empty array
ends the stream. -/
structure FailuresKeepPages (s : RestSession T) (a : WireAction) (s' : RestSession T)
    (_ : RestEvent T) : Prop where
  failed : ∀ i result request, a = .answer i result → s.inFlight[i]? = some request →
    request.endpoint ≠ .top → parsedList result = none → SamePages s s'
  ended : s.source.bottomStreamLoadingEnded = false →
    s'.source.bottomStreamLoadingEnded = true →
      ∃ i result, a = .answer i result ∧ result.value = some (.array [])

/-- First and bottom loads are answered with a list or not at all. The one other answer
that does no harm is to a first load, on the first page of a stream that has ended. -/
def AnsweredWithLists (s : RestSession T) (a : WireAction) (_ : RestSession T)
    (_ : RestEvent T) : Prop :=
  ∀ i result request, a = .answer i result → s.inFlight[i]? = some request →
    request.endpoint ≠ .top → result.value.isSome → parsedList result = none →
      request.endpoint = .first ∧ s.source.currentPage = 1 ∧
        s.source.bottomStreamLoadingEnded = true

/-! ## One answer -/

theorem complete_pages (source : ATCGenericRestAPIDataSource T) {endpoint : Endpoint}
    (hendpoint : endpoint ≠ .top) (objects : Option (List T)) :
    (source.complete endpoint ⟨objects, .success⟩).1.currentPage =
        (if endpoint = .first then 1 else source.currentPage + 1) ∧
      (source.complete endpoint ⟨objects, .success⟩).1.bottomStreamLoadingEnded =
        (source.bottomStreamLoadingEnded ||
          ATCGenericRestAPIDataSource.noObjects objects) := by
  cases endpoint with
  | first =>
    rw [ATCGenericRestAPIDataSource.complete,
      ATCGenericRestAPIDataSource.loadFirstCompletion_success]
    exact ⟨rfl, rfl⟩
  | bottom page =>
    rw [ATCGenericRestAPIDataSource.complete,
      ATCGenericRestAPIDataSource.loadBottomCompletion_success]
    exact ⟨by simp, rfl⟩
  | top => exact absurd rfl hendpoint

@[simp] theorem complete_top_ended (source : ATCGenericRestAPIDataSource T)
    (response : ListResponse T) :
    (source.complete .top response).1.bottomStreamLoadingEnded =
      source.bottomStreamLoadingEnded := by
  obtain ⟨objects, status⟩ := response
  cases status with
  | error text => rw [ATCGenericRestAPIDataSource.complete_error]
  | success =>
    rw [ATCGenericRestAPIDataSource.complete,
      ATCGenericRestAPIDataSource.loadTopCompletion_success]

section Answer

variable {s s' : RestSession T} {i : Nat} {result : AlamofireResult} {request : Request}
  {e : RestEvent T} {json : JSON}

theorem failuresKeepPages_of_no_answer (hvalue : result.value = none)
    (hsource : s'.source =
      (s.source.complete request.endpoint (retrieveListFromJSON result)).1) :
    FailuresKeepPages s (.answer i result) s' e := by
  have hsame : s'.source = s.source := by
    rw [hsource, retrieveListFromJSON_eq]
    simp [hvalue]
  refine ⟨fun _ _ _ _ _ _ _ => ⟨?_, ?_, ?_⟩, fun hbefore hafter => ?_⟩
  · rw [hsame]
  · rw [hsame]
  · rw [hsame]
  · simp [hsame, hbefore] at hafter

omit [CanonicalForm] in
theorem retrieveListFromJSON_some (hvalue : result.value = some json) :
    retrieveListFromJSON result =
      (⟨json.asArrayOfObjects.map (List.map ATCGenericJSONParsable.initJsonDict), .success⟩ :
        ListResponse T) := by
  rw [retrieveListFromJSON_eq]
  simp [hvalue]

theorem failuresKeepPages_of_list {jsonArray : List JSONDict}
    (hendpoint : request.endpoint ≠ .top) (hvalue : result.value = some json)
    (hparsed : json.asArrayOfObjects = some jsonArray)
    (hsource : s'.source =
      (s.source.complete request.endpoint (retrieveListFromJSON result)).1) :
    FailuresKeepPages s (.answer i result) s' e := by
  have hparse : parsedList result = some jsonArray := by
    rw [parsedList, hvalue, Option.bind_some, hparsed]
  refine ⟨?_, fun hbefore hafter => ?_⟩
  · rintro _ _ _ ⟨⟩ _ _ hnone
    simp [hparse] at hnone
  · rw [hsource, retrieveListFromJSON_some hvalue, (complete_pages s.source hendpoint _).2, hbefore,
      Bool.false_or, hparsed] at hafter
    have hnil : jsonArray = [] := by
      simpa [ATCGenericRestAPIDataSource.noObjects] using hafter
    exact ⟨i, result, rfl, parsedList_eq_nil (hparse.trans (congrArg some hnil))⟩

theorem failuresKeepPages_iff_of_other (hrequest : s.inFlight[i]? = some request)
    (hendpoint : request.endpoint ≠ .top) (hvalue : result.value = some json)
    (hparsed : json.asArrayOfObjects = none)
    (hsource : s'.source =
      (s.source.complete request.endpoint (retrieveListFromJSON result)).1) :
    FailuresKeepPages s (.answer i result) s' e ↔
      request.endpoint = .first ∧ s.source.currentPage = 1 ∧
        s.source.bottomStreamLoadingEnded = true := by
  -- A success without objects turns the page and ends the stream.
  rw [retrieveListFromJSON_some hvalue, hparsed, Option.map_none] at hsource
  obtain ⟨hstore, _⟩ := s.source.complete_success request.endpoint none
  obtain ⟨hpage, hended⟩ := complete_pages s.source hendpoint none
  rw [← hsource] at hstore hpage hended
  simp only [ATCGenericRestAPIDataSource.newObjects, Option.getD_none, FirstOccurrences.fresh,
    List.append_nil] at hstore
  simp only [ATCGenericRestAPIDataSource.noObjects, Option.map_none, Option.getD_none,
    beq_self_eq_true, Bool.or_true] at hended
  constructor
  · intro h
    have hparse : parsedList result = none := by
      rw [parsedList, hvalue, Option.bind_some, hparsed]
    have hsame := h.failed i result request rfl hrequest hendpoint hparse
    have hkept := hsame.currentPage
    rw [hpage] at hkept
    split at hkept
    · rename_i hfirst
      exact ⟨hfirst, hkept.symm, hsame.bottomStreamLoadingEnded.symm.trans hended⟩
    · omega
  · rintro ⟨hfirst, hone, hbefore⟩
    rw [if_pos hfirst] at hpage
    refine ⟨fun _ _ _ _ _ _ _ => ⟨hstore, hpage.trans hone.symm, hended.trans hbefore.symm⟩,
      fun hnot _ => ?_⟩
    simp [hbefore] at hnot

theorem answer_failuresKeepPages (hrequest : s.inFlight[i]? = some request)
    (hendpoint : request.endpoint ≠ .top)
    (hsource : s'.source =
      (s.source.complete request.endpoint (retrieveListFromJSON result)).1) :
    FailuresKeepPages s (.answer i result) s' e ↔
      (result.value.isSome → parsedList result = none →
        request.endpoint = .first ∧ s.source.currentPage = 1 ∧
          s.source.bottomStreamLoadingEnded = true) := by
  -- An answered load that is not a top one keeps its promise unless it is answered with JSON of
  -- another shape, and then only where it has nothing left to change.
  cases hvalue : result.value with
  | none => exact iff_of_true (failuresKeepPages_of_no_answer hvalue hsource) (by simp)
  | some json =>
    have hparse : parsedList result = json.asArrayOfObjects := by
      rw [parsedList, hvalue, Option.bind_some]
    rw [hparse]
    cases hparsed : json.asArrayOfObjects with
    | none => simp [failuresKeepPages_iff_of_other hrequest hendpoint hvalue hparsed hsource]
    | some jsonArray =>
      exact iff_of_true (failuresKeepPages_of_list hendpoint hvalue hparsed hsource) (by simp)

end Answer

/-! ## Steps and runs -/

theorem wireStep_cases {s s' : RestSession T} {a : WireAction} {e : RestEvent T}
    (h : wireMachine.step s a = some (s', e)) :
    (∃ call, a = .load call ∧ s'.source = (s.source.load call).1) ∨
      ∃ i result request, a = .answer i result ∧ s.inFlight[i]? = some request ∧
        s'.source = (s.source.complete request.endpoint (retrieveListFromJSON result)).1 := by
  cases a with
  | load call =>
    have hstep : machine.step s (.load call) = some (s', e) := h
    rcases step_cases hstep with ⟨_, heq, rfl, _⟩ | ⟨_, _, _, heq, _⟩
    · cases heq
      exact .inl ⟨call, rfl, rfl⟩
    · cases heq
  | answer i result =>
    have hstep : machine.step s (.complete i (retrieveListFromJSON result)) = some (s', e) := h
    rcases step_cases hstep with ⟨_, heq, _⟩ | ⟨_, request, _, heq, hrequest, rfl, _⟩
    · cases heq
    · cases heq
      exact .inr ⟨i, result, request, rfl, hrequest, rfl⟩

theorem step_failuresKeepPages {s s' : RestSession T} {a : WireAction} {e : RestEvent T}
    (h : wireMachine.step s a = some (s', e)) :
    FailuresKeepPages s a s' e ↔ AnsweredWithLists s a s' e := by
  rcases wireStep_cases h with ⟨call, rfl, hsource⟩ | ⟨i, result, request, rfl, hrequest, hsource⟩
  · refine iff_of_true ⟨by rintro _ _ _ ⟨⟩, fun hbefore hafter => ?_⟩ (by rintro _ _ _ ⟨⟩)
    simp [hsource, hbefore] at hafter
  · by_cases hendpoint : request.endpoint = .top
    · have htop : ∀ request', s.inFlight[i]? = some request' → request'.endpoint = .top := by
        intro request' hrequest'
        rwa [Option.some.inj (hrequest.symm.trans hrequest')] at hendpoint
      refine iff_of_true ⟨?_, fun hbefore hafter => ?_⟩ ?_
      · rintro _ _ request' ⟨⟩ hrequest' hne
        exact absurd (htop request' hrequest') hne
      · simp [hsource, hendpoint, hbefore] at hafter
      · rintro _ _ request' ⟨⟩ hrequest' hne
        exact absurd (htop request' hrequest') hne
    · rw [answer_failuresKeepPages hrequest hendpoint hsource]
      constructor
      · rintro h _ _ _ ⟨⟩ hrequest' _
        rw [← Option.some.inj (hrequest.symm.trans hrequest')]
        exact h
      · intro h
        exact h i result request rfl hrequest hendpoint

/-- **Failed loads leave the pages alone as long as every first and bottom load is answered
with a list or not at all**, over every run from an empty source. -/
theorem failures_keep_pages_iff (configuration : ATCGenericRestAPIDataSourceConfiguration)
    (as : List WireAction) :
    wireMachine.Always FailuresKeepPages (initial configuration : RestSession T) as ↔
      wireMachine.Always AnsweredWithLists (initial configuration : RestSession T) as :=
  wireMachine.always_congr (I := fun _ => True) trivial (fun _ _ => trivial)
    fun _ => step_failuresKeepPages

end RestSession

open scoped ASCII

theorem error_body_ends_stream :
    ¬ ∀ as, RestSession.wireMachine.Always RestSession.FailuresKeepPages
      (RestSession.initial sampleConfiguration : RestSession ATCImage) as := by
  -- The body of an API error ends the stream on its first page.
  intro hall
  have hkeeps := hall [.load .loadFirst, .answer 0 ⟨some (.object []), none⟩] [.load .loadFirst]
    (.answer 0 ⟨some (.object []), none⟩) [] _ _ _ _ rfl rfl rfl
  have hsame := hkeeps.failed 0 _ _ rfl rfl (by decide) rfl
  exact absurd hsame.currentPage (by decide)

end FinanceApp
