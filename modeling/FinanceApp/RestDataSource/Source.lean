import FinanceApp.Lib.Machine
import FinanceApp.Lib.FirstOccurrences
import FinanceApp.Networking

/-!
# The REST data source

`ATCGenericRestAPIDataSource`, and the machine of one source with its requests in
flight. A load call may put a request in flight; a completion takes one out and runs
the closure that was passed with it. The delegate is not part of the source: a
completion returns the call it makes.
-/

open FirstOccurrences

namespace FinanceApp

structure ATCGenericRestAPIDataSourceConfiguration where
  loadFirstURLString : String
  loadTopURLString : String
  consumerKey : Option String
  consumerSecret : Option String
  computeLoadBottomURLString : Nat → String

/-- `currentPage` is a `UInt`, and only grows by one page a request. -/
structure ATCGenericRestAPIDataSource (T : Type) where
  configuration : ATCGenericRestAPIDataSourceConfiguration
  store : List T := []
  currentPage : Nat := 0
  bottomStreamLoadingEnded : Bool := false
  isLoadingBottom : Bool := false
  isLoadingTop : Bool := false

inductive DelegateCall (T : Type) where
  | didLoadFirst (objects : List T)
  | didLoadBottom (objects : List T)
  | didLoadTop (objects : List T)
  deriving DecidableEq, Repr

def DelegateCall.objects {T : Type} : DelegateCall T → List T
  | didLoadFirst objects | didLoadBottom objects | didLoadTop objects => objects

/-- Which closure a request completes with. A bottom request keeps the page it was
issued for. -/
inductive Endpoint where
  | first
  | bottom (page : Nat)
  | top
  deriving DecidableEq, Repr

structure Request where
  endpoint : Endpoint
  urlPath : String
  parameters : List (String × String)
  deriving DecidableEq, Repr

inductive Load where
  | loadFirst
  | loadBottom
  | loadTop
  deriving DecidableEq, Repr

namespace ATCGenericRestAPIDataSource

variable {T : Type} (self : ATCGenericRestAPIDataSource T)

def object (index : Nat) : Option T :=
  if h : index < self.store.length then some self.store[index] else none

def numberOfObjects : Nat := self.store.length

def requestParameters : List (String × String) :=
  match self.configuration.consumerKey, self.configuration.consumerSecret with
  | some consumerKey, some consumerSecret =>
    [("consumer_key", consumerKey), ("consumer_secret", consumerSecret)]
  | _, _ => []

/-! ## The load calls: the state after, and the request if one is sent -/

def loadFirst : ATCGenericRestAPIDataSource T × Option Request :=
  (self, some ⟨.first, self.configuration.loadFirstURLString, self.requestParameters⟩)

def loadBottom : ATCGenericRestAPIDataSource T × Option Request :=
  if self.isLoadingBottom || self.bottomStreamLoadingEnded then (self, none)
  else
    ({ self with isLoadingBottom := true },
      some ⟨.bottom self.currentPage,
        self.configuration.computeLoadBottomURLString self.currentPage, self.requestParameters⟩)

def loadTop : ATCGenericRestAPIDataSource T × Option Request :=
  if self.isLoadingTop then (self, none)
  else
    ({ self with isLoadingTop := true },
      some ⟨.top, self.configuration.loadTopURLString, self.requestParameters⟩)

def load : Load → ATCGenericRestAPIDataSource T × Option Request
  | .loadFirst => self.loadFirst
  | .loadBottom => self.loadBottom
  | .loadTop => self.loadTop

@[simp] theorem load_store (call : Load) : (self.load call).1.store = self.store := by
  cases call
  · rfl
  · simp only [load, loadBottom]; split <;> rfl
  · simp only [load, loadTop]; split <;> rfl

/-! ## The completions: the state after, and the delegate call if one is made -/

def noObjects (objects : Option (List T)) : Bool := (objects.map List.length).getD 0 == 0

variable [CanonicalForm] [ATCGenericBaseModel T]

def findStreamObject (object : T) : Bool :=
  (self.store.filter fun other => stringEq (description object) (description other)).length > 0

/-- One turn of the loop that all three completions share. The second component is `results`. -/
def mergeObject (acc : ATCGenericRestAPIDataSource T × List T) (object : T) :
    ATCGenericRestAPIDataSource T × List T :=
  if !acc.1.findStreamObject object then
    ({ acc.1 with store := acc.1.store ++ [object] }, acc.2 ++ [object])
  else acc

/-- `objects?.forEach`, which does nothing for `nil`. -/
def mergeObjects (objects : Option (List T)) : ATCGenericRestAPIDataSource T × List T :=
  (objects.getD []).foldl mergeObject (self, [])

def loadFirstCompletion (response : ListResponse T) :
    ATCGenericRestAPIDataSource T × Option (DelegateCall T) :=
  match response.status with
  | .success =>
    let (self, results) := { self with currentPage := 1 }.mergeObjects response.objects
    let self :=
      if noObjects response.objects then { self with bottomStreamLoadingEnded := true } else self
    (self, some (.didLoadFirst results))
  | .error _ => (self, none)

def loadBottomCompletion (response : ListResponse T) :
    ATCGenericRestAPIDataSource T × Option (DelegateCall T) :=
  match response.status with
  | .success =>
    let (self, results) :=
      { self with currentPage := self.currentPage + 1 }.mergeObjects response.objects
    let self :=
      if noObjects response.objects then { self with bottomStreamLoadingEnded := true } else self
    ({ self with isLoadingBottom := false }, some (.didLoadBottom results))
  | .error _ => (self, none)

def loadTopCompletion (response : ListResponse T) :
    ATCGenericRestAPIDataSource T × Option (DelegateCall T) :=
  match response.status with
  | .success =>
    let (self, results) := self.mergeObjects response.objects
    ({ self with isLoadingTop := false }, some (.didLoadTop results))
  | .error _ => (self, none)

def complete : Endpoint → ListResponse T → ATCGenericRestAPIDataSource T × Option (DelegateCall T)
  | .first => self.loadFirstCompletion
  | .bottom _ => self.loadBottomCompletion
  | .top => self.loadTopCompletion

/-! ## What the completions do -/

def descriptionForm (object : T) : String := canonicalForm (description object)

/-- The objects of a response that the store lacks, each once. -/
def newObjects (objects : Option (List T)) : List T :=
  fresh descriptionForm self.store (objects.getD [])

theorem findStreamObject_iff (object : T) :
    self.findStreamObject object = true ↔
      descriptionForm object ∈ self.store.map descriptionForm := by
  simp only [findStreamObject, descriptionForm, gt_iff_lt, decide_eq_true_eq, List.length_pos_iff,
    ne_eq, List.filter_eq_nil_iff, not_forall, Decidable.not_not, stringEq_iff, List.mem_map,
    exists_prop]
  exact ⟨fun ⟨x, hx, he⟩ => ⟨x, hx, he.symm⟩, fun ⟨x, hx, he⟩ => ⟨x, hx, he.symm⟩⟩

theorem foldl_mergeObject (objects results : List T) :
    objects.foldl mergeObject (self, results) =
      ({ self with store := self.store ++ fresh descriptionForm self.store objects },
        results ++ fresh descriptionForm self.store objects) := by
  induction objects generalizing self results with
  | nil => simp
  | cons x xs ih =>
    rw [List.foldl_cons, fresh, mergeObject]
    by_cases hx : descriptionForm x ∈ self.store.map descriptionForm
    · rw [if_pos hx, (self.findStreamObject_iff x).mpr hx]
      exact ih self results
    · have hnew : self.findStreamObject x = false := by
        rw [← Bool.not_eq_true, self.findStreamObject_iff x]; exact hx
      simp only [hnew, if_neg hx, Bool.not_false, if_true, ih, List.append_assoc,
        List.cons_append, List.nil_append]

theorem mergeObjects_eq (objects : Option (List T)) :
    self.mergeObjects objects =
      ({ self with store := self.store ++ self.newObjects objects }, self.newObjects objects) := by
  simp [mergeObjects, foldl_mergeObject, newObjects]

theorem loadFirstCompletion_success (objects : Option (List T)) :
    self.loadFirstCompletion ⟨objects, .success⟩ =
      ({ self with
          store := self.store ++ self.newObjects objects
          currentPage := 1
          bottomStreamLoadingEnded := self.bottomStreamLoadingEnded || noObjects objects },
        some (.didLoadFirst (self.newObjects objects))) := by
  simp only [loadFirstCompletion, mergeObjects_eq, newObjects]
  cases noObjects objects <;> simp

theorem loadBottomCompletion_success (objects : Option (List T)) :
    self.loadBottomCompletion ⟨objects, .success⟩ =
      ({ self with
          store := self.store ++ self.newObjects objects
          currentPage := self.currentPage + 1
          bottomStreamLoadingEnded := self.bottomStreamLoadingEnded || noObjects objects
          isLoadingBottom := false },
        some (.didLoadBottom (self.newObjects objects))) := by
  simp only [loadBottomCompletion, mergeObjects_eq, newObjects]
  cases noObjects objects <;> simp

theorem loadTopCompletion_success (objects : Option (List T)) :
    self.loadTopCompletion ⟨objects, .success⟩ =
      ({ self with store := self.store ++ self.newObjects objects, isLoadingTop := false },
        some (.didLoadTop (self.newObjects objects))) := by
  simp [loadTopCompletion, mergeObjects_eq]

@[simp] theorem complete_error (endpoint : Endpoint) (objects : Option (List T))
    (text : Option String) :
    self.complete endpoint ⟨objects, .error text⟩ = (self, none) := by
  cases endpoint <;> rfl

theorem complete_success (endpoint : Endpoint) (objects : Option (List T)) :
    (self.complete endpoint ⟨objects, .success⟩).1.store =
        self.store ++ self.newObjects objects ∧
      ∃ call, (self.complete endpoint ⟨objects, .success⟩).2 = some call ∧
        call.objects = self.newObjects objects := by
  cases endpoint with
  | first =>
    rw [complete, loadFirstCompletion_success]
    exact ⟨rfl, _, rfl, rfl⟩
  | bottom page =>
    rw [complete, loadBottomCompletion_success]
    exact ⟨rfl, _, rfl, rfl⟩
  | top =>
    rw [complete, loadTopCompletion_success]
    exact ⟨rfl, _, rfl, rfl⟩

end ATCGenericRestAPIDataSource

/-! ## One source and its requests in flight -/

structure RestSession (T : Type) where
  source : ATCGenericRestAPIDataSource T
  inFlight : List Request := []

/-- A completion names the request by its place among those in flight, so they complete
in any order, and each at most once. -/
inductive RestAction (T : Type) where
  | load (call : Load)
  | complete (i : Nat) (response : ListResponse T)

inductive RestEvent (T : Type) where
  | loaded (call : Load) (request : Option Request)
  | completed (request : Request) (response : ListResponse T) (call : Option (DelegateCall T))

namespace RestSession

variable {T : Type} [CanonicalForm] [ATCGenericBaseModel T]

def initial (configuration : ATCGenericRestAPIDataSourceConfiguration) : RestSession T :=
  { source := { configuration := configuration } }

def step (s : RestSession T) : RestAction T → Option (RestSession T × RestEvent T)
  | .load call =>
    let (source, request) := s.source.load call
    some (⟨source, s.inFlight ++ request.toList⟩, .loaded call request)
  | .complete i response =>
    match s.inFlight[i]? with
    | none => none
    | some request =>
      let (source, call) := s.source.complete request.endpoint response
      some (⟨source, s.inFlight.eraseIdx i⟩, .completed request response call)

def machine : Machine (RestSession T) (RestAction T) (RestEvent T) := ⟨step⟩

theorem step_cases {s s' : RestSession T} {a : RestAction T} {e : RestEvent T}
    (h : machine.step s a = some (s', e)) :
    (∃ call, a = .load call ∧
      s' = ⟨(s.source.load call).1, s.inFlight ++ (s.source.load call).2.toList⟩ ∧
      e = .loaded call (s.source.load call).2) ∨
    (∃ i request response, a = .complete i response ∧ s.inFlight[i]? = some request ∧
      s' = ⟨(s.source.complete request.endpoint response).1, s.inFlight.eraseIdx i⟩ ∧
      e = .completed request response (s.source.complete request.endpoint response).2) := by
  cases a with
  | load call =>
    simp only [machine, step, Option.some.injEq, Prod.mk.injEq] at h
    exact .inl ⟨call, rfl, h.1.symm, h.2.symm⟩
  | complete i response =>
    simp only [machine, step] at h
    cases hi : s.inFlight[i]? with
    | none => simp [hi] at h
    | some request =>
      simp only [hi, Option.some.injEq, Prod.mk.injEq] at h
      exact .inr ⟨i, request, response, rfl, hi, h.1.symm, h.2.symm⟩

end RestSession

end FinanceApp
