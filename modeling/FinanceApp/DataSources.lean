import FinanceApp.RestDataSource.Source

/-!
# The data sources of the core

The four kinds behind the protocol `ATCGenericCollectionViewControllerDataSource`. A
local source calls its delegate at once; a Firestore source, like the REST one, when
its query is answered. The query itself (table and conditions) is Firestore's.
-/

namespace FinanceApp

variable {T : Type}

/-! ## Local sources -/

structure ATCGenericLocalDataSource (T : Type) where
  items : List T

/-- The heterogeneous source is the same list, of any models, and is never updated. -/
structure ATCGenericLocalHeteroDataSource (T : Type) where
  items : List T

namespace ATCGenericLocalDataSource

variable (self : ATCGenericLocalDataSource T)

def numberOfObjects : Nat := self.items.length

def load : Load → Option (DelegateCall T)
  | .loadFirst => some (.didLoadFirst self.items)
  | .loadBottom => none
  | .loadTop => none

def update (_ : ATCGenericLocalDataSource T) (items : List T) :
    ATCGenericLocalDataSource T × Option (DelegateCall T) :=
  ({ items := items }, some (.didLoadFirst items))

end ATCGenericLocalDataSource

namespace ATCGenericLocalHeteroDataSource

variable (self : ATCGenericLocalHeteroDataSource T)

def numberOfObjects : Nat := self.items.length

def load : Load → Option (DelegateCall T)
  | .loadFirst => some (.didLoadFirst self.items)
  | .loadBottom => none
  | .loadTop => none

end ATCGenericLocalHeteroDataSource

/-! ## The Firestore source -/

structure ATCFirebaseFirestoreDataSource (T : Type) where
  items : List T := []
  limit : Option Nat := none
  additionalFilterBlock : Option (List T → List T) := none

structure QueryAnswer where
  documents : Option (List JSONDict)
  error : Option String

namespace ATCFirebaseFirestoreDataSource

variable (self : ATCFirebaseFirestoreDataSource T)

def numberOfObjects : Nat := self.items.length

/-- The filter comes first, then the limit. The delegate is handed the list before both. -/
def loadFirstCompletion [ATCGenericJSONParsable T] (answer : QueryAnswer) :
    ATCFirebaseFirestoreDataSource T × Option (DelegateCall T) :=
  match answer.error, answer.documents with
  | some _, _ => (self, none)
  | none, none => (self, none)
  | none, some documents =>
    let items := documents.map ATCGenericJSONParsable.initJsonDict
    let self := match self.additionalFilterBlock with
      | some additionalFilterBlock => { self with items := additionalFilterBlock items }
      | none => { self with items := items }
    let self := match self.limit with
      | some limit => { self with items := self.items.take limit }
      | none => self
    (self, some (.didLoadFirst items))

end ATCFirebaseFirestoreDataSource

/-! ## Any source -/

inductive DataSource (T : Type) where
  | rest (session : RestSession T)
  | list (source : ATCGenericLocalDataSource T)
  | hetero (source : ATCGenericLocalHeteroDataSource T)
  | firestore (source : ATCFirebaseFirestoreDataSource T) (queries : Nat)

inductive DataSourceAction (T : Type) where
  | load (call : Load)
  | complete (i : Nat) (response : ListResponse T)
  | answer (answer : QueryAnswer)
  | update (items : List T)

def RestEvent.call : RestEvent T → Option (DelegateCall T)
  | .loaded _ _ => none
  | .completed _ _ call => call

namespace DataSource

/-- What `object(at:)` gives, from 0 on. -/
def objects : DataSource T → List T
  | rest session => session.source.store
  | list source => source.items
  | hetero source => source.items
  | firestore source _ => source.items

def numberOfObjects : DataSource T → Nat
  | rest session => session.source.numberOfObjects
  | list source => source.numberOfObjects
  | hetero source => source.numberOfObjects
  | firestore source _ => source.numberOfObjects

@[simp] theorem numberOfObjects_eq (d : DataSource T) : d.numberOfObjects = d.objects.length := by
  cases d <;> rfl

variable [CanonicalForm] [ATCGenericBaseModel T]

/-- Only a local source is updated, and only a remote one has something to complete. -/
def step : DataSource T → DataSourceAction T → Option (DataSource T × Option (DelegateCall T))
  | rest session, .load call =>
    (session.step (.load call)).map fun (session, event) => (.rest session, event.call)
  | rest session, .complete i response =>
    (session.step (.complete i response)).map fun (session, event) => (.rest session, event.call)
  | list source, .load call => some (.list source, source.load call)
  | list source, .update items =>
    let (source, call) := source.update items
    some (.list source, call)
  | hetero source, .load call => some (.hetero source, source.load call)
  | firestore source queries, .load .loadFirst => some (.firestore source (queries + 1), none)
  | firestore source queries, .load _ => some (.firestore source queries, none)
  | firestore source (queries + 1), .answer answer =>
    let (source, call) := source.loadFirstCompletion answer
    some (.firestore source queries, call)
  | _, _ => none

/-- What a step of a source may do to its objects, by the call it makes: without a call
they stay, and `didLoadBottom` reports what was appended. -/
def CallMatches (before after : DataSource T) : Option (DelegateCall T) → Prop
  | none => after.objects = before.objects
  | some (.didLoadBottom objects) => after.objects = before.objects ++ objects
  | some _ => True

theorem callMatches_rest {s s' : RestSession T} {a : RestAction T} {e : RestEvent T}
    (h : s.step a = some (s', e)) : CallMatches (.rest s) (.rest s') e.call := by
  rcases RestSession.step_cases h with
    ⟨call, rfl, rfl, rfl⟩ | ⟨i, request, ⟨objects, status⟩, rfl, _, rfl, rfl⟩
  · exact ATCGenericRestAPIDataSource.load_store _ _
  · cases status with
    | error text => rw [ATCGenericRestAPIDataSource.complete_error]; rfl
    | success =>
      cases request.endpoint with
      | first =>
        rw [ATCGenericRestAPIDataSource.complete,
          ATCGenericRestAPIDataSource.loadFirstCompletion_success]
        trivial
      | bottom page =>
        rw [ATCGenericRestAPIDataSource.complete,
          ATCGenericRestAPIDataSource.loadBottomCompletion_success]
        rfl
      | top =>
        rw [ATCGenericRestAPIDataSource.complete,
          ATCGenericRestAPIDataSource.loadTopCompletion_success]
        trivial

theorem step_callMatches {d d' : DataSource T} {a : DataSourceAction T}
    {call : Option (DelegateCall T)} (h : d.step a = some (d', call)) : CallMatches d d' call := by
  cases d with
  | rest session =>
    cases a with
    | load loadCall =>
      simp only [step, Option.map_eq_some_iff, Prod.mk.injEq] at h
      obtain ⟨⟨session', event⟩, hstep, rfl, rfl⟩ := h
      exact callMatches_rest hstep
    | complete i response =>
      simp only [step, Option.map_eq_some_iff, Prod.mk.injEq] at h
      obtain ⟨⟨session', event⟩, hstep, rfl, rfl⟩ := h
      exact callMatches_rest hstep
    | answer answer => cases h
    | update items => cases h
  | list source =>
    cases a with
    | load loadCall => cases loadCall <;> cases h <;> trivial
    | update items => cases h; trivial
    | complete i response => cases h
    | answer answer => cases h
  | hetero source =>
    cases a with
    | load loadCall => cases loadCall <;> cases h <;> trivial
    | update items => cases h
    | complete i response => cases h
    | answer answer => cases h
  | firestore source queries =>
    cases a with
    | load loadCall => cases loadCall <;> cases h <;> rfl
    | update items => cases h
    | complete i response => cases h
    | answer answer =>
      cases queries with
      | zero => cases h
      | succ queries =>
        simp only [step, ATCFirebaseFirestoreDataSource.loadFirstCompletion] at h
        split at h <;> cases h <;> trivial

end DataSource

end FinanceApp
