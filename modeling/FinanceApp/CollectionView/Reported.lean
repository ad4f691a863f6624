import FinanceApp.DataSources
import Mathlib.Data.List.Infix

/-!
# What a source reports and what it exposes

The delegate is handed a list, and then reads the objects one by one. The Firestore source
reports the list of its query and exposes it filtered and cut off.
-/

namespace FinanceApp

variable {T : Type}

def ATCGenericLocalDataSource.object (self : ATCGenericLocalDataSource T)
    (index : Nat) : Option T :=
  if h : index < self.items.length then some self.items[index] else none

def ATCGenericLocalHeteroDataSource.object (self : ATCGenericLocalHeteroDataSource T)
    (index : Nat) : Option T :=
  if h : index < self.items.length then some self.items[index] else none

theorem take_eq_iff {α : Type*} {l m : List α} {n : Nat} :
    m.take n = l ↔ m = l ∧ l.length ≤ n ∨ n = l.length ∧ l <+: m := by
  constructor
  · rintro rfl
    rcases Nat.le_total m.length n with hshort | hlong
    · rw [List.take_of_length_le hshort]
      exact .inl ⟨rfl, hshort⟩
    · exact .inr ⟨by rw [List.length_take, Nat.min_eq_left hlong], List.take_prefix n m⟩
  · rintro (⟨rfl, hshort⟩ | ⟨rfl, hbegins⟩)
    · exact List.take_of_length_le hshort
    · exact (List.prefix_iff_eq_take.mp hbegins).symm

namespace ATCFirebaseFirestoreDataSource

variable (self : ATCFirebaseFirestoreDataSource T)

def object (index : Nat) : Option T :=
  if h : index < self.items.length then some self.items[index] else none

def filtered (items : List T) : List T :=
  match self.additionalFilterBlock with
  | some additionalFilterBlock => additionalFilterBlock items
  | none => items

def narrowed (items : List T) : List T :=
  match self.limit with
  | some limit => (self.filtered items).take limit
  | none => self.filtered items

/-- The filter changes nothing and the limit is not reached, or it is just reached and what
the filter adds lies behind it. -/
def KeepsList (items : List T) : Prop :=
  self.filtered items = items ∧ (∀ limit, self.limit = some limit → items.length ≤ limit) ∨
    self.limit = some items.length ∧ items <+: self.filtered items

variable {self} in
theorem narrowed_eq_iff {items : List T} : self.narrowed items = items ↔ self.KeepsList items := by
  simp only [narrowed, KeepsList]
  cases self.limit with
  | none => simp
  | some limit => simp [take_eq_iff]

theorem loadFirstCompletion_reports [ATCGenericJSONParsable T] {answer : QueryAnswer}
    {objects : List T} (h : (self.loadFirstCompletion answer).2 = some (.didLoadFirst objects)) :
    ∃ documents, answer.documents = some documents ∧
      objects = documents.map ATCGenericJSONParsable.initJsonDict ∧
      (self.loadFirstCompletion answer).1.items = self.narrowed objects := by
  obtain ⟨documents, error⟩ := answer
  cases error with
  | some error => cases h
  | none =>
    cases documents with
    | none => cases h
    | some documents =>
      obtain rfl := DelegateCall.didLoadFirst.inj (Option.some.inj h)
      refine ⟨documents, rfl, rfl, ?_⟩
      simp only [loadFirstCompletion, narrowed, filtered]
      cases self.additionalFilterBlock <;> cases self.limit <;> rfl

end ATCFirebaseFirestoreDataSource

namespace DataSource

/-- `object(at:)`. -/
def object : DataSource T → Nat → Option T
  | rest session => session.source.object
  | list source => source.object
  | hetero source => source.object
  | firestore source _ => source.object

/-- The objects at 0, 1 and so on up to `numberOfObjects`. -/
def exposed (d : DataSource T) : List (Option T) := (List.range d.numberOfObjects).map d.object

theorem object_eq (d : DataSource T) (index : Nat) : d.object index = d.objects[index]? := by
  rw [getElem?_def]
  cases d <;> rfl

theorem exposed_eq (d : DataSource T) : d.exposed = d.objects.map some := by
  rw [exposed, numberOfObjects_eq]
  apply List.ext_getElem (by simp)
  intro i hi _
  have hlt : i < d.objects.length := by simpa using hi
  simp [object_eq, hlt]

/-- A Firestore source neither filters out nor cuts off what the query brought. -/
def Unnarrowed (d : DataSource T) [ATCGenericJSONParsable T] (a : DataSourceAction T) : Prop :=
  ∀ source queries answer documents, d = .firestore source queries → a = .answer answer →
    answer.documents = some documents →
      source.KeepsList (documents.map ATCGenericJSONParsable.initJsonDict)

variable [CanonicalForm] [ATCGenericBaseModel T]

theorem list_reports {source : ATCGenericLocalDataSource T} {d' : DataSource T}
    {a : DataSourceAction T} {objects : List T}
    (h : (list source).step a = some (d', some (.didLoadFirst objects))) :
    objects = d'.objects := by
  cases a with
  | load call =>
    cases call with
    | loadFirst => cases h; rfl
    | loadBottom => cases h
    | loadTop => cases h
  | update items => cases h; rfl
  | complete i response => cases h
  | answer answer => cases h

theorem hetero_reports {source : ATCGenericLocalHeteroDataSource T} {d' : DataSource T}
    {a : DataSourceAction T} {objects : List T}
    (h : (hetero source).step a = some (d', some (.didLoadFirst objects))) :
    objects = d'.objects := by
  cases a with
  | load call =>
    cases call with
    | loadFirst => cases h; rfl
    | loadBottom => cases h
    | loadTop => cases h
  | update items => cases h
  | complete i response => cases h
  | answer answer => cases h

theorem firestore_reports {source : ATCFirebaseFirestoreDataSource T} {queries : Nat}
    {d' : DataSource T} {a : DataSourceAction T} {objects : List T}
    (h : (firestore source queries).step a = some (d', some (.didLoadFirst objects))) :
    ∃ answer documents, a = .answer answer ∧ answer.documents = some documents ∧
      objects = documents.map ATCGenericJSONParsable.initJsonDict ∧
      d'.objects = source.narrowed objects := by
  cases a with
  | load call => cases call <;> cases h
  | update items => cases h
  | complete i response => cases h
  | answer answer =>
    cases queries with
    | zero => cases h
    | succ queries =>
      simp only [step, Option.some.injEq, Prod.mk.injEq] at h
      obtain ⟨rfl, hcall⟩ := h
      obtain ⟨documents, hdocuments, hobjects, hitems⟩ := source.loadFirstCompletion_reports hcall
      exact ⟨answer, documents, rfl, hdocuments, hobjects, hitems⟩

/-- **The list reported is the list exposed exactly when** the query's list is not narrowed. -/
theorem reported_eq_exposed_iff {d d' : DataSource T} {a : DataSourceAction T} {objects : List T}
    (hkind : ∀ session, d ≠ .rest session)
    (h : d.step a = some (d', some (.didLoadFirst objects))) :
    objects.map some = d'.exposed ↔ d.Unnarrowed a := by
  have hexposed : objects.map some = d'.exposed ↔ objects = d'.objects := by
    rw [exposed_eq]
    exact List.map_inj_right fun _ _ heq => Option.some.inj heq
  rw [hexposed]
  cases d with
  | rest session => exact absurd rfl (hkind session)
  | list source =>
    have hlocal : (list source : DataSource T).Unnarrowed a := by rintro _ _ _ _ ⟨⟩
    exact iff_of_true (list_reports h) hlocal
  | hetero source =>
    have hlocal : (hetero source : DataSource T).Unnarrowed a := by rintro _ _ _ _ ⟨⟩
    exact iff_of_true (hetero_reports h) hlocal
  | firestore source queries =>
    obtain ⟨answer, documents, rfl, hdocuments, rfl, hobjects⟩ := firestore_reports h
    rw [hobjects, eq_comm, ATCFirebaseFirestoreDataSource.narrowed_eq_iff]
    constructor
    · rintro hkeeps _ _ _ documents' ⟨⟩ ⟨⟩ hdocuments'
      rw [hdocuments] at hdocuments'
      rw [← Option.some.inj hdocuments']
      exact hkeeps
    · intro hunnarrowed
      exact hunnarrowed source _ answer documents rfl rfl hdocuments

end DataSource

open scoped ASCII

/-- Its filter adds an image of the app behind those of the query. -/
def limitedSource : ATCFirebaseFirestoreDataSource ATCImage where
  limit := some 2
  additionalFilterBlock := some fun images => images ++ [⟨some "a", false⟩]

theorem reported_eq_exposed_at_the_limit :
    ∃ d', (DataSource.firestore limitedSource 1).step (.answer ⟨some [[], []], none⟩) =
        some (d', some (.didLoadFirst [{}, {}])) ∧
      d'.numberOfObjects = 2 ∧ [({} : ATCImage), {}].map some = d'.exposed := by
  refine ⟨_, rfl, rfl, (DataSource.reported_eq_exposed_iff (d := .firestore limitedSource 1)
    (a := .answer ⟨some [[], []], none⟩) (by rintro _ ⟨⟩) rfl).mpr ?_⟩
  rintro _ _ _ _ ⟨⟩ ⟨⟩ ⟨⟩
  exact .inr ⟨rfl, List.prefix_append _ _⟩

theorem limited_query_reports_more :
    ¬ ∀ (d d' : DataSource ATCImage) (a : DataSourceAction ATCImage) (objects : List ATCImage),
      (∀ session, d ≠ .rest session) → d.step a = some (d', some (.didLoadFirst objects)) →
        objects.map some = d'.exposed := by
  -- Two documents and a limit of 1: two objects are reported and one is exposed.
  intro hall
  have hlists := hall (.firestore { limit := some 1 } 1) _ (.answer ⟨some [[], []], none⟩) _
    (by rintro _ ⟨⟩) rfl
  exact absurd (congrArg List.length hlists) (by decide)

end FinanceApp
