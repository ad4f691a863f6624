import FinanceApp.Lib.Logs
import FinanceApp.Search.DataSource

/-!
# The results on the search screen

Each text typed asks for the whole collection again, and each answer replaces the items
shown by the matches for the text it was asked with. So the items belong to the text that
was answered last, which need not be the one typed last.
-/

open Logs

namespace FinanceApp

/-- The screen, and the texts whose queries are in flight. -/
structure ATCGenericSearchViewController (T : Type) where
  searchDataSource : ATCFirebaseSearchDataSource
  localDataSource : ATCGenericLocalDataSource T := ⟨[]⟩
  inFlight : List (Option String) := []

inductive SearchAction where
  | viewDidLoad
  | updateSearchResults (text : Option String)
  | answer (i : Nat)

inductive SearchEvent where
  | searched (text : Option String)
  | answered (text : Option String)

def SearchEvent.searchedText : SearchEvent → Option (Option String)
  | searched text => some text
  | answered _ => none

def SearchEvent.answeredText : SearchEvent → Option (Option String)
  | searched _ => none
  | answered text => some text

namespace ATCGenericSearchViewController

variable {T : Type}

def search (s : ATCGenericSearchViewController T) (text : Option String) :
    ATCGenericSearchViewController T :=
  { s with inFlight := s.inFlight ++ [text] }

def didFetchResults (s : ATCGenericSearchViewController T) (results : List T) :
    ATCGenericSearchViewController T :=
  { s with localDataSource := (s.localDataSource.update results).1 }

variable [ATCGenericBaseModel T] [ATCGenericSearchable T] (documents : List JSONDict)

/-- Every query is answered with the same `documents`. -/
def step (s : ATCGenericSearchViewController T) :
    SearchAction → Option (ATCGenericSearchViewController T × SearchEvent)
  | .viewDidLoad => some (s.search (some ""), .searched (some ""))
  | .updateSearchResults text => some (s.search text, .searched text)
  | .answer i =>
    s.inFlight[i]?.map fun text =>
      let s := { s with inFlight := s.inFlight.eraseIdx i }
      match s.searchDataSource.searchCompletion text ⟨some documents, none⟩ with
      | some results => (s.didFetchResults results, .answered text)
      | none => (s, .answered text)

def machine : Machine (ATCGenericSearchViewController T) SearchAction SearchEvent :=
  ⟨step documents⟩

end ATCGenericSearchViewController

/-! ## What a text is answered with -/

namespace ATCFirebaseSearchDataSource

variable {T : Type} [ATCGenericBaseModel T] [ATCGenericSearchable T]
  (self : ATCFirebaseSearchDataSource) (documents : List JSONDict)

/-- The documents of the collection that a search looks at. -/
def searchedItems : List T :=
  match self.limit with
  | some limit => (collectionItems documents).take limit
  | none => collectionItems documents

def isResult (text : Option String) (item : T) : Bool := text.all (matchesKeyword item)

theorem searchCompletion_eq (text : Option String) :
    self.searchCompletion text ⟨some documents, none⟩ =
      some ((self.searchedItems documents : List T).filter (isResult text)) := by
  cases text with
  | none =>
    have hall : (self.searchedItems documents : List T).filter (isResult none) =
        self.searchedItems documents := List.filter_eq_self.mpr fun _ _ => rfl
    rw [hall]
    rfl
  | some text => rfl

end ATCFirebaseSearchDataSource

namespace ATCGenericSearchViewController

variable {T : Type} [ATCGenericBaseModel T] [ATCGenericSearchable T]

/-- A new screen for a search source. -/
def opened (searchDataSource : ATCFirebaseSearchDataSource) : ATCGenericSearchViewController T where
  searchDataSource := searchDataSource

/-- The items are those of the text answered last, and a text that was not answered is in
flight. -/
structure Shows (source : ATCFirebaseSearchDataSource) (documents : List JSONDict)
    (log : List SearchEvent) (s : ATCGenericSearchViewController T) : Prop where
  kept : s.searchDataSource = source
  items : ∀ text, lastOf SearchEvent.answeredText log = some text →
    s.localDataSource.items =
      (source.searchedItems documents).filter (ATCFirebaseSearchDataSource.isResult text)
  unanswered : lastOf SearchEvent.answeredText log = none → s.inFlight = [] →
    lastOf SearchEvent.searchedText log = none

theorem step_shows {source : ATCFirebaseSearchDataSource} {documents : List JSONDict}
    {log : List SearchEvent} {s s' : ATCGenericSearchViewController T} {a : SearchAction}
    {e : SearchEvent} (hs : Shows source documents log s)
    (h : (machine documents).step s a = some (s', e)) :
    Shows source documents (log ++ [e]) s' := by
  have hsearch : ∀ text, Shows source documents (log ++ [.searched text]) (s.search text) := by
    intro text
    refine ⟨hs.kept, ?_, ?_⟩
    · rw [lastOf_concat]
      exact hs.items
    · intro _ hnone
      simp [search] at hnone
  cases a with
  | viewDidLoad =>
    obtain ⟨rfl, rfl⟩ := Prod.mk.inj (Option.some.inj h)
    exact hsearch (some "")
  | updateSearchResults text =>
    obtain ⟨rfl, rfl⟩ := Prod.mk.inj (Option.some.inj h)
    exact hsearch text
  | answer i =>
    obtain ⟨text, _, heq⟩ := Option.map_eq_some_iff.mp h
    simp only [ATCFirebaseSearchDataSource.searchCompletion_eq, Prod.mk.injEq] at heq
    obtain ⟨rfl, rfl⟩ := heq
    have hlast : lastOf SearchEvent.answeredText (log ++ [.answered text]) = some text := by
      rw [lastOf_concat]
      rfl
    refine ⟨hs.kept, ?_, ?_⟩
    · intro other hother
      obtain rfl : text = other := Option.some.inj (hlast.symm.trans hother)
      rw [← hs.kept]
      rfl
    · intro hnone
      simp [hlast] at hnone

theorem filter_eq_filter_iff {α : Type*} {p q : α → Bool} {l : List α} :
    l.filter p = l.filter q ↔ ∀ x ∈ l, p x = q x := by
  constructor
  · intro h x hx
    have hp : x ∈ l.filter p ↔ x ∈ l.filter q := by rw [h]
    simp only [List.mem_filter, hx, true_and] at hp
    exact Bool.eq_iff_iff.mpr hp
  · exact List.filter_congr

/-- **When all queries are answered, the items are those of the text typed last exactly
when** the text answered last has the same matches. -/
theorem shows_last_query_iff {source : ATCFirebaseSearchDataSource} {documents : List JSONDict}
    {as : List SearchAction} {s : ATCGenericSearchViewController T} {log : List SearchEvent}
    {text : Option String} (hrun : (machine documents).run (opened source) as = some (s, log))
    (hanswered : s.inFlight = []) (htyped : lastOf SearchEvent.searchedText log = some text) :
    source.searchCompletion text ⟨some documents, none⟩ = some s.localDataSource.items ↔
      ∃ answered, lastOf SearchEvent.answeredText log = some answered ∧
        ∀ item ∈ (source.searchedItems documents : List T),
          ATCFirebaseSearchDataSource.isResult answered item =
            ATCFirebaseSearchDataSource.isResult text item := by
  have hs := (machine documents).run_induction (P := Shows source documents)
    ⟨rfl, by rintro _ ⟨⟩, fun _ _ => rfl⟩ step_shows hrun
  cases hlast : lastOf SearchEvent.answeredText log with
  | none =>
    simp [hs.unanswered hlast hanswered] at htyped
  | some answered =>
    rw [source.searchCompletion_eq, hs.items answered hlast, Option.some.injEq, eq_comm,
      filter_eq_filter_iff]
    simp

end ATCGenericSearchViewController

/-- Two texts are typed and answered in turn. -/
def promptSearch : List SearchAction :=
  [.viewDidLoad, .answer 0, .updateSearchResults (some "tofu"), .answer 0]

theorem shows_last_query_iff_prompt :
    ∃ (s : ATCGenericSearchViewController NamedItem) (log : List SearchEvent),
      (ATCGenericSearchViewController.machine [namedDocument "tofu"]).run (.opened {})
        promptSearch = some (s, log) ∧
      (ATCFirebaseSearchDataSource.searchCompletion {} (some "tofu")
          ⟨some [namedDocument "tofu"], none⟩ = some s.localDataSource.items ↔
        ∃ answered, lastOf SearchEvent.answeredText log = some answered ∧
          ∀ item ∈ (ATCFirebaseSearchDataSource.searchedItems {} [namedDocument "tofu"] :
              List NamedItem),
            ATCFirebaseSearchDataSource.isResult answered item =
              ATCFirebaseSearchDataSource.isResult (some "tofu") item) := by
  have hrun : ((ATCGenericSearchViewController.machine (T := NamedItem) [namedDocument "tofu"]).run
      (.opened {}) promptSearch).map
      (fun r => (r.1.inFlight, lastOf SearchEvent.searchedText r.2)) =
        some ([], some (some "tofu")) := rfl
  obtain ⟨⟨s, log⟩, h, hs⟩ := Option.map_eq_some_iff.mp hrun
  obtain ⟨hanswered, htyped⟩ := Prod.mk.inj hs
  exact ⟨s, log, h, ATCGenericSearchViewController.shows_last_query_iff h hanswered htyped⟩

/-- The query for the second text is answered before the one for the first. -/
def overtakenSearch : List SearchAction :=
  [.updateSearchResults (some "tofu"), .updateSearchResults (some "bread"), .answer 1, .answer 0]

theorem overtaken_search_shows_first :
    ¬ ∀ (T : Type) [ATCGenericBaseModel T] [ATCGenericSearchable T]
      (source : ATCFirebaseSearchDataSource) (documents : List JSONDict) (as : List SearchAction)
      (s : ATCGenericSearchViewController T) (log : List SearchEvent) (text : Option String),
      (ATCGenericSearchViewController.machine documents).run (.opened source) as = some (s, log) →
        s.inFlight = [] → lastOf SearchEvent.searchedText log = some text →
        source.searchCompletion text ⟨some documents, none⟩ = some s.localDataSource.items := by
  intro hall
  have hshown := hall NamedItem {} [namedDocument "tofu"] overtakenSearch _ _ (some "bread")
    rfl rfl rfl
  exact absurd (congrArg (Option.map List.length) hshown) (by decide)

end FinanceApp
