import FinanceApp.DataSources

/-!
# Searching a collection

`ATCFirebaseSearchDataSource` cuts the collection off at its limit and then looks for the
keyword in what is left. The Firestore source of the lists does it the other way around.
-/

namespace FinanceApp

/-! ## Cutting off and filtering -/

section Lists

variable {α : Type*} (p : α → Bool) (n : Nat) (l : List α)

theorem take_filter :
    (l.filter p).take n =
      (l.take n).filter p ++ ((l.drop n).filter p).take (n - ((l.take n).filter p).length) := by
  have hshort : ((l.take n).filter p).length ≤ n :=
    Nat.le_trans (List.length_filter_le _ _) (List.length_take_le _ _)
  have hsplit : l.filter p = (l.take n).filter p ++ (l.drop n).filter p := by
    rw [← List.filter_append, List.take_append_drop]
  rw [hsplit, List.take_append, List.take_of_length_le hshort]

theorem filter_take_eq_iff :
    (l.take n).filter p = (l.filter p).take n ↔
      (∀ x ∈ l.take n, p x = true) ∨ ∀ x ∈ l.drop n, p x = false := by
  -- Both orders give the same when all before the cut pass, or none after it.
  rw [take_filter, List.self_eq_append_right, List.take_eq_nil_iff, List.filter_eq_nil_iff]
  have hall : ((l.take n).filter p).length = (l.take n).length ↔ ∀ x ∈ l.take n, p x = true :=
    List.length_filter_eq_length_iff
  have hle := List.length_filter_le p (l.take n)
  have hlength := List.length_take (i := n) (l := l)
  constructor
  · rintro (hfull | hnone)
    · exact .inl (hall.mp (by omega))
    · exact .inr fun x hx => by simpa using hnone x hx
  · rintro (hpass | hnone)
    · by_cases hshort : l.length ≤ n
      · rw [List.drop_of_length_le hshort]
        exact .inr (by simp)
      · have := hall.mpr hpass
        exact .inl (by omega)
    · exact .inr fun x hx => by simp [hnone x hx]

end Lists

/-! ## The source -/

/-- `matches(keyword:)`. -/
class ATCGenericSearchable (T : Type) where
  matchesKeyword : T → String → Bool

export ATCGenericSearchable (matchesKeyword)

structure ATCFirebaseSearchDataSource where
  limit : Option Nat := none

namespace ATCFirebaseSearchDataSource

variable {T : Type} [ATCGenericBaseModel T] [ATCGenericSearchable T]
  (self : ATCFirebaseSearchDataSource)

/-- The answer to the query of `search`, which kept its text. `some` is what the delegate
is handed. -/
def searchCompletion (text : Option String) (answer : QueryAnswer) : Option (List T) :=
  match answer.error, answer.documents with
  | some _, _ => none
  | none, none => none
  | none, some documents =>
    let items : List T := documents.map ATCGenericJSONParsable.initJsonDict
    let items := match self.limit with
      | some limit => items.take limit
      | none => items
    let items := match text with
      | some text => items.filter fun item => matchesKeyword item text
      | none => items
    some items

end ATCFirebaseSearchDataSource

/-! ## The limit -/

section Limit

variable {T : Type} [ATCGenericBaseModel T] [ATCGenericSearchable T]

def collectionItems (documents : List JSONDict) : List T :=
  documents.map ATCGenericJSONParsable.initJsonDict

variable (T) in
/-- The search delivers the first documents that match, up to its limit, and they are those
that the Firestore source would hold with the search as its filter. -/
def DeliversFirstMatches (documents : List JSONDict) (keyword : String) (limit : Nat) : Prop :=
  ∃ results : List T,
    ATCFirebaseSearchDataSource.searchCompletion ⟨some limit⟩ (some keyword)
        ⟨some documents, none⟩ = some results ∧
      results = ((collectionItems documents).filter (matchesKeyword · keyword)).take limit ∧
      results = (ATCFirebaseFirestoreDataSource.loadFirstCompletion
        { limit := some limit
          additionalFilterBlock := some (List.filter (matchesKeyword · keyword)) }
        ⟨some documents, none⟩).1.items

variable (T) in
/-- **The search delivers the first matches exactly when** all documents within the limit
match, or none after it does. -/
theorem search_limit_iff (documents : List JSONDict) (keyword : String) (limit : Nat) :
    DeliversFirstMatches T documents keyword limit ↔
      (∀ item ∈ (collectionItems documents : List T).take limit,
        matchesKeyword item keyword = true) ∨
      ∀ item ∈ (collectionItems documents : List T).drop limit,
        matchesKeyword item keyword = false := by
  rw [← filter_take_eq_iff (matchesKeyword · keyword)]
  constructor
  · rintro ⟨results, hsearch, hfirst, _⟩
    exact (Option.some.inj hsearch).trans hfirst
  · intro h
    exact ⟨_, rfl, h, h⟩

end Limit

/-- A model to search for. The app has none of its own yet. -/
structure NamedItem where
  name : Option JSON

def namedDocument (name : String) : JSONDict := [("name", .string name)]

instance : ATCGenericBaseModel NamedItem where
  initJsonDict dict := ⟨dict.lookup "name"⟩
  description _ := ""

instance : ATCGenericSearchable NamedItem where
  matchesKeyword item keyword :=
    match item.name with
    | some (.string name) => name == keyword
    | _ => false

theorem second_match_left_out :
    ¬ ∀ (T : Type) [ATCGenericBaseModel T] [ATCGenericSearchable T] (documents : List JSONDict)
      (keyword : String) (limit : Nat), DeliversFirstMatches T documents keyword limit := by
  -- The one match is the second document, and the limit is 1.
  intro hall
  obtain ⟨results, hsearch, _, hlist⟩ :=
    hall NamedItem [namedDocument "tofu", namedDocument "bread"] "bread" 1
  cases hsearch
  exact absurd (congrArg List.length hlist) (by decide)

end FinanceApp
