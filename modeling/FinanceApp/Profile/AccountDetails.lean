import FinanceApp.Lib.Machine
import FinanceApp.Users.User

/-!
# The account details form

Each visit to `FinanceAccountDetailsViewController` fills the form from the user in memory
and writes all its fields back, and a save does not refresh that user.
-/

namespace FinanceApp

/-- The text rows of the form, by their tags. -/
inductive AccountField where
  | firstname
  | lastname
  | username
  | email
  deriving DecidableEq, Repr

namespace AccountField

/-- The field of the document that the row is written to. -/
def key : AccountField → String
  | firstname => "firstName"
  | lastname => "lastName"
  | username => "username"
  | email => "email"

def value (user : ATCUser) : AccountField → Option String
  | firstname => user.firstName
  | lastname => user.lastName
  | username => user.username
  | email => user.email

end AccountField

/-- The values of the rows. A row without text has none. -/
structure AccountForm where
  rows : AccountField → Option String
  gender : Option String

namespace AccountForm

def viewDidLoad (user : ATCUser) : AccountForm where
  rows field := field.value user
  gender := some ""

end AccountForm

/-- What one visit does to the form before it is saved: the rows edited, and the gender
that is chosen. -/
structure AccountVisit where
  edits : AccountField → Option (Option String) := fun _ => none
  gender : Option String

def AccountVisit.edit (visit : AccountVisit) (form : AccountForm) : AccountForm where
  rows field := (visit.edits field).getD (form.rows field)
  gender := visit.gender

/-- The data written to the document of the user. -/
def ATCProfileFirebaseUpdater.update (user : ATCUser)
    (email firstName lastName username : String) : Option JSONDict :=
  match user.uid with
  | some _ =>
    some [("lastName", .string lastName), ("firstName", .string firstName),
      ("username", .string username), ("email", .string email)]
  | none => none

section Visits

variable [CanonicalForm]

/-- `none` where the alert asks to complete the profile. -/
def didTapDone (user : ATCUser) (form : AccountForm) : Option JSONDict :=
  let lastName := (form.rows .lastname).getD ""
  let firstName := (form.rows .firstname).getD ""
  let email := (form.rows .email).getD ""
  let username := (form.rows .username).getD ""
  let gender := form.gender.getD ""
  if stringEq email "" || stringEq firstName "" || stringEq gender "" then none
  else ATCProfileFirebaseUpdater.update user email firstName lastName username

/-- The user of the data source provider, which each visit shows, and its document. -/
structure AccountSession where
  user : ATCUser
  document : JSONDict

namespace AccountSession

/-- A visit that ends with a successful save. -/
def step (s : AccountSession) (visit : AccountVisit) : Option (AccountSession × Unit) :=
  (didTapDone s.user (visit.edit (.viewDidLoad s.user))).map fun data =>
    ({ s with document := KeyedMerge.merge s.document data }, ())

def machine : Machine AccountSession AccountVisit Unit := ⟨step⟩

end AccountSession

omit [CanonicalForm] in
/-- What the last visit that edited the field put there, else what was there at first. -/
def lastEdited (document : JSONDict) (visits : List AccountVisit) (field : AccountField) :
    Option JSON :=
  match (visits.filterMap (·.edits field)).getLast? with
  | some value => some (.string (value.getD ""))
  | none => document.lookup field.key

omit [CanonicalForm] in
/-- Each field is as it was last edited, and nothing else is changed. -/
structure EditsAccumulate (s₀ s : AccountSession) (visits : List AccountVisit) : Prop where
  edited : ∀ field : AccountField, s.document.lookup field.key = lastEdited s₀.document visits field
  others : ∀ key, (∀ field : AccountField, key ≠ field.key) →
    s.document.lookup key = s₀.document.lookup key

/-! ## One visit -/

omit [CanonicalForm] in
theorem lastEdited_concat (document : JSONDict) (visits : List AccountVisit) (last : AccountVisit)
    (field : AccountField) :
    lastEdited document (visits ++ [last]) field =
      match last.edits field with
      | some value => some (.string (value.getD ""))
      | none => lastEdited document visits field := by
  unfold lastEdited
  rw [List.filterMap_append]
  cases hedit : last.edits field <;> simp [hedit]

theorem AccountSession.step_spec {s s' : AccountSession} {visit : AccountVisit} {e : Unit}
    (h : machine.step s visit = some (s', e)) :
    s'.user = s.user ∧
    (∀ field : AccountField, s'.document.lookup field.key =
      some (.string (((visit.edits field).getD (field.value s.user)).getD ""))) ∧
    ∀ key, (∀ field : AccountField, key ≠ field.key) →
      s'.document.lookup key = s.document.lookup key := by
  obtain ⟨data, hdata, hs'⟩ := Option.map_eq_some_iff.mp h
  obtain ⟨rfl, _⟩ := Prod.mk.inj hs'
  unfold didTapDone at hdata
  simp only at hdata
  split at hdata
  · cases hdata
  · unfold ATCProfileFirebaseUpdater.update at hdata
    split at hdata
    · obtain rfl := Option.some.inj hdata
      refine ⟨rfl, fun field => ?_, fun key hkey => ?_⟩
      · rw [KeyedMerge.lookup_merge]
        cases field <;> rfl
      · have hlast := hkey .lastname
        have hfirst := hkey .firstname
        have husername := hkey .username
        have hemail := hkey .email
        unfold AccountField.key at hlast hfirst husername hemail
        rw [KeyedMerge.lookup_merge]
        simp [List.lookup_cons, beq_false_of_ne, hlast, hfirst, husername, hemail]
    · cases hdata

/-! ## Runs -/

/-- **The edits accumulate exactly when the rows that the last visit left alone show them
already**: their last edited values are those of the user in memory. -/
theorem edits_accumulate_iff (s₀ s : AccountSession) (visits : List AccountVisit)
    (last : AccountVisit) (log : List Unit)
    (h : AccountSession.machine.run s₀ (visits ++ [last]) = some (s, log)) :
    EditsAccumulate s₀ s (visits ++ [last]) ↔
      ∀ field, last.edits field = none →
        lastEdited s₀.document visits field = some (.string ((field.value s₀.user).getD "")) := by
  obtain ⟨s₁, es, e, hrun, hstep, rfl⟩ := AccountSession.machine.run_concat_eq_some.mp h
  have hkept : s₁.user = s₀.user ∧ ∀ key, (∀ field : AccountField, key ≠ field.key) →
      s₁.document.lookup key = s₀.document.lookup key := by
    refine AccountSession.machine.run_invariant (I := fun s => s.user = s₀.user ∧ ∀ key,
      (∀ field : AccountField, key ≠ field.key) → s.document.lookup key = s₀.document.lookup key)
      ?_ ⟨rfl, fun _ _ => rfl⟩ hrun
    intro s a s' e hs hstep
    obtain ⟨huser, _, hothers⟩ := AccountSession.step_spec hstep
    exact ⟨huser.trans hs.1, fun key hkey => (hothers key hkey).trans (hs.2 key hkey)⟩
  obtain ⟨_, hwritten, hothers⟩ := AccountSession.step_spec hstep
  rw [hkept.1] at hwritten
  constructor
  · intro hall field hedit
    have hfield := hall.edited field
    rw [hwritten, lastEdited_concat, hedit] at hfield
    exact hfield.symm
  · intro hshown
    refine ⟨fun field => ?_, fun key hkey => (hothers key hkey).trans (hkept.2 key hkey)⟩
    rw [hwritten, lastEdited_concat]
    cases hedit : last.edits field with
    | some value => rfl
    | none => exact (hshown field hedit).symm

end Visits

/-! ## Two visits -/

open scoped ASCII

def neoSession : AccountSession where
  user := .init "neo" "Neo" "" "" "neo@example.com" none (some []) false
  document := [("email", .string "neo@example.com"), ("firstName", .string "Neo"),
    ("lastName", .string ""), ("username", .string "")]

def editing (field : AccountField) (text : String) : AccountVisit where
  edits other := if other = field then some (some text) else none
  gender := some "Male"

/-- The first name is edited there and back, and the last visit edits again what the first one
edited. -/
def thereAndBack : List AccountVisit :=
  [editing .lastname "Anderson", editing .firstname "Thomas", editing .firstname "Neo"]

def lastAndUsername : AccountVisit where
  edits
    | .lastname => some (some "Smith")
    | .username => some (some "theone")
    | _ => none
  gender := some "Male"

theorem edits_accumulate_there_and_back :
    ∃ s log, AccountSession.machine.run neoSession (thereAndBack ++ [lastAndUsername]) =
        some (s, log) ∧
      s.document.lookup "lastName" = some (.string "Smith") ∧
      s.document.lookup "firstName" = some (.string "Neo") ∧
      EditsAccumulate neoSession s (thereAndBack ++ [lastAndUsername]) := by
  refine ⟨_, _, rfl, rfl, rfl,
    (edits_accumulate_iff neoSession _ thereAndBack lastAndUsername _ rfl).mpr ?_⟩
  intro field hedit
  cases field with
  | lastname => cases hedit
  | firstname => rfl
  | username => cases hedit
  | email => rfl

theorem first_edit_reverted :
    ¬ ∀ (s₀ s : AccountSession) (visits : List AccountVisit) (last : AccountVisit)
        (log : List Unit),
      AccountSession.machine.run s₀ (visits ++ [last]) = some (s, log) →
      EditsAccumulate s₀ s (visits ++ [last]) := by
  -- The second visit, which edits the username, puts the old last name back.
  intro hall
  have hrun : (AccountSession.machine.run neoSession
      ([editing .lastname "Anderson"] ++ [editing .username "theone"])).map
      (fun r => (r.1.document.lookup "lastName").bind JSON.asString) = some (some "") := by decide
  obtain ⟨⟨s, log⟩, h, hs⟩ := Option.map_eq_some_iff.mp hrun
  have hedited := (hall _ s _ _ log h).edited .lastname
  have hname := congrArg (fun field => field.bind JSON.asString) hedited
  exact absurd (hs.symm.trans hname) (by decide)

end FinanceApp
