import FinanceApp.Users.User

/-!
# Saving a user to the server

A Facebook login and a sign-up write the user that the auth provider returned over the
document that may be there already. A merge keeps the keys that it is not given, but the
representation of a user gives them all.
-/

namespace FinanceApp

/-! ## Users of the auth provider -/

/-- What one identity provider knows about a user. -/
structure UserInfo where
  photoURL : Option String

/-- `User` of Firebase. Who signed in did so through some provider. -/
structure FirebaseUser where
  uid : String
  displayName : Option String
  email : Option String
  photoURL : Option String
  providerData : List UserInfo
  providerData_ne_nil : providerData ≠ []

namespace FirebaseUser

variable (fUser : FirebaseUser)

def firstProvider : UserInfo := fUser.providerData.head fUser.providerData_ne_nil

/-- The user of a Facebook login, with the photo of the first provider. -/
def facebookUser : ATCUser :=
  .init fUser.uid (fUser.displayName.getD "") "" (fUser.firstProvider.photoURL.getD "")
    (fUser.email.getD "") none (some []) false

/-- The user of a sign-up, named by the text field where the provider has no name. -/
def signedUpUser (nameText : Option String) : ATCUser :=
  .init fUser.uid (fUser.displayName.getD (nameText.getD "")) "" (fUser.photoURL.getD "")
    (fUser.email.getD "") none (some []) false

end FirebaseUser

/-- `atcUser(for:)` -/
def atcUser (firebaseUser : Option FirebaseUser) : Option ATCUser :=
  firebaseUser.map FirebaseUser.facebookUser

def saveUserToServerIfNeeded (users : UsersCollection) (user : ATCUser) (appIdentifier : String) :
    UsersCollection :=
  match user.uid with
  | some uid =>
    users.setData uid (user.representation ++ [("appIdentifier", .string appIdentifier)])
  | none => users

/-! ## What a save overrides -/

def JSON.isEmpty : JSON → Bool
  | .null => true
  | .string value => value == ""
  | .array items => items.isEmpty
  | .object fields => fields.isEmpty
  | _ => false

/-- There is a value in a field, and it is not empty. -/
def Filled (field : Option JSON) : Prop := ∃ value, field = some value ∧ value.isEmpty = false

/-- The two places that save the user of a provider. -/
inductive SavedBy where
  | facebookLogin
  | signUp (nameText : Option String)

namespace SavedBy

def user : SavedBy → FirebaseUser → ATCUser
  | facebookLogin, fUser => fUser.facebookUser
  | signUp nameText, fUser => fUser.signedUpUser nameText

def photoURL : SavedBy → FirebaseUser → Option String
  | facebookLogin, fUser => fUser.firstProvider.photoURL
  | signUp _, fUser => fUser.photoURL

/-- The name that stands in for one that the provider does not have. -/
def typedName : SavedBy → String
  | facebookLogin => ""
  | signUp nameText => nameText.getD ""

/-- The fields for which the provider has a value. -/
def supplied (savedBy : SavedBy) (fUser : FirebaseUser) (key : String) : Bool :=
  key == "userID" || key == "firstName" && fUser.displayName.isSome ||
    key == "email" && fUser.email.isSome ||
    key == "profilePictureURL" && (savedBy.photoURL fUser).isSome

end SavedBy

/-- Nothing but what the provider supplied is lost from any document. -/
def ErasesNothing (savedBy : SavedBy) (fUser : FirebaseUser) (appIdentifier : String)
    (users : UsersCollection) : Prop :=
  ∀ uid key, (uid = fUser.uid → savedBy.supplied fUser key = false) →
    Filled ((users uid).lookup key) →
    (saveUserToServerIfNeeded users (savedBy.user fUser) appIdentifier uid).lookup key =
      (users uid).lookup key

/-- The document has nothing that the representation would override with something else. -/
structure NothingToErase (savedBy : SavedBy) (fUser : FirebaseUser) (appIdentifier : String)
    (document : JSONDict) : Prop where
  username : ¬ Filled (document.lookup "username")
  lastName : ¬ Filled (document.lookup "lastName")
  pushToken : ¬ Filled (document.lookup "pushToken")
  photos : ¬ Filled (document.lookup "photos")
  firstName : fUser.displayName = none → Filled (document.lookup "firstName") →
    document.lookup "firstName" = some (.string savedBy.typedName)
  email : fUser.email = none → ¬ Filled (document.lookup "email")
  profilePictureURL : savedBy.photoURL fUser = none → ¬ Filled (document.lookup "profilePictureURL")
  appIdentifier : Filled (document.lookup "appIdentifier") →
    document.lookup "appIdentifier" = some (.string appIdentifier)

/-! ## One document -/

theorem not_filled_of_overridden {field : Option JSON} {value : JSON}
    (hempty : value.isEmpty = true) (h : Filled field → field = some value) : ¬ Filled field := by
  intro hfilled
  obtain ⟨found, hfound, hfull⟩ := hfilled
  rw [h ⟨found, hfound, hfull⟩] at hfound
  obtain rfl := Option.some.inj hfound
  rw [hempty] at hfull
  cases hfull

theorem merge_keeps_iff (document data : JSONDict) (p : String → Prop) :
    (∀ key, p key → Filled (document.lookup key) →
      (KeyedMerge.merge document data).lookup key = document.lookup key) ↔
    ∀ key value, data.lookup key = some value → p key → Filled (document.lookup key) →
      document.lookup key = some value := by
  constructor
  · intro h key value hvalue hp hfilled
    rw [← h key hp hfilled, KeyedMerge.lookup_merge, hvalue, Option.some_or]
  · intro h key hp hfilled
    rw [KeyedMerge.lookup_merge]
    cases hvalue : data.lookup key with
    | none => exact Option.none_or
    | some value => rw [Option.some_or, h key value hvalue hp hfilled]

namespace SavedBy

variable (savedBy : SavedBy) (fUser : FirebaseUser) (appIdentifier : String)

/-- What a save writes. -/
def data : JSONDict :=
  [("userID", .string fUser.uid),
    ("profilePictureURL", .string ((savedBy.photoURL fUser).getD "")),
    ("username", .string ""),
    ("email", .string (fUser.email.getD "")),
    ("firstName", .string (fUser.displayName.getD savedBy.typedName)),
    ("lastName", .string ""),
    ("pushToken", .string ""),
    ("photos", .array []),
    ("appIdentifier", .string appIdentifier)]

theorem saveUser_eq (users : UsersCollection) :
    saveUserToServerIfNeeded users (savedBy.user fUser) appIdentifier =
      users.setData fUser.uid (savedBy.data fUser appIdentifier) := by
  cases savedBy <;> rfl

theorem mem_data {key : String} {value : JSON}
    (h : (savedBy.data fUser appIdentifier).lookup key = some value) :
    (key, value) ∈ savedBy.data fUser appIdentifier := by
  obtain ⟨before, after, hsplit, _⟩ := List.lookup_eq_some_iff.mp h
  rw [hsplit]
  simp

theorem data_kept_iff (document : JSONDict) :
    (∀ key value, (savedBy.data fUser appIdentifier).lookup key = some value →
      savedBy.supplied fUser key = false → Filled (document.lookup key) →
      document.lookup key = some value) ↔ NothingToErase savedBy fUser appIdentifier document := by
  constructor
  · intro h
    refine ⟨?_, ?_, ?_, ?_, ?_, ?_, ?_, ?_⟩
    · exact not_filled_of_overridden rfl (h "username" (.string "") rfl rfl)
    · exact not_filled_of_overridden rfl (h "lastName" (.string "") rfl rfl)
    · exact not_filled_of_overridden rfl (h "pushToken" (.string "") rfl rfl)
    · exact not_filled_of_overridden rfl (h "photos" (.array []) rfl rfl)
    · intro hname
      refine h "firstName" (.string savedBy.typedName) ?_ ?_
      · rw [data, hname]
        rfl
      · simp [supplied, hname]
    · intro hemail
      refine not_filled_of_overridden rfl (h "email" (.string "") ?_ ?_)
      · rw [data, hemail]
        rfl
      · simp [supplied, hemail]
    · intro hphoto
      refine not_filled_of_overridden rfl (h "profilePictureURL" (.string "") ?_ ?_)
      · rw [data, hphoto]
        rfl
      · simp [supplied, hphoto]
    · exact h "appIdentifier" (.string appIdentifier) rfl rfl
  · intro h key value hvalue hsupplied hfilled
    have hmem := savedBy.mem_data fUser appIdentifier hvalue
    simp only [data, List.mem_cons, Prod.mk.injEq, List.not_mem_nil, or_false] at hmem
    rcases hmem with ⟨rfl, rfl⟩ | ⟨rfl, rfl⟩ | ⟨rfl, rfl⟩ | ⟨rfl, rfl⟩ | ⟨rfl, rfl⟩ | ⟨rfl, rfl⟩ |
      ⟨rfl, rfl⟩ | ⟨rfl, rfl⟩ | ⟨rfl, rfl⟩
    · simp [supplied] at hsupplied
    · exact absurd hfilled (h.profilePictureURL (by simpa [supplied] using hsupplied))
    · exact absurd hfilled h.username
    · exact absurd hfilled (h.email (by simpa [supplied] using hsupplied))
    · have hname : fUser.displayName = none := by simpa [supplied] using hsupplied
      rw [h.firstName hname hfilled, hname]
      rfl
    · exact absurd hfilled h.lastName
    · exact absurd hfilled h.pushToken
    · exact absurd hfilled h.photos
    · exact h.appIdentifier hfilled

end SavedBy

/-- **A save erases nothing exactly when there was nothing to erase**: it overrides every
profile field that the provider does not supply. -/
theorem erases_nothing_iff (savedBy : SavedBy) (fUser : FirebaseUser) (appIdentifier : String)
    (users : UsersCollection) :
    ErasesNothing savedBy fUser appIdentifier users ↔
      NothingToErase savedBy fUser appIdentifier (users fUser.uid) := by
  rw [← SavedBy.data_kept_iff, ← merge_keeps_iff _ _ fun key => savedBy.supplied fUser key = false]
  unfold ErasesNothing
  simp only [SavedBy.saveUser_eq, UsersCollection.lookup_setData, KeyedMerge.lookup_merge]
  constructor
  · intro h key hsupplied hfilled
    have hkept := h fUser.uid key (fun _ => hsupplied) hfilled
    rwa [if_pos rfl] at hkept
  · intro h uid key hsupplied hfilled
    split
    · next huid =>
      subst huid
      exact h key (hsupplied rfl) hfilled
    · rfl

/-! ## A second login -/

def facebookNeo : FirebaseUser where
  uid := "neo"
  displayName := some "Neo"
  email := some "neo@example.com"
  photoURL := none
  providerData := [⟨some "https://graph/neo"⟩]
  providerData_ne_nil := by simp

theorem username_erased :
    ¬ ∀ (savedBy : SavedBy) (fUser : FirebaseUser) (appIdentifier : String)
      (users : UsersCollection), ErasesNothing savedBy fUser appIdentifier users := by
  -- The user has chosen a username since the first login.
  intro hall
  have h := hall .facebookLogin facebookNeo "Finance" fun _ => [("username", .string "theone")]
  have hkept := h "neo" "username" (fun _ => rfl) ⟨_, rfl, rfl⟩
  have hfound := congrArg (fun field => field.bind JSON.asString) hkept
  exact absurd hfound (by decide)

end FinanceApp
