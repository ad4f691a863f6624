import FinanceApp.Users.Documents

/-!
# Users

`ATCUser` and its two forms on the server: the dictionary that the app writes, and the
document that it reads.
-/

namespace FinanceApp

structure ATCUser where
  uid : Option String := none
  username : Option String := none
  email : Option String := none
  firstName : Option String := none
  lastName : Option String := none
  profilePictureURL : Option String := none
  pushToken : Option String := none
  isOnline : Bool := false
  photos : Option (List String) := none
  deriving DecidableEq, Repr

/-- An optional in an `Any`: Firestore stores `nil` as null. -/
def JSON.optional : Option String → JSON
  | some value => .string value
  | none => .null

namespace ATCUser

/-- Callers that leave out the last three arguments pass `nil`, `[]` and `false`. -/
def init (uid firstName lastName avatarURL email : String) (pushToken : Option String)
    (photos : Option (List String)) (isOnline : Bool) : ATCUser where
  firstName := some firstName
  lastName := some lastName
  uid := some uid
  email := some email
  profilePictureURL := some avatarURL
  pushToken := pushToken
  photos := photos
  isOnline := isOnline

def initRepresentation (representation : JSONDict) : ATCUser where
  firstName := (representation.lookup "firstName").bind JSON.asString
  lastName := (representation.lookup "lastName").bind JSON.asString
  profilePictureURL := (representation.lookup "profilePictureURL").bind JSON.asString
  username := (representation.lookup "username").bind JSON.asString
  email := (representation.lookup "email").bind JSON.asString
  uid := (representation.lookup "userID").bind JSON.asString
  pushToken := (representation.lookup "fcmToken").bind JSON.asString
  photos := (representation.lookup "photos").bind JSON.asStrings
  isOnline := false

/-- Absent photos are written as a string, not as a list. -/
def representation (self : ATCUser) : JSONDict :=
  [("userID", .optional self.uid),
    ("profilePictureURL", .string (self.profilePictureURL.getD "")),
    ("username", .string (self.username.getD "")),
    ("email", .string (self.email.getD "")),
    ("firstName", .string (self.firstName.getD "")),
    ("lastName", .string (self.lastName.getD "")),
    ("pushToken", .string (self.pushToken.getD "")),
    ("photos", match self.photos with
      | some photos => .array (photos.map .string)
      | none => .string "")]

end ATCUser

/-! ## The document round trip -/

/-- The users agree where the document form keeps what they hold: an absent string counts
as an empty one, and absent photos as none. -/
structure SameProfile (user other : ATCUser) : Prop where
  uid : other.uid = user.uid
  firstName : other.firstName.getD "" = user.firstName.getD ""
  lastName : other.lastName.getD "" = user.lastName.getD ""
  profilePictureURL : other.profilePictureURL.getD "" = user.profilePictureURL.getD ""
  username : other.username.getD "" = user.username.getD ""
  email : other.email.getD "" = user.email.getD ""
  pushToken : other.pushToken.getD "" = user.pushToken.getD ""
  photos : other.photos.getD [] = user.photos.getD []

namespace ATCUser

theorem representation_uid (user : ATCUser) :
    (user.representation.lookup "userID").bind JSON.asString = user.uid := by
  unfold representation
  cases user.uid <;> rfl

theorem representation_photos (user : ATCUser) :
    (user.representation.lookup "photos").bind JSON.asStrings = user.photos := by
  unfold representation
  cases user.photos with
  | none => rfl
  | some photos => exact JSON.asStrings_array photos

theorem initRepresentation_representation (user : ATCUser) :
    initRepresentation user.representation =
      { uid := user.uid
        firstName := some (user.firstName.getD "")
        lastName := some (user.lastName.getD "")
        profilePictureURL := some (user.profilePictureURL.getD "")
        username := some (user.username.getD "")
        email := some (user.email.getD "")
        pushToken := none
        photos := user.photos
        isOnline := false } := by
  unfold initRepresentation
  rw [representation_uid, representation_photos]
  rfl

end ATCUser

/-! ## The push token of a document -/

/-- What `updateFirestorePushTokenIfNeeded` merges into the document of its user. -/
def pushTokenData (token : String) : JSONDict := [("fcmToken", .string token)]

/-- **A user survives the round trip through a document exactly when there is no push
token to lose**, while the token that the push manager stores is the one read back. -/
theorem document_round_trip_iff (user : ATCUser) :
    (SameProfile user (ATCUser.initRepresentation user.representation) ↔
      user.pushToken.getD "" = "") ∧
    ∀ document token, (ATCUser.initRepresentation
      (KeyedMerge.merge document (pushTokenData token))).pushToken = some token := by
  rw [ATCUser.initRepresentation_representation]
  constructor
  · constructor
    · intro h
      exact h.pushToken.symm
    · intro hempty
      exact ⟨rfl, rfl, rfl, rfl, rfl, rfl, hempty.symm, rfl⟩
  · intro document token
    simp only [ATCUser.initRepresentation, KeyedMerge.lookup_merge, pushTokenData]
    rfl

theorem push_token_lost :
    ¬ ∀ user : ATCUser, user.uid.isSome →
      SameProfile user (ATCUser.initRepresentation user.representation) := by
  intro hall
  have h := (hall { uid := some "neo", pushToken := some "token" } rfl).pushToken
  exact absurd h (by decide)

end FinanceApp
