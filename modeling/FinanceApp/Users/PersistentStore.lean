import FinanceApp.Persistence.Store
import FinanceApp.Users.User

/-!
# The user kept between launches

`ATCPersistentStore` archives the logged-in user. A user is read back without what the
decoder does not ask for, and with a default for what was absent.
-/

namespace FinanceApp

/-- `decodeObject(forKey:) as? [String]`. -/
def KeyedArchive.decodeStrings (archive : KeyedArchive) (key : String) : Option (List String) :=
  match archive.lookup key with
  | some (.strings values) => some values
  | _ => none

def ArchivedValue.ofString : Option String → ArchivedValue
  | some value => .string value
  | none => .null

def ArchivedValue.ofStrings : Option (List String) → ArchivedValue
  | some values => .strings values
  | none => .null

namespace ATCUser

def encode (self : ATCUser) : KeyedArchive :=
  [("uid", .ofString self.uid),
    ("username", .ofString self.username),
    ("email", .ofString self.email),
    ("firstName", .ofString self.firstName),
    ("lastName", .ofString self.lastName),
    ("profilePictureURL", .ofString self.profilePictureURL),
    ("pushToken", .ofString self.pushToken),
    ("isOnline", .bool self.isOnline),
    ("photos", .ofStrings self.photos)]

/-- The initializer that this one calls takes no username. -/
def initCoder (aDecoder : KeyedArchive) : ATCUser :=
  .init ((aDecoder.decodeString "uid").getD "unknown")
    ((aDecoder.decodeString "firstName").getD "")
    ((aDecoder.decodeString "lastName").getD "")
    ((aDecoder.decodeString "profilePictureURL").getD "")
    ((aDecoder.decodeString "email").getD "")
    (some ((aDecoder.decodeString "pushToken").getD ""))
    (some ((aDecoder.decodeStrings "photos").getD []))
    (aDecoder.decodeBool "isOnline")

theorem initCoder_encode (user : ATCUser) :
    initCoder user.encode =
      .init (user.uid.getD "unknown") (user.firstName.getD "") (user.lastName.getD "")
        (user.profilePictureURL.getD "") (user.email.getD "") (some (user.pushToken.getD ""))
        (some (user.photos.getD [])) user.isOnline := by
  have hstring : ∀ (archive : KeyedArchive) (key : String) (value : Option String),
      archive.lookup key = some (.ofString value) → archive.decodeString key = value := by
    intro archive key value h
    rw [KeyedArchive.decodeString, h]
    cases value <;> rfl
  have hstrings : user.encode.decodeStrings "photos" = user.photos := by
    unfold KeyedArchive.decodeStrings encode
    cases user.photos <;> rfl
  unfold initCoder
  rw [hstring _ "uid" user.uid rfl, hstring _ "firstName" user.firstName rfl,
    hstring _ "lastName" user.lastName rfl,
    hstring _ "profilePictureURL" user.profilePictureURL rfl, hstring _ "email" user.email rfl,
    hstring _ "pushToken" user.pushToken rfl, hstrings]
  rfl

end ATCUser

/-! ## The store -/

/-- What the user defaults hold under the two keys of the store. -/
structure ATCPersistentStore where
  kWalkthroughCompletedKey : Bool := false
  kLoggedInUserKey : Option KeyedArchive := none

namespace ATCPersistentStore

variable (store : ATCPersistentStore)

def markWalkthroughCompleted : ATCPersistentStore :=
  { store with kWalkthroughCompletedKey := true }

def isWalkthroughCompleted : Bool := store.kWalkthroughCompletedKey

def markUserAsLoggedIn (user : ATCUser) : ATCPersistentStore :=
  { store with kLoggedInUserKey := some user.encode }

def userIfLoggedInUser : Option ATCUser := store.kLoggedInUserKey.map ATCUser.initCoder

def logout : ATCPersistentStore := { store with kLoggedInUserKey := none }

theorem userIfLoggedInUser_uid {user : ATCUser} (h : store.userIfLoggedInUser = some user) :
    ∃ uid, user.uid = some uid := by
  obtain ⟨archive, _, rfl⟩ := Option.map_eq_some_iff.mp h
  exact ⟨_, rfl⟩

end ATCPersistentStore

/-! ## The archive round trip -/

/-- What is read back is what was there, where anything was: an absent string comes back
empty, absent photos as no photos, an absent uid as `"unknown"`. -/
structure RestoredFrom (user restored : ATCUser) : Prop where
  uid : restored.uid = some (user.uid.getD "unknown")
  email : restored.email = some (user.email.getD "")
  firstName : restored.firstName = some (user.firstName.getD "")
  lastName : restored.lastName = some (user.lastName.getD "")
  profilePictureURL : restored.profilePictureURL = some (user.profilePictureURL.getD "")
  pushToken : restored.pushToken = some (user.pushToken.getD "")
  isOnline : restored.isOnline = user.isOnline
  photos : restored.photos = some (user.photos.getD [])

/-- **A relaunch restores the user that was marked as logged in**, absent values by their
defaults. -/
theorem archive_restores (user : ATCUser) :
    RestoredFrom user (.initCoder user.encode) ∧
      ∀ store : ATCPersistentStore, ∃ restored,
        (store.markUserAsLoggedIn user).userIfLoggedInUser = some restored ∧
          RestoredFrom user restored := by
  have hrestored : RestoredFrom user (.initCoder user.encode) := by
    rw [ATCUser.initCoder_encode]
    exact ⟨rfl, rfl, rfl, rfl, rfl, rfl, rfl, rfl⟩
  exact ⟨hrestored, fun store => ⟨_, rfl, hrestored⟩⟩

theorem absent_values_defaulted :
    ¬ ∀ user : ATCUser, ATCUser.initCoder user.encode = user := by
  intro hall
  have h := hall (.init "neo" "Neo" "Anderson" "" "neo@example.com" none (some []) false)
  exact absurd h (by decide)

end FinanceApp
