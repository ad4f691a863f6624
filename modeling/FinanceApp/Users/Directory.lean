import FinanceApp.Profile.AccountDetails
import FinanceApp.Profile.Photos
import FinanceApp.Users.SaveUser
import Mathlib.Data.Finset.Sort
import Mathlib.Data.String.Basic

/-!
# The directory of users

Five places of the app write to the users collection, each with other fields, and three
read it: the list of the other users, and the two searches by `userID`. Firestore keeps the
documents in the order of their ids.
-/

namespace FinanceApp

section Directory

variable [CanonicalForm]

/-- Swift's `==` on optional strings. -/
def optionalEq (a b : Option String) : Bool :=
  match a, b with
  | some a, some b => stringEq a b
  | none, none => true
  | _, _ => false

/-- A write of some client, with the user that the client has in memory. -/
inductive DirectoryWrite where
  | save (user : ATCUser) (appIdentifier : String)
  | update (user : ATCUser) (email firstName lastName username : String)
  | removePhoto (url : String) (user : ATCUser)
  | uploadPhoto (url : Option String) (user : ATCUser) (isProfilePhoto : Bool)
  | pushToken (user : ATCUser) (fcmToken : Option String)

namespace DirectoryWrite

/-- The fields that a write gives the document of its user. -/
def data : DirectoryWrite → Option JSONDict
  | save user appIdentifier =>
    some (user.representation ++ [("appIdentifier", .string appIdentifier)])
  | update user email firstName lastName username =>
    ATCProfileFirebaseUpdater.update user email firstName lastName username
  | removePhoto url user => ATCProfileFirebaseUpdater.removePhoto url user
  | uploadPhoto url user isProfilePhoto =>
    ATCProfileFirebaseUpdater.uploadPhotoCompletion url user isProfilePhoto
  | pushToken _ fcmToken => fcmToken.map pushTokenData

omit [CanonicalForm] in
def user : DirectoryWrite → ATCUser
  | save user _ | update user _ _ _ _ | removePhoto _ user | uploadPhoto _ user _
  | pushToken user _ => user

/-- The document and its new fields. -/
def target (write : DirectoryWrite) : Option (String × JSONDict) :=
  write.user.uid.bind fun uid => write.data.map fun data => (uid, data)

omit [CanonicalForm] in
def isSave : DirectoryWrite → Bool
  | save _ _ => true
  | _ => false

omit [CanonicalForm] in
/-- The token that the push manager has, if the write is one of its own. -/
def token : DirectoryWrite → Option String
  | pushToken _ fcmToken => fcmToken
  | _ => none

end DirectoryWrite

/-- The documents, and which of them exist. -/
structure UsersDirectory where
  users : UsersCollection
  ids : Finset String

namespace UsersDirectory

def empty : UsersDirectory := ⟨fun _ => [], ∅⟩

def write (directory : UsersDirectory) (w : DirectoryWrite) : UsersDirectory :=
  match w.target with
  | some (uid, data) => ⟨directory.users.setData uid data, insert uid directory.ids⟩
  | none => directory

theorem write_save (directory : UsersDirectory) (user : ATCUser) (appIdentifier : String) :
    (directory.write (.save user appIdentifier)).users =
      saveUserToServerIfNeeded directory.users user appIdentifier := by
  rw [write, saveUserToServerIfNeeded, DirectoryWrite.target, DirectoryWrite.user]
  cases user.uid <;> rfl

/-- The collection after the writes of all clients. -/
def after (writes : List DirectoryWrite) : UsersDirectory := writes.foldl write empty

/-- The documents of a query of the whole collection. -/
def documents (directory : UsersDirectory) : List JSONDict :=
  (directory.ids.sort (· ≤ ·)).map directory.users

/-- `ATCFirebaseSocialGraphManager.fetchUsers(viewer:completion:)` -/
def fetchUsers (directory : UsersDirectory) (viewer : ATCUser) : List ATCUser :=
  (directory.documents.map ATCUser.initRepresentation).filter fun user =>
    !optionalEq user.uid viewer.uid

/-- `fetchUser(userID:completion:)` of the social graph and of the login. -/
def fetchUser (directory : UsersDirectory) (userID : String) : Option ATCUser :=
  (directory.documents.filter fun data =>
    (data.lookup "userID").bind JSON.asString = some userID).head?.map ATCUser.initRepresentation

end UsersDirectory

/-! ## What the writes leave in a document -/

namespace DirectoryWrite

theorem target_eq_some {w : DirectoryWrite} {uid : String} {data : JSONDict} :
    w.target = some (uid, data) ↔ w.user.uid = some uid ∧ w.data = some data := by
  simp only [target, Option.bind_eq_some_iff, Option.map_eq_some_iff, Prod.mk.injEq]
  constructor
  · rintro ⟨uid, huid, data, hdata, rfl, rfl⟩
    exact ⟨huid, hdata⟩
  · rintro ⟨huid, hdata⟩
    exact ⟨uid, huid, data, hdata, rfl, rfl⟩

theorem target_userID {w : DirectoryWrite} {uid : String} {dict : JSONDict}
    (h : w.target = some (uid, dict)) :
    dict.lookup "userID" = if w.isSave then some (.string uid) else none := by
  -- Only a save writes the id into the document.
  obtain ⟨huid, hdata⟩ := target_eq_some.mp h
  cases w with
  | save saved appIdentifier =>
    obtain rfl := Option.some.inj hdata
    replace huid : saved.uid = some uid := huid
    simp [ATCUser.representation, JSON.optional, huid, isSave]
  | update edited email firstName lastName username =>
    replace huid : edited.uid = some uid := huid
    simp only [data, ATCProfileFirebaseUpdater.update, huid, Option.some.injEq] at hdata
    subst hdata
    rfl
  | removePhoto url owner =>
    replace huid : owner.uid = some uid := huid
    simp only [data, ATCProfileFirebaseUpdater.removePhoto, huid] at hdata
    split at hdata
    next =>
      obtain rfl := Option.some.inj hdata
      rfl
    next => cases hdata
  | uploadPhoto url owner isProfilePhoto =>
    replace huid : owner.uid = some uid := huid
    simp only [data, ATCProfileFirebaseUpdater.uploadPhotoCompletion, huid] at hdata
    split at hdata
    next =>
      obtain rfl := Option.some.inj hdata
      cases isProfilePhoto <;> rfl
    next => cases hdata
  | pushToken owner fcmToken =>
    obtain ⟨token, -, rfl⟩ := Option.map_eq_some_iff.mp hdata
    rfl

theorem data_fcmToken (w : DirectoryWrite) :
    (w.data.bind fun data => data.lookup "fcmToken") = w.token.map .string := by
  cases w with
  | save saved appIdentifier => rfl
  | update edited email firstName lastName username =>
    simp only [data, ATCProfileFirebaseUpdater.update]
    cases edited.uid <;> rfl
  | removePhoto url owner =>
    simp only [data, ATCProfileFirebaseUpdater.removePhoto]
    split <;> rfl
  | uploadPhoto url owner isProfilePhoto =>
    simp only [data, ATCProfileFirebaseUpdater.uploadPhotoCompletion]
    split
    next => cases isProfilePhoto <;> rfl
    next => rfl
  | pushToken owner fcmToken => cases fcmToken <;> rfl

theorem target_bind_of_uid (w : DirectoryWrite) (id : String) :
    (w.target.bind fun target => if target.1 = id then some target.2 else none) =
      if w.user.uid = some id then w.data else none := by
  unfold target
  cases w.user.uid with
  | none => rfl
  | some uid => cases w.data <;> simp

theorem exists_target_of_save {w : DirectoryWrite} {uid : String} (hsave : w.isSave = true)
    (huid : w.user.uid = some uid) : ∃ dict, w.target = some (uid, dict) := by
  cases w with
  | save saved appIdentifier => exact ⟨_, target_eq_some.mpr ⟨huid, rfl⟩⟩
  | update | removePhoto | uploadPhoto | pushToken => cases hsave

end DirectoryWrite

/-- The writes to one document, in their order. -/
def writesTo (writes : List DirectoryWrite) (id : String) : List JSONDict :=
  writes.filterMap fun w => w.target.bind fun target =>
    if target.1 = id then some target.2 else none

/-- The value that the last write with the key gave it. -/
def lastValue (writes : List DirectoryWrite) (id key : String) : Option JSON :=
  (writesTo writes id).reverse.findSome? fun data => data.lookup key

omit [CanonicalForm] in
/-- The tokens that the push managers of the user wrote, in their order. -/
def pushTokens (writes : List DirectoryWrite) (uid : String) : List String :=
  writes.filterMap fun w => if w.user.uid = some uid then w.token else none

omit [CanonicalForm] in
/-- Some client saved the user. -/
def IsSaved (writes : List DirectoryWrite) (uid : String) : Prop :=
  ∃ w ∈ writes, w.isSave = true ∧ w.user.uid = some uid

theorem mem_writesTo {writes : List DirectoryWrite} {id : String} {data : JSONDict} :
    data ∈ writesTo writes id ↔ ∃ w ∈ writes, w.target = some (id, data) := by
  simp only [writesTo, List.mem_filterMap, Option.bind_eq_some_iff, Option.ite_none_right_eq_some,
    Option.some.injEq, Prod.exists]
  constructor
  · rintro ⟨w, hw, uid, data, htarget, rfl, rfl⟩
    exact ⟨w, hw, htarget⟩
  · rintro ⟨w, hw, htarget⟩
    exact ⟨w, hw, id, data, htarget, rfl, rfl⟩

namespace UsersDirectory

theorem after_concat (writes : List DirectoryWrite) (w : DirectoryWrite) :
    after (writes ++ [w]) = (after writes).write w := by
  rw [after, List.foldl_append]
  rfl

theorem after_users (writes : List DirectoryWrite) (id : String) :
    (after writes).users id = (writesTo writes id).foldl KeyedMerge.merge [] := by
  induction writes using List.reverseRecOn with
  | nil => rfl
  | append_singleton writes w ih =>
    rw [after_concat, write, writesTo, List.filterMap_append, List.foldl_append, ← writesTo, ← ih]
    cases htarget : w.target with
    | none => simp [htarget]
    | some target =>
      obtain ⟨uid, data⟩ := target
      simp only [UsersCollection.setData, Function.update_apply]
      by_cases hid : id = uid
      · simp [hid, htarget]
      · simp [hid, Ne.symm hid, htarget]

theorem lookup_after (writes : List DirectoryWrite) (id key : String) :
    ((after writes).users id).lookup key = lastValue writes id key := by
  rw [after_users, KeyedMerge.lookup_foldl_merge]
  exact Option.or_none

theorem mem_ids {writes : List DirectoryWrite} {id : String} :
    id ∈ (after writes).ids ↔ ∃ data, data ∈ writesTo writes id := by
  induction writes using List.reverseRecOn with
  | nil => simp [after, empty, writesTo]
  | append_singleton writes w ih =>
    have hsplit : (∃ data, data ∈ writesTo (writes ++ [w]) id) ↔
        (∃ data, data ∈ writesTo writes id) ∨ ∃ data, w.target = some (id, data) := by
      simp only [mem_writesTo, List.mem_append, List.mem_singleton, or_and_right, exists_or,
        exists_eq_left]
    rw [hsplit, ← ih, after_concat, write]
    cases w.target with
    | none => simp
    | some target => simp [Prod.ext_iff, or_comm, eq_comm]

/-! ## What the readers find -/

variable {writes : List DirectoryWrite}

theorem mem_ids_of_saved {uid : String} (h : IsSaved writes uid) : uid ∈ (after writes).ids := by
  obtain ⟨w, hw, hsave, huid⟩ := h
  obtain ⟨data, htarget⟩ := DirectoryWrite.exists_target_of_save hsave huid
  exact mem_ids.mpr ⟨data, mem_writesTo.mpr ⟨w, hw, htarget⟩⟩

theorem lastValue_userID {id : String} {value : JSON} :
    lastValue writes id "userID" = some value ↔ value = .string id ∧ IsSaved writes id := by
  have hvalue : ∀ data ∈ (writesTo writes id).reverse, ∀ value, data.lookup "userID" = some value →
      value = .string id ∧ IsSaved writes id := by
    intro data hdata value hlookup
    obtain ⟨w, hw, htarget⟩ := mem_writesTo.mp (List.mem_reverse.mp hdata)
    rw [DirectoryWrite.target_userID htarget] at hlookup
    split at hlookup
    next hsave =>
      have huid := (DirectoryWrite.target_eq_some.mp htarget).1
      exact ⟨(Option.some.inj hlookup).symm, w, hw, hsave, huid⟩
    next => cases hlookup
  constructor
  · intro h
    obtain ⟨data, hdata, hlookup⟩ := List.exists_of_findSome?_eq_some h
    exact hvalue data hdata value hlookup
  · rintro ⟨rfl, w, hw, hsave, huid⟩
    obtain ⟨data, htarget⟩ := DirectoryWrite.exists_target_of_save hsave huid
    have hmem := List.mem_reverse.mpr (mem_writesTo.mpr ⟨w, hw, htarget⟩)
    have hfound := DirectoryWrite.target_userID htarget
    rw [if_pos hsave] at hfound
    have hsome : (lastValue writes id "userID").isSome :=
      List.findSome?_isSome_iff.mpr ⟨data, hmem, by rw [hfound]; rfl⟩
    obtain ⟨value, hlast⟩ := Option.isSome_iff_exists.mp hsome
    obtain ⟨data', hdata', hlookup⟩ := List.exists_of_findSome?_eq_some hlast
    rw [hlast, (hvalue data' hdata' value hlookup).1]

/-- The user of a document, each field by the last write under the key it is read from. -/
def profile (writes : List DirectoryWrite) (id : String) : ATCUser where
  firstName := (lastValue writes id "firstName").bind JSON.asString
  lastName := (lastValue writes id "lastName").bind JSON.asString
  profilePictureURL := (lastValue writes id "profilePictureURL").bind JSON.asString
  username := (lastValue writes id "username").bind JSON.asString
  email := (lastValue writes id "email").bind JSON.asString
  uid := (lastValue writes id "userID").bind JSON.asString
  pushToken := (lastValue writes id "fcmToken").bind JSON.asString
  photos := (lastValue writes id "photos").bind JSON.asStrings
  isOnline := false

theorem initRepresentation_after (writes : List DirectoryWrite) (id : String) :
    ATCUser.initRepresentation ((after writes).users id) = profile writes id := by
  simp only [ATCUser.initRepresentation, lookup_after, profile]

theorem profile_pushToken (id : String) :
    (profile writes id).pushToken = (pushTokens writes id).getLast? := by
  have htokens : (writesTo writes id).filterMap (fun data => data.lookup "fcmToken") =
      (pushTokens writes id).map .string := by
    rw [writesTo, pushTokens, List.filterMap_filterMap, List.map_filterMap]
    congr 1
    funext w
    rw [DirectoryWrite.target_bind_of_uid]
    split
    next => exact w.data_fcmToken
    next => rfl
  show (lastValue writes id "fcmToken").bind JSON.asString = _
  rw [lastValue, ← List.head?_filterMap, List.filterMap_reverse, htokens, List.head?_reverse,
    List.getLast?_map]
  cases (pushTokens writes id).getLast? <;> rfl

theorem profile_uid {id uid : String} :
    (profile writes id).uid = some uid ↔ uid = id ∧ IsSaved writes id := by
  simp only [profile, Option.bind_eq_some_iff, lastValue_userID]
  constructor
  · rintro ⟨value, ⟨rfl, hsaved⟩, hstring⟩
    exact ⟨(Option.some.inj hstring).symm, hsaved⟩
  · rintro ⟨rfl, hsaved⟩
    exact ⟨_, ⟨rfl, hsaved⟩, rfl⟩

theorem profile_uid_eq_none {id : String} :
    (profile writes id).uid = none ↔ ¬IsSaved writes id := by
  rw [Option.eq_none_iff_forall_ne_some]
  constructor
  · exact fun hnone hsaved => hnone id (profile_uid.mpr ⟨rfl, hsaved⟩)
  · exact fun hnot uid huid => hnot (profile_uid.mp huid).2

theorem mem_fetchUsers {viewer user : ATCUser} :
    user ∈ (after writes).fetchUsers viewer ↔
      (∃ id ∈ (after writes).ids, profile writes id = user) ∧
        optionalEq user.uid viewer.uid = false := by
  simp [fetchUsers, documents, initRepresentation_after]

theorem documents_userID {data : JSONDict} {uid : String} (hdata : data ∈ (after writes).documents)
    (huid : (data.lookup "userID").bind JSON.asString = some uid) :
    data = (after writes).users uid ∧ IsSaved writes uid := by
  obtain ⟨id, -, rfl⟩ := List.mem_map.mp hdata
  have hprofile : (profile writes id).uid = some uid := by
    rw [← initRepresentation_after]
    exact huid
  obtain ⟨rfl, hsaved⟩ := profile_uid.mp hprofile
  exact ⟨rfl, hsaved⟩

theorem fetchUser_of_saved {uid : String} (hsaved : IsSaved writes uid) :
    (after writes).fetchUser uid = some (profile writes uid) := by
  rw [fetchUser, List.head?_filter]
  cases hfind : (after writes).documents.find? fun data =>
      (data.lookup "userID").bind JSON.asString = some uid with
  | some data =>
    have hfit := List.find?_some hfind
    obtain ⟨rfl, -⟩ :=
      documents_userID (List.mem_of_find?_eq_some hfind) (of_decide_eq_true hfit)
    rw [Option.map_some, initRepresentation_after]
  | none =>
    have hmem : (after writes).users uid ∈ (after writes).documents :=
      List.mem_map_of_mem ((Finset.mem_sort _).mpr (mem_ids_of_saved hsaved))
    have hmissing := List.find?_eq_none.mp hfind _ hmem
    rw [lookup_after, lastValue_userID.mpr ⟨rfl, hsaved⟩] at hmissing
    simp [JSON.asString] at hmissing

theorem fetchUser_of_not_saved {uid : String} (hnot : ¬IsSaved writes uid) :
    (after writes).fetchUser uid = none := by
  rw [fetchUser, List.head?_filter, Option.map_eq_none_iff, List.find?_eq_none]
  exact fun data hdata hfit =>
    hnot (documents_userID hdata (of_decide_eq_true hfit)).2

/-- **A search by id finds exactly the users that were saved**, each with the last value that
any client wrote under the key of each of its fields. The key of the token is that of the push
manager. -/
theorem fetchUser_after (writes : List DirectoryWrite) (uid : String) :
    (IsSaved writes uid → (after writes).fetchUser uid = some (profile writes uid) ∧
      (profile writes uid).uid = some uid ∧
      (profile writes uid).pushToken = (pushTokens writes uid).getLast?) ∧
    (¬IsSaved writes uid → (after writes).fetchUser uid = none) :=
  ⟨fun hsaved => ⟨fetchUser_of_saved hsaved, profile_uid.mpr ⟨rfl, hsaved⟩, profile_pushToken uid⟩,
    fetchUser_of_not_saved⟩

theorem fetchUsers_sorted (writes : List DirectoryWrite) (viewer : ATCUser) :
    (((after writes).fetchUsers viewer).filterMap ATCUser.uid).Pairwise (· < ·) := by
  have hsorted := ((after writes).ids.sortedLT_sort).pairwise
  rw [fetchUsers, documents, List.map_map]
  refine List.Pairwise.filterMap (R := fun user user' => ∀ uid uid', user.uid = some uid →
    user'.uid = some uid' → uid < uid') ATCUser.uid ?_ (List.Pairwise.filter _ ?_)
  · exact fun user user' hlt uid huid uid' huid' => hlt uid uid' huid huid'
  · refine List.pairwise_map.mpr (hsorted.imp fun {id id'} hlt uid uid' huid huid' => ?_)
    rw [Function.comp_apply, initRepresentation_after] at huid huid'
    rwa [(profile_uid.mp huid).1, (profile_uid.mp huid').1]

theorem uid_mem_fetchUsers {writes : List DirectoryWrite} {viewer : ATCUser} {uid : String} :
    uid ∈ ((after writes).fetchUsers viewer).filterMap ATCUser.uid ↔
      IsSaved writes uid ∧ optionalEq (some uid) viewer.uid = false := by
  simp only [List.mem_filterMap, mem_fetchUsers]
  constructor
  · rintro ⟨user, ⟨⟨id, -, rfl⟩, hother⟩, huid⟩
    rw [huid] at hother
    obtain ⟨rfl, hsaved⟩ := profile_uid.mp huid
    exact ⟨hsaved, hother⟩
  · rintro ⟨hsaved, hother⟩
    have huid := profile_uid.mpr ⟨rfl, hsaved⟩
    refine ⟨profile writes uid, ⟨⟨uid, mem_ids_of_saved hsaved, rfl⟩, ?_⟩, huid⟩
    rwa [huid]

theorem lists_no_uid_iff {writes : List DirectoryWrite} {viewer : ATCUser} :
    (∃ user ∈ (after writes).fetchUsers viewer, user.uid = none) ↔
      viewer.uid ≠ none ∧
        ∃ w ∈ writes, ∃ id data, w.target = some (id, data) ∧ ¬IsSaved writes id := by
  have hviewer : optionalEq none viewer.uid = false ↔ viewer.uid ≠ none := by
    cases viewer.uid <;> simp [optionalEq]
  rw [← hviewer]
  constructor
  · rintro ⟨user, huser, hnone⟩
    obtain ⟨⟨id, hid, rfl⟩, hother⟩ := mem_fetchUsers.mp huser
    obtain ⟨data, hdata⟩ := mem_ids.mp hid
    obtain ⟨w, hw, htarget⟩ := mem_writesTo.mp hdata
    rw [hnone] at hother
    exact ⟨hother, w, hw, id, data, htarget, profile_uid_eq_none.mp hnone⟩
  · rintro ⟨hother, w, hw, id, data, htarget, hnot⟩
    have hnone := profile_uid_eq_none.mpr hnot
    have hid := mem_ids.mpr ⟨data, mem_writesTo.mpr ⟨w, hw, htarget⟩⟩
    refine ⟨profile writes id, mem_fetchUsers.mpr ⟨⟨id, hid, rfl⟩, ?_⟩, hnone⟩
    rwa [hnone]

/-- **The list of the others has every saved user but the viewer once**, in the order of the
ids, as a search by its id finds it. What else is listed are documents that were only edited
or given a token: they have no id, and every viewer with one sees them. -/
theorem fetchUsers_after (writes : List DirectoryWrite) (viewer : ATCUser) :
    (((after writes).fetchUsers viewer).filterMap ATCUser.uid).Pairwise (· < ·) ∧
      (∀ uid, uid ∈ ((after writes).fetchUsers viewer).filterMap ATCUser.uid ↔
        IsSaved writes uid ∧ optionalEq (some uid) viewer.uid = false) ∧
      (∀ user ∈ (after writes).fetchUsers viewer, ∀ uid, user.uid = some uid →
        (after writes).fetchUser uid = some user) ∧
      ((∃ user ∈ (after writes).fetchUsers viewer, user.uid = none) ↔
        viewer.uid ≠ none ∧
          ∃ w ∈ writes, ∃ id data, w.target = some (id, data) ∧ ¬IsSaved writes id) := by
  refine ⟨fetchUsers_sorted writes viewer, fun uid => uid_mem_fetchUsers, ?_, lists_no_uid_iff⟩
  intro user huser uid huid
  obtain ⟨⟨id, -, rfl⟩, -⟩ := mem_fetchUsers.mp huser
  obtain ⟨rfl, hsaved⟩ := profile_uid.mp huid
  exact fetchUser_of_saved hsaved

end UsersDirectory

end Directory

end FinanceApp
