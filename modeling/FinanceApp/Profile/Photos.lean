import FinanceApp.Lib.Machine
import FinanceApp.Users.User

/-!
# The photos of a profile

`ATCProfileFirebaseUpdater` writes the whole list of photos at each upload and removal,
computed from the user in memory, which no write refreshes. So the last write to arrive is
all that is left of the others.
-/

namespace FinanceApp

section Photos

variable [CanonicalForm]

/-- What an operation means to do with one URL. -/
inductive PhotoChange where
  | uploaded (url : String)
  | removed (url : String)

def PhotoChange.apply (photos : List String) : PhotoChange → List String
  | uploaded url => photos ++ [url]
  | removed url => photos.filter fun photo => !stringEq photo url

/-! ## The updater: the data that it writes to the document of the user -/

namespace ATCProfileFirebaseUpdater

def removePhoto (url : String) (user : ATCUser) : Option JSONDict :=
  match user.uid, user.photos with
  | some _, some photos =>
    let remainingPhotos := photos.filter fun photo => !stringEq photo url
    some [("photos", .array (remainingPhotos.map .string))]
  | _, _ => none

omit [CanonicalForm] in
/-- The closure that `uploadPhoto` runs when its image is uploaded. -/
def uploadPhotoCompletion (url : Option String) (user : ATCUser) (isProfilePhoto : Bool) :
    Option JSONDict :=
  match url, user.uid with
  | some url, some _ =>
    let photos := user.photos.getD [] ++ [url]
    some (if isProfilePhoto then
      [("photos", .array (photos.map .string)), ("profilePictureURL", .string url)]
    else [("photos", .array (photos.map .string))])
  | _, _ => none

end ATCProfileFirebaseUpdater

structure PhotoWrite where
  change : PhotoChange
  data : JSONDict

/-- The user in memory and its document, with the uploads (each with its `isProfilePhoto`)
and the writes that are not complete. -/
structure PhotoSession where
  user : ATCUser
  document : JSONDict
  uploads : List Bool := []
  writes : List PhotoWrite := []

inductive PhotoAction where
  | uploadPhoto (isProfilePhoto : Bool)
  | removePhoto (url : String)
  | imageUploaded (i : Nat) (url : Option String)
  | written (i : Nat)

inductive PhotoEvent where
  | uploading
  | asked (change : PhotoChange)
  | uploadFailed
  | written (change : PhotoChange)

namespace PhotoSession

/-- The document holds what the user in memory has. -/
def initial (user : ATCUser) (document : JSONDict) : PhotoSession where
  user := user
  document := KeyedMerge.merge document user.representation

def issue (s : PhotoSession) (change : PhotoChange) (data : Option JSONDict) : PhotoSession :=
  { s with writes := s.writes ++ (data.map (⟨change, ·⟩)).toList }

def step (s : PhotoSession) : PhotoAction → Option (PhotoSession × PhotoEvent)
  | .uploadPhoto isProfilePhoto =>
    some ({ s with uploads := s.uploads ++ [isProfilePhoto] }, .uploading)
  | .removePhoto url =>
    some (s.issue (.removed url) (ATCProfileFirebaseUpdater.removePhoto url s.user),
      .asked (.removed url))
  | .imageUploaded i url =>
    match s.uploads[i]?, url with
    | none, _ => none
    | some _, none => some ({ s with uploads := s.uploads.eraseIdx i }, .uploadFailed)
    | some isProfilePhoto, some url =>
      let data := ATCProfileFirebaseUpdater.uploadPhotoCompletion (some url) s.user isProfilePhoto
      let dropped := { s with uploads := s.uploads.eraseIdx i }
      some (dropped.issue (.uploaded url) data, .asked (.uploaded url))
  | .written i =>
    match s.writes[i]? with
    | none => none
    | some write =>
      some ({ s with
          document := KeyedMerge.merge s.document write.data
          writes := s.writes.eraseIdx i }, .written write.change)

def machine : Machine PhotoSession PhotoAction PhotoEvent := ⟨step⟩

def photos (s : PhotoSession) : List String :=
  ((s.document.lookup "photos").bind JSON.asStrings).getD []

end PhotoSession

/-! ## What becomes of the photos -/

def Has (photos : List String) (url : String) : Prop :=
  canonicalForm url ∈ photos.map canonicalForm

instance (photos : List String) (url : String) : Decidable (Has photos url) :=
  inferInstanceAs (Decidable (_ ∈ _))

omit [CanonicalForm] in
def PhotoEvent.change : PhotoEvent → Option PhotoChange
  | asked change => some change
  | _ => none

omit [CanonicalForm] in
def uploadedURLs (log : List PhotoEvent) : List String :=
  (log.filterMap PhotoEvent.change).filterMap fun
    | .uploaded url => some url
    | .removed _ => none

omit [CanonicalForm] in
def removedURLs (log : List PhotoEvent) : List String :=
  (log.filterMap PhotoEvent.change).filterMap fun
    | .removed url => some url
    | .uploaded _ => none

omit [CanonicalForm] in
/-- The operation whose write was the last to arrive. -/
def lastWritten (log : List PhotoEvent) : Option PhotoChange :=
  (log.filterMap fun
    | .written change => some change
    | _ => none).getLast?

/-- As a set: the initial photos and the uploaded ones, less the removed ones. -/
def PhotosKept (initial : List String) (s : PhotoSession) (log : List PhotoEvent) : Prop :=
  ∀ url, Has s.photos url ↔
    (Has initial url ∨ Has (uploadedURLs log) url) ∧ ¬ Has (removedURLs log) url

/-- Every operation but the one written last had nothing to do: its upload was removed
again or there already, its removed photo was not there. -/
def AccountsForAll (initial uploaded removed : List String) : Option PhotoChange → Prop
  | none => (∀ url ∈ uploaded, Has initial url ∨ Has removed url) ∧
      ∀ url ∈ removed, ¬ Has initial url
  | some (.uploaded last) =>
    (∀ url ∈ uploaded, stringEq url last = true ∨ Has initial url ∨ Has removed url) ∧
      ∀ url ∈ removed, ¬ Has initial url ∧ stringEq url last = false
  | some (.removed last) => (∀ url ∈ uploaded, Has initial url ∨ Has removed url) ∧
      ∀ url ∈ removed, Has initial url → stringEq url last = true

/-! ## The data of a write -/

omit [CanonicalForm] in
theorem photos_of_lookup {s : PhotoSession} {photos : List String}
    (h : s.document.lookup "photos" = some (.array (photos.map .string))) : s.photos = photos := by
  unfold PhotoSession.photos
  rw [h, Option.bind_some, JSON.asStrings_array, Option.getD_some]

theorem removePhoto_photos {url : String} {user : ATCUser} {data : JSONDict}
    (h : ATCProfileFirebaseUpdater.removePhoto url user = some data) :
    data.lookup "photos" =
      some (.array (((PhotoChange.removed url).apply (user.photos.getD [])).map .string)) := by
  unfold ATCProfileFirebaseUpdater.removePhoto at h
  split at h
  · next photos hphotos =>
    obtain rfl := Option.some.inj h
    rw [hphotos]
    rfl
  · cases h

theorem uploadPhotoCompletion_photos {url : String} {user : ATCUser}
    {isProfilePhoto : Bool} {data : JSONDict}
    (h : ATCProfileFirebaseUpdater.uploadPhotoCompletion (some url) user isProfilePhoto =
      some data) :
    data.lookup "photos" =
      some (.array (((PhotoChange.uploaded url).apply (user.photos.getD [])).map .string)) := by
  unfold ATCProfileFirebaseUpdater.uploadPhotoCompletion at h
  split at h
  · next hurl _ =>
    obtain rfl := Option.some.inj hurl
    obtain rfl := Option.some.inj h
    cases isProfilePhoto <;> rfl
  · cases h

/-! ## One step -/

namespace PhotoSession

/-- What the photos of the document are after the events `log`, and what each write in
flight will make them. -/
structure Recorded (user : ATCUser) (log : List PhotoEvent) (s : PhotoSession) : Prop where
  inMemory : s.user = user
  photos : s.photos = (lastWritten log).elim (user.photos.getD [])
    fun change => change.apply (user.photos.getD [])
  writes : ∀ write ∈ s.writes, PhotoEvent.asked write.change ∈ log ∧ write.data.lookup "photos" =
    some (.array ((write.change.apply (user.photos.getD [])).map .string))
  last : ∀ change, lastWritten log = some change → PhotoEvent.asked change ∈ log

omit [CanonicalForm] in
theorem lastWritten_concat (log : List PhotoEvent) (e : PhotoEvent) :
    lastWritten (log ++ [e]) = match e with
      | .written change => some change
      | _ => lastWritten log := by
  unfold lastWritten
  cases e <;> simp

theorem recorded_initial (user : ATCUser) (document : JSONDict) :
    Recorded user [] (initial user document) := by
  refine ⟨rfl, ?_, by simp [initial], by simp [lastWritten]⟩
  have hlookup : (initial user document).document.lookup "photos" =
      user.representation.lookup "photos" := by
    unfold initial
    rw [KeyedMerge.lookup_merge]
    rfl
  unfold photos
  rw [hlookup, ATCUser.representation_photos]
  rfl

theorem Recorded.ask {user : ATCUser} {log : List PhotoEvent} {s s' : PhotoSession}
    {e : PhotoEvent} (hs : Recorded user log s) (huser : s'.user = s.user)
    (hdocument : s'.document = s.document) (he : ∀ change, e ≠ .written change)
    (hwrites : ∀ write ∈ s'.writes, write ∈ s.writes ∨ e = .asked write.change ∧
      write.data.lookup "photos" =
        some (.array ((write.change.apply (user.photos.getD [])).map .string))) :
    Recorded user (log ++ [e]) s' := by
  have hlast : lastWritten (log ++ [e]) = lastWritten log := by
    rw [lastWritten_concat]
    cases e with
    | written change => exact absurd rfl (he change)
    | _ => rfl
  refine ⟨huser.trans hs.inMemory, ?_, ?_, ?_⟩
  · rw [hlast, ← hs.photos]
    unfold PhotoSession.photos
    rw [hdocument]
  · intro write hwrite
    rcases hwrites write hwrite with hold | ⟨rfl, hdata⟩
    · exact ⟨List.mem_append_left _ (hs.writes write hold).1, (hs.writes write hold).2⟩
    · exact ⟨by simp, hdata⟩
  · intro change hchange
    rw [hlast] at hchange
    exact List.mem_append_left _ (hs.last change hchange)

omit [CanonicalForm] in
theorem mem_issue {s : PhotoSession} {change : PhotoChange} {data : Option JSONDict}
    {write : PhotoWrite} (h : write ∈ (s.issue change data).writes) :
    write ∈ s.writes ∨ write.change = change ∧ data = some write.data := by
  unfold issue at h
  rcases List.mem_append.mp h with hold | hnew
  · exact .inl hold
  · cases data with
    | none => simp at hnew
    | some data =>
      simp only [Option.map_some, Option.toList_some, List.mem_singleton] at hnew
      exact .inr ⟨by rw [hnew], by rw [hnew]⟩

theorem step_recorded {user : ATCUser} {log : List PhotoEvent} {s s' : PhotoSession}
    {a : PhotoAction} {e : PhotoEvent} (hs : Recorded user log s)
    (h : machine.step s a = some (s', e)) : Recorded user (log ++ [e]) s' := by
  cases a with
  | uploadPhoto isProfilePhoto =>
    obtain ⟨rfl, rfl⟩ := Prod.mk.inj (Option.some.inj h)
    exact hs.ask rfl rfl (by simp) fun write hwrite => .inl hwrite
  | removePhoto url =>
    obtain ⟨rfl, rfl⟩ := Prod.mk.inj (Option.some.inj h)
    refine hs.ask rfl rfl (by simp) fun write hwrite => ?_
    rcases mem_issue hwrite with hold | ⟨hchange, hdata⟩
    · exact .inl hold
    · rw [hs.inMemory] at hdata
      exact .inr ⟨by rw [hchange], by rw [hchange]; exact removePhoto_photos hdata⟩
  | imageUploaded i url =>
    simp only [machine, step] at h
    split at h
    · cases h
    · obtain ⟨rfl, rfl⟩ := Prod.mk.inj (Option.some.inj h)
      exact hs.ask rfl rfl (by simp) fun write hwrite => .inl hwrite
    · obtain ⟨rfl, rfl⟩ := Prod.mk.inj (Option.some.inj h)
      refine hs.ask rfl rfl (by simp) fun write hwrite => ?_
      rcases mem_issue hwrite with hold | ⟨hchange, hdata⟩
      · exact .inl hold
      · rw [hs.inMemory] at hdata
        exact .inr ⟨by rw [hchange], by rw [hchange]; exact uploadPhotoCompletion_photos hdata⟩
  | written i =>
    simp only [machine, step] at h
    split at h
    · cases h
    · next write hwrite =>
      obtain ⟨rfl, rfl⟩ := Prod.mk.inj (Option.some.inj h)
      obtain ⟨hasked, hdata⟩ := hs.writes write (List.mem_of_getElem? hwrite)
      refine ⟨hs.inMemory, ?_, ?_, ?_⟩
      · rw [lastWritten_concat]
        refine photos_of_lookup ?_
        rw [KeyedMerge.lookup_merge, hdata, Option.some_or]
        rfl
      · intro other hother
        have hold := hs.writes other ((List.eraseIdx_sublist _ _).subset hother)
        exact ⟨List.mem_append_left _ hold.1, hold.2⟩
      · intro change hchange
        rw [lastWritten_concat] at hchange
        obtain rfl := Option.some.inj hchange
        exact List.mem_append_left _ hasked

end PhotoSession

/-! ## Runs -/

theorem has_append_singleton (photos : List String) (last url : String) :
    Has (photos ++ [last]) url ↔ Has photos url ∨ stringEq url last = true := by
  unfold Has
  rw [stringEq_iff, List.map_append, List.mem_append, List.map_singleton, List.mem_singleton]

theorem has_filter (photos : List String) (last url : String) :
    Has (photos.filter fun photo => !stringEq photo last) url ↔
      Has photos url ∧ ¬ stringEq url last = true := by
  unfold Has
  simp only [List.mem_map, List.mem_filter, Bool.not_eq_true', ← Bool.not_eq_true, stringEq_iff]
  constructor
  · rintro ⟨photo, ⟨hphoto, hne⟩, heq⟩
    exact ⟨⟨photo, hphoto, heq⟩, heq ▸ hne⟩
  · rintro ⟨⟨photo, hphoto, heq⟩, hne⟩
    exact ⟨photo, ⟨hphoto, heq ▸ hne⟩, heq⟩

theorem has_of_mem {photos : List String} {url : String} (h : url ∈ photos) : Has photos url :=
  List.mem_map_of_mem h

theorem has_congr {photos : List String} {url other : String} (h : stringEq url other = true) :
    Has photos url ↔ Has photos other := by
  unfold Has
  rw [(stringEq_iff url other).mp h]

theorem forall_has_iff {photos : List String} {p : String → Prop}
    (hp : ∀ url other, stringEq url other = true → p other → p url) :
    (∀ url, Has photos url → p url) ↔ ∀ url ∈ photos, p url := by
  constructor
  · intro h url hurl
    exact h url (has_of_mem hurl)
  · intro h url hurl
    obtain ⟨other, hother, heq⟩ := List.mem_map.mp hurl
    exact hp url other ((stringEq_iff url other).mpr heq.symm) (h other hother)

omit [CanonicalForm] in
theorem mem_uploadedURLs {log : List PhotoEvent} {url : String}
    (h : PhotoEvent.asked (.uploaded url) ∈ log) : url ∈ uploadedURLs log :=
  List.mem_filterMap.mpr ⟨_, List.mem_filterMap.mpr ⟨_, h, rfl⟩, rfl⟩

omit [CanonicalForm] in
theorem mem_removedURLs {log : List PhotoEvent} {url : String}
    (h : PhotoEvent.asked (.removed url) ∈ log) : url ∈ removedURLs log :=
  List.mem_filterMap.mpr ⟨_, List.mem_filterMap.mpr ⟨_, h, rfl⟩, rfl⟩

theorem accountsForAll_iff {initial uploaded removed : List String} (last : Option PhotoChange) :
    AccountsForAll initial uploaded removed last ↔ match last with
      | none => (∀ url, Has uploaded url → Has initial url ∨ Has removed url) ∧
          ∀ url, Has removed url → ¬ Has initial url
      | some (.uploaded last) =>
          (∀ url, Has uploaded url → stringEq url last = true ∨ Has initial url ∨ Has removed url) ∧
          ∀ url, Has removed url → ¬ Has initial url ∧ ¬ stringEq url last = true
      | some (.removed last) => (∀ url, Has uploaded url → Has initial url ∨ Has removed url) ∧
          ∀ url, Has removed url → Has initial url → stringEq url last = true := by
  have heq : ∀ {url other last : String}, stringEq url other = true →
      (stringEq url last = true ↔ stringEq other last = true) := by
    intro url other last h
    rw [stringEq_iff, stringEq_iff, (stringEq_iff url other).mp h]
  unfold AccountsForAll
  rcases last with _ | last | last
  · refine and_congr (forall_has_iff ?_).symm (forall_has_iff ?_).symm
    · intro url other h
      rw [has_congr h, has_congr h]; exact id
    · intro url other h
      rw [has_congr h]; exact id
  · simp only [← Bool.not_eq_true]
    refine and_congr (forall_has_iff ?_).symm (forall_has_iff ?_).symm
    · intro url other h
      rw [heq h, has_congr h, has_congr h]; exact id
    · intro url other h
      rw [heq h, has_congr h]; exact id
  · refine and_congr (forall_has_iff ?_).symm (forall_has_iff ?_).symm
    · intro url other h
      rw [has_congr h, has_congr h]; exact id
    · intro url other h
      rw [heq h, has_congr h]; exact id

/-- **The photos are kept exactly when the operation written last accounts for all**, in
whatever order uploads and writes complete. -/
theorem photos_kept_iff (user : ATCUser) (document : JSONDict) (as : List PhotoAction)
    (s : PhotoSession) (log : List PhotoEvent)
    (h : PhotoSession.machine.run (.initial user document) as = some (s, log)) :
    PhotosKept (user.photos.getD []) s log ↔
      AccountsForAll (user.photos.getD []) (uploadedURLs log) (removedURLs log)
        (lastWritten log) := by
  have hs : PhotoSession.Recorded user log s :=
    PhotoSession.machine.run_induction (P := PhotoSession.Recorded user)
      (PhotoSession.recorded_initial user document) PhotoSession.step_recorded h
  rw [accountsForAll_iff]
  unfold PhotosKept
  rw [hs.photos]
  have hlast := hs.last
  rcases hwritten : lastWritten log with _ | last | last
  · simp only [Option.elim_none]
    rw [← forall_and]
    refine forall_congr' fun url => ?_
    grind
  · have hmem := has_of_mem (mem_uploadedURLs (hlast _ hwritten))
    simp only [Option.elim_some, PhotoChange.apply, has_append_singleton]
    rw [← forall_and]
    refine forall_congr' fun url => ?_
    have hsame : stringEq url last = true → Has (uploadedURLs log) url :=
      fun h => (has_congr h).mpr hmem
    grind
  · have hmem := has_of_mem (mem_removedURLs (hlast _ hwritten))
    simp only [Option.elim_some, PhotoChange.apply, has_filter]
    rw [← forall_and]
    refine forall_congr' fun url => ?_
    have hsame : stringEq url last = true → Has (removedURLs log) url :=
      fun h => (has_congr h).mpr hmem
    grind

end Photos

/-! ## Several operations -/

open scoped ASCII

def photographer : ATCUser := { uid := some "neo", photos := some [] }

def oneUpload : List PhotoAction := [.uploadPhoto false, .imageUploaded 0 (some "/a"), .written 0]

/-- Of two uploads the first is removed again, and the write of the second arrives after those
of two removals. -/
def removedAgain : List PhotoAction :=
  [.uploadPhoto false, .uploadPhoto true, .imageUploaded 0 (some "/c"), .written 0,
    .removePhoto "/c", .removePhoto "/d", .imageUploaded 0 (some "/e"), .written 1, .written 0,
    .written 0]

theorem photos_kept_removed_again :
    ∃ s log, PhotoSession.machine.run
        (.initial { photographer with photos := some ["/a", "/b"] } []) removedAgain =
          some (s, log) ∧
      uploadedURLs log = ["/c", "/e"] ∧ removedURLs log = ["/c", "/d"] ∧
      s.photos = ["/a", "/b", "/e"] ∧ PhotosKept ["/a", "/b"] s log := by
  refine ⟨_, _, rfl, rfl, rfl, rfl, ?_⟩
  refine (photos_kept_iff { photographer with photos := some ["/a", "/b"] } [] removedAgain _ _
    rfl).mpr ?_
  show AccountsForAll ["/a", "/b"] ["/c", "/e"] ["/c", "/d"] (some (.uploaded "/e"))
  unfold AccountsForAll
  decide

theorem first_photo_lost :
    ¬ ∀ (user : ATCUser) (document : JSONDict) (as : List PhotoAction) (s : PhotoSession)
      (log : List PhotoEvent),
      PhotoSession.machine.run (.initial user document) as = some (s, log) →
      s.uploads = [] ∧ s.writes = [] → PhotosKept (user.photos.getD []) s log := by
  -- The second upload, after the first is all done, writes its own photo only.
  intro hall
  have hkept := hall photographer [] (oneUpload ++ [.uploadPhoto false,
    .imageUploaded 0 (some "/b"), .written 0]) _ _ rfl ⟨rfl, rfl⟩ "/a"
  change Has ["/b"] "/a" ↔ (Has [] "/a" ∨ Has ["/a", "/b"] "/a") ∧ ¬ Has [] "/a" at hkept
  exact absurd (hkept.mpr (by decide)) (by decide)

end FinanceApp
