import FinanceApp.Swift
import FinanceApp.Lib.EraseLast
import Mathlib.Logic.Function.Basic

/-!
# The disk persistence store

`ATCDiskPersistenceStore` keeps an array of objects as an archive under one key of the
user defaults. `NSKeyedArchiver` is what objects write under their own keys and read
back.
-/

namespace FinanceApp

inductive ArchivedValue where
  | null
  | string (value : String)
  | strings (values : List String)
  | bool (value : Bool)
  deriving DecidableEq, Repr

abbrev KeyedArchive := List (String × ArchivedValue)

/-- `decodeObject(forKey:) as! String`; `none` is the trap of the cast. -/
def KeyedArchive.decodeString (archive : KeyedArchive) (key : String) : Option String :=
  match archive.lookup key with
  | some (.string value) => some value
  | _ => none

def KeyedArchive.decodeBool (archive : KeyedArchive) (key : String) : Bool :=
  match archive.lookup key with
  | some (.bool value) => value
  | _ => false

/-- An object of a store reads back from an archive what it wrote. -/
class ATCPersistable (T : Type) where
  diffIdentifier : T → String
  encode : T → KeyedArchive
  initCoder : KeyedArchive → Option T
  initCoder_encode : ∀ object, initCoder (encode object) = some object

export ATCPersistable (diffIdentifier)

attribute [simp] ATCPersistable.initCoder_encode

/-- `UserDefaults.standard`, with the archived arrays by key. -/
abbrev UserDefaults := String → Option (List KeyedArchive)

structure ATCDiskPersistenceStore where
  key : String

def sameIdentifier {T : Type} [CanonicalForm] [ATCPersistable T] (object obj : T) : Bool :=
  stringEq (diffIdentifier obj) (diffIdentifier object)

namespace ATCDiskPersistenceStore

variable {T : Type} [ATCPersistable T] (store : ATCDiskPersistenceStore) (defaults : UserDefaults)

def write (objects : List T) : UserDefaults :=
  Function.update defaults store.key (some (objects.map ATCPersistable.encode))

def retrieve (T : Type) [ATCPersistable T] : Option (List T) :=
  (defaults store.key).bind fun data => data.mapM ATCPersistable.initCoder

def append (object : T) : UserDefaults :=
  match store.retrieve defaults T with
  | some existingData => store.write defaults (existingData ++ [object])
  | none => store.write defaults [object]

variable [CanonicalForm]

def remove (object : T) : UserDefaults :=
  match store.retrieve defaults T with
  | some array =>
    let index := EraseLast.lastIndex (sameIdentifier object) array
    if index ≠ -1 then store.write defaults (array.eraseIdx index.toNat) else defaults
  | none => defaults

def contains (object : T) : Bool :=
  match store.retrieve defaults T with
  | some array => array.any (sameIdentifier object)
  | none => false

/-! ## The objects of a store -/

/-- The objects that are stored, none when the key has no value. -/
def objects (T : Type) [ATCPersistable T] : List T := (store.retrieve defaults T).getD []

omit [CanonicalForm] in
@[simp] theorem retrieve_write (xs : List T) :
    store.retrieve (store.write defaults xs) T = some xs := by
  have hdecode :
      (xs.map ATCPersistable.encode).mapM (ATCPersistable.initCoder (T := T)) = some xs := by
    induction xs with
    | nil => rfl
    | cons x xs ih => simp [ih]
  unfold retrieve write
  rw [Function.update_self, Option.bind_some, hdecode]

omit [CanonicalForm] in
@[simp] theorem objects_write (xs : List T) : store.objects (store.write defaults xs) T = xs := by
  simp [objects]

omit [CanonicalForm] in
@[simp] theorem objects_append (object : T) :
    store.objects (store.append defaults object) T = store.objects defaults T ++ [object] := by
  unfold append
  rcases hretrieve : store.retrieve defaults T with _ | existingData
  · simp [objects, hretrieve]
  · simp [objects, hretrieve]

@[simp] theorem objects_remove (object : T) :
    store.objects (store.remove defaults object) T =
      EraseLast.eraseLast (sameIdentifier object) (store.objects defaults T) := by
  unfold remove
  rcases hretrieve : store.retrieve defaults T with _ | array
  · simp [objects, hretrieve, EraseLast.eraseLast]
  · have hobjects : store.objects defaults T = array := by simp [objects, hretrieve]
    rw [hobjects, ← EraseLast.eraseIdx_lastIndex]
    simp only
    split
    · rw [objects_write]
    · exact hobjects

theorem contains_eq (object : T) :
    store.contains defaults object = (store.objects defaults T).any (sameIdentifier object) := by
  unfold contains objects
  rcases store.retrieve defaults T with _ | array <;> rfl

end ATCDiskPersistenceStore

end FinanceApp
