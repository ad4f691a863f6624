import FinanceApp.Lib.KeyedMerge
import FinanceApp.Models
import Mathlib.Logic.Function.Basic

/-!
# The documents of the users collection

What Firestore keeps about a user. All writes of the app are `setData` with
`merge: true`.
-/

namespace FinanceApp

/-- `as? String`. -/
def JSON.asString : JSON → Option String
  | .string value => some value
  | _ => none

/-- `as? [String]`. -/
def JSON.asStrings : JSON → Option (List String)
  | .array items => items.mapM JSON.asString
  | _ => none

@[simp] theorem JSON.asStrings_array (values : List String) :
    (JSON.array (values.map .string)).asStrings = some values := by
  simp only [asStrings]
  induction values with
  | nil => rfl
  | cons value values ih => simp [asString, ih]

/-- By document id, which is the uid of the user. -/
abbrev UsersCollection := String → JSONDict

def UsersCollection.setData (users : UsersCollection) (uid : String) (dict : JSONDict) :
    UsersCollection :=
  Function.update users uid (KeyedMerge.merge (users uid) dict)

theorem UsersCollection.lookup_setData (users : UsersCollection) (uid other : String)
    (dict : JSONDict) (key : String) :
    (users.setData uid dict other).lookup key =
      if other = uid then (dict.lookup key).or ((users other).lookup key)
      else (users other).lookup key := by
  rw [setData, Function.update_apply]
  split
  · next h => rw [KeyedMerge.lookup_merge, h]
  · rfl

end FinanceApp
