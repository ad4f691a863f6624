import Mathlib.Tactic.TypeStar

/-!
# Merging keyed data

Dictionaries as lists of entries, read by `List.lookup`. A merge overrides the keys that
it is given and keeps the others.
-/

namespace KeyedMerge

variable {κ β : Type*} [BEq κ] [LawfulBEq κ]

def merge (document data : List (κ × β)) : List (κ × β) :=
  data ++ document.filter fun entry => (data.lookup entry.1).isNone

theorem lookup_filter (p : κ → Bool) (document : List (κ × β)) (key : κ) :
    (document.filter fun entry => p entry.1).lookup key =
      if p key then document.lookup key else none := by
  induction document with
  | nil => simp
  | cons entry document ih =>
    obtain ⟨other, value⟩ := entry
    by_cases hkey : key = other
    · subst hkey
      by_cases hp : p key
      · simp [hp]
      · rw [List.filter_cons_of_neg (by simpa using hp), ih, if_neg hp, if_neg hp]
    · have hne : (key == other) = false := by simpa using hkey
      by_cases hp : p other
      · rw [List.filter_cons_of_pos (by simpa using hp), List.lookup_cons, List.lookup_cons, hne,
          ih]
      · rw [List.filter_cons_of_neg (by simpa using hp), ih, List.lookup_cons, hne]

@[simp] theorem lookup_merge (document data : List (κ × β)) (key : κ) :
    (merge document data).lookup key = (data.lookup key).or (document.lookup key) := by
  rw [merge, List.lookup_append, lookup_filter fun k => (data.lookup k).isNone]
  cases data.lookup key <;> simp

theorem lookup_foldl_merge (writes : List (List (κ × β))) (document : List (κ × β)) (key : κ) :
    (writes.foldl merge document).lookup key =
      (writes.reverse.findSome? fun data => data.lookup key).or (document.lookup key) := by
  induction writes generalizing document with
  | nil => simp
  | cons data writes ih =>
    rw [List.foldl_cons, ih, lookup_merge, List.reverse_cons, List.findSome?_append,
      Option.or_assoc]
    simp

end KeyedMerge
