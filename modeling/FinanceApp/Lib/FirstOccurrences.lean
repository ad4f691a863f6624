import Mathlib.Data.List.Induction
import Mathlib.Data.List.Pairwise

/-!
# First occurrences by a key

`firstOccurrences key l` keeps of each key the first element. A list that is grown one
element at a time, and only by elements whose key it lacks, computes it.
-/

namespace FirstOccurrences

variable {α κ : Type*} [DecidableEq κ] (key : α → κ)

def firstOccurrences (l : List α) : List α := l.eraseDupsBy fun a b => key a == key b

@[simp] theorem firstOccurrences_nil : firstOccurrences key ([] : List α) = [] := rfl

theorem firstOccurrences_cons (a : α) (l : List α) :
    firstOccurrences key (a :: l) =
      a :: firstOccurrences key (l.filter fun b => key b ≠ key a) := by
  unfold firstOccurrences
  rw [List.eraseDupsBy_cons]
  congr 3
  funext b
  simp

theorem firstOccurrences_concat (x : α) : ∀ l : List α,
    firstOccurrences key (l ++ [x]) =
      if key x ∈ l.map key then firstOccurrences key l else firstOccurrences key l ++ [x]
  | [] => by simp [firstOccurrences_cons]
  | a :: l => by
    rw [List.cons_append, firstOccurrences_cons, List.filter_append, firstOccurrences_cons]
    by_cases hx : key x = key a
    · -- `x` repeats the head: the filter drops it.
      simp [hx]
    · have hmem : key x ∈ (l.filter fun b => key b ≠ key a).map key ↔ key x ∈ l.map key := by
        simp only [List.mem_map, List.mem_filter]
        constructor
        · rintro ⟨b, ⟨hb, _⟩, he⟩; exact ⟨b, hb, he⟩
        · rintro ⟨b, hb, he⟩; exact ⟨b, ⟨hb, by simpa [he] using hx⟩, he⟩
      have hkeep : [x].filter (fun b => decide (key b ≠ key a)) = [x] := by simp [hx]
      rw [hkeep, firstOccurrences_concat x (l.filter fun b => key b ≠ key a)]
      simp only [hmem, List.map_cons, List.mem_cons, hx, false_or]
      split <;> simp
termination_by l => l.length
decreasing_by exact Nat.lt_succ_of_le (List.length_filter_le _ _)

theorem mem_keys_firstOccurrences (l : List α) (k : κ) :
    k ∈ (firstOccurrences key l).map key ↔ k ∈ l.map key := by
  induction l using List.reverseRecOn with
  | nil => simp
  | append_singleton l x ih =>
    rw [firstOccurrences_concat, List.map_append, List.mem_append, ← ih]
    split
    · rename_i hx
      refine ⟨Or.inl, fun h => h.elim id fun hk => ?_⟩
      obtain rfl : k = key x := by simpa using hk
      exact ih.mpr hx
    · simp

theorem pairwise_firstOccurrences (l : List α) :
    (firstOccurrences key l).Pairwise fun a b => key a ≠ key b := by
  induction l using List.reverseRecOn with
  | nil => simp
  | append_singleton l x ih =>
    rw [firstOccurrences_concat]
    split
    · exact ih
    · rename_i hx
      rw [List.pairwise_append]
      refine ⟨ih, List.pairwise_singleton _ _, ?_⟩
      intro a ha b hb
      obtain rfl := List.mem_singleton.mp hb
      rw [← mem_keys_firstOccurrences] at hx
      intro he
      exact hx (he ▸ List.mem_map_of_mem ha)

/-! ## Growing a list by the elements it lacks -/

/-- The elements of the second list that a growing list takes in, starting from `store`. -/
def fresh : List α → List α → List α
  | _, [] => []
  | store, x :: xs =>
    if key x ∈ store.map key then fresh store xs else x :: fresh (store ++ [x]) xs

@[simp] theorem fresh_nil (store : List α) : fresh key store [] = [] := rfl

theorem append_fresh (l xs : List α) :
    firstOccurrences key l ++ fresh key (firstOccurrences key l) xs =
      firstOccurrences key (l ++ xs) := by
  induction xs generalizing l with
  | nil => simp
  | cons x xs ih =>
    have hsplit : l ++ x :: xs = (l ++ [x]) ++ xs := by simp
    rw [hsplit, ← ih (l ++ [x]), firstOccurrences_concat, fresh]
    simp only [mem_keys_firstOccurrences]
    split <;> simp

end FirstOccurrences
