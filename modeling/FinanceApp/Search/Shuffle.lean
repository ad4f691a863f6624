import FinanceApp.Lib.FisherYates

/-!
# The order of local search results

A local search shows its items in a random order. `shuffle` gives each order for exactly
one sequence of draws, so it is as fair as its draws.
-/

open FisherYates

namespace FinanceApp

variable {α : Type*}

/-- What `arc4random_uniform` returns for the bounds of a loop from `n` down to 2. -/
structure Draws (n : Nat) where
  values : List Nat
  below : Below values n

/-- `none` where `swapAt` traps. -/
def shuffle (l : List α) (draws : Draws l.length) : Option (List α) :=
  let c := l.length
  if c > 1 then
    (((List.range c).zip (bounds c)).zip draws.values).foldlM
      (fun l ((firstUnshuffled, _), d) => swapAt l firstUnshuffled (firstUnshuffled + d)) l
  else some l

theorem foldlM_swapAt {draws : List Nat} {n : Nat} (before : List α) {l : List α}
    (hlength : l.length = n) (h : Below draws n) :
    (((List.range' before.length n).zip (bounds n)).zip draws).foldlM
        (fun l ((firstUnshuffled, _), d) => swapAt l firstUnshuffled (firstUnshuffled + d))
        (before ++ l) =
      some (before ++ settle l draws) := by
  induction draws generalizing n before l with
  | nil =>
    rw [List.zip_nil_right]
    rfl
  | cons d draws ih =>
    rcases h.cases with ⟨_, hnil⟩ | ⟨m, d', rest', rfl, hdraws, hd, hrest⟩
    · cases hnil
    obtain ⟨rfl, rfl⟩ := List.cons.inj hdraws
    obtain ⟨x, rest, _, hswap, hperm, hsettle⟩ := settle_cons (l := l) (d := d) (by omega)
    have hcons : rest.length + 1 = l.length := hperm.length_eq
    have hfirst : swapAt (before ++ l) before.length (before.length + d) =
        some ((before ++ [x]) ++ rest) := by
      have happend := swapAt_append before l 0 d
      rw [hswap] at happend
      simpa using happend
    have hnext := ih (n := m + 1) (before ++ [x]) (l := rest) (by omega) hrest
    rw [List.length_append, List.length_singleton] at hnext
    rw [List.range'_succ, bounds, List.zip_cons_cons, List.zip_cons_cons, List.foldlM_cons]
    show (swapAt (before ++ l) before.length (before.length + d) >>= _) = _
    rw [hfirst, hsettle]
    simpa using hnext

theorem shuffle_eq (l : List α) (draws : Draws l.length) :
    shuffle l draws = some (settle l draws.values) := by
  simp only [shuffle]
  split
  · rw [List.range_eq_range']
    exact foldlM_swapAt [] rfl draws.below
  · have hnone := (below_short (by omega)).mp draws.below
    rw [hnone]
    rfl

/-- **A shuffle loses and doubles nothing, and each order of distinct elements comes from
exactly one sequence of draws.** -/
theorem shuffle_bijective (l : List α) (hdistinct : l.Nodup) :
    (∀ draws, ∃ result, shuffle l draws = some result ∧ result.Perm l) ∧
      ∀ result, result.Perm l → ∃! draws, shuffle l draws = some result := by
  constructor
  · intro draws
    exact ⟨_, shuffle_eq l draws, settle_perm draws.below⟩
  · intro result hresult
    obtain ⟨values, hbelow, hvalues⟩ := settle_surjective hresult
    refine ⟨⟨values, hbelow⟩, ?_, ?_⟩
    · rw [← hvalues]
      exact shuffle_eq l _
    · rintro ⟨values', hbelow'⟩ h
      obtain rfl : values' = values := by
        rw [shuffle_eq] at h
        exact settle_injective hdistinct hbelow' hbelow ((Option.some.inj h).trans hvalues.symm)
      rfl

theorem shuffle_bijective_three :
    (∀ draws, ∃ result, shuffle ["a", "b", "c"] draws = some result ∧
      result.Perm ["a", "b", "c"]) ∧
    ∀ result, result.Perm ["a", "b", "c"] →
      ∃! draws, shuffle ["a", "b", "c"] draws = some result :=
  shuffle_bijective ["a", "b", "c"] (by decide)

end FinanceApp
