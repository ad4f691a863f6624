import Mathlib.Data.List.Perm.Basic
import Mathlib.Data.List.Nodup
import Mathlib.Logic.ExistsUnique

/-!
# Shuffling by swaps

A shuffle swaps the first entry that is not shuffled yet with one of those from there on,
and goes on with the next. The draws say how far ahead each swap goes. Different draws
give different orders, and all orders come up.
-/

namespace FisherYates

variable {α : Type*}

/-- `none` where an index is out of range. -/
def swapAt (l : List α) (i j : Nat) : Option (List α) :=
  match l[i]?, l[j]? with
  | some x, some y => some ((l.set i y).set j x)
  | _, _ => none

/-- From `n` down to 2. -/
def bounds : Nat → List Nat
  | 0 => []
  | 1 => []
  | n + 2 => (n + 2) :: bounds (n + 1)

/-- One draw for each bound, and below it. -/
def Below (draws : List Nat) (n : Nat) : Prop := List.Forall₂ (· < ·) draws (bounds n)

/-- What the swaps leave of a list: the drawn entry in front, then the same for the rest. -/
def settle : List α → List Nat → List α
  | l, [] => l
  | l, d :: draws =>
    match swapAt l 0 d with
    | some (x :: rest) => x :: settle rest draws
    | _ => l

/-! ## One swap -/

theorem swapAt_append (before l : List α) (i j : Nat) :
    swapAt (before ++ l) (before.length + i) (before.length + j) =
      (swapAt l i j).map (before ++ ·) := by
  unfold swapAt
  simp only [List.getElem?_append_right (Nat.le_add_right _ _), Nat.add_sub_cancel_left]
  cases l[i]? with
  | none => rfl
  | some x =>
    cases l[j]? with
    | none => rfl
    | some y => simp

theorem swapAt_zero {x : α} {rest : List α} {d : Nat} (hd : d < rest.length + 1) :
    ∃ rest', swapAt (x :: rest) 0 d = some ((x :: rest)[d] :: rest') ∧
      ((x :: rest)[d] :: rest').Perm (x :: rest) := by
  have hd' : d < (x :: rest).length := hd
  have h0 : 0 < (x :: rest).length := Nat.zero_lt_succ _
  have hperm := List.set_set_perm h0 hd'
  unfold swapAt
  rw [List.getElem?_eq_getElem hd', List.getElem?_cons_zero]
  cases d with
  | zero => exact ⟨rest, rfl, List.Perm.refl _⟩
  | succ d => exact ⟨rest.set d x, rfl, hperm⟩

/-! ## All swaps -/

theorem below_cons {d n : Nat} {draws : List Nat} :
    Below (d :: draws) (n + 2) ↔ d < n + 2 ∧ Below draws (n + 1) := List.forall₂_cons

theorem below_short {n : Nat} (hn : n < 2) {draws : List Nat} : Below draws n ↔ draws = [] := by
  have hbounds : bounds n = [] := by
    rcases n with _ | _ | n
    · rfl
    · rfl
    · omega
  unfold Below
  rw [hbounds, List.forall₂_nil_right_iff]

theorem Below.cases {draws : List Nat} {n : Nat} (h : Below draws n) :
    (n < 2 ∧ draws = []) ∨
      ∃ m d rest, n = m + 2 ∧ draws = d :: rest ∧ d < m + 2 ∧ Below rest (m + 1) := by
  rcases n with _ | _ | n
  · exact .inl ⟨by omega, (below_short (by omega)).mp h⟩
  · exact .inl ⟨by omega, (below_short (by omega)).mp h⟩
  · cases draws with
    | nil => cases h
    | cons d rest => exact .inr ⟨n, d, rest, rfl, rfl, below_cons.mp h⟩

theorem settle_cons {l : List α} {d : Nat} (hd : d < l.length) :
    ∃ x rest, l[d]? = some x ∧ swapAt l 0 d = some (x :: rest) ∧ (x :: rest).Perm l ∧
      ∀ draws, settle l (d :: draws) = x :: settle rest draws := by
  -- A draw decides which entry comes first, and what is left for the next ones.
  cases l with
  | nil => exact absurd hd (Nat.not_lt_zero _)
  | cons y l =>
    obtain ⟨rest, hswap, hperm⟩ := swapAt_zero (x := y) hd
    refine ⟨(y :: l)[d], rest, List.getElem?_eq_getElem hd, hswap, hperm, ?_⟩
    intro draws
    rw [settle, hswap]

theorem settle_perm {draws : List Nat} {l : List α} (h : Below draws l.length) :
    (settle l draws).Perm l := by
  induction draws generalizing l with
  | nil => exact List.Perm.refl l
  | cons d draws ih =>
    rcases h.cases with ⟨_, hnil⟩ | ⟨m, d', rest', hlength, hdraws, hd, hrest⟩
    · cases hnil
    · obtain ⟨rfl, rfl⟩ := List.cons.inj hdraws
      obtain ⟨x, rest, _, _, hperm, hsettle⟩ := settle_cons (l := l) (d := d) (by omega)
      have hcons : rest.length + 1 = l.length := hperm.length_eq
      have hnext : rest.length = m + 1 := by omega
      rw [hsettle]
      exact ((ih (hnext ▸ hrest)).cons x).trans hperm

theorem settle_injective {draws draws' : List Nat} {l : List α} (hdistinct : l.Nodup)
    (h : Below draws l.length) (h' : Below draws' l.length)
    (heq : settle l draws = settle l draws') : draws = draws' := by
  induction draws generalizing l draws' with
  | nil =>
    rcases h.cases with ⟨hshort, _⟩ | ⟨_, _, _, _, hdraws, _⟩
    · exact ((below_short hshort).mp h').symm
    · cases hdraws
  | cons d draws ih =>
    rcases h.cases with ⟨_, hnil⟩ | ⟨m, _, _, hlength, hdraws, hd, hrest⟩
    · cases hnil
    obtain ⟨rfl, rfl⟩ := List.cons.inj hdraws
    rcases h'.cases with ⟨hshort, _⟩ | ⟨m', d', rest', hlength', rfl, hd', hrest'⟩
    · omega
    obtain rfl : m' = m := by omega
    obtain ⟨x, rest, hx, _, hperm, hsettle⟩ := settle_cons (l := l) (d := d) (by omega)
    obtain ⟨x', _, hx', _, _, hsettle'⟩ := settle_cons (l := l) (d := d') (by omega)
    -- The entry in front tells which one was drawn.
    obtain rfl : d = d' := by
      rw [hsettle, hsettle'] at heq
      rw [(List.cons.inj heq).1, ← hx'] at hx
      exact (List.getElem?_inj (by omega) hdistinct).mp hx
    have hcons : rest.length + 1 = l.length := hperm.length_eq
    have hnext : rest.length = m' + 1 := by omega
    have hdistinct' : rest.Nodup := (hperm.nodup_iff.mpr hdistinct).of_cons
    rw [hsettle, hsettle] at heq
    rw [ih hdistinct' (hnext ▸ hrest) (hnext ▸ hrest') (List.cons.inj heq).2]

theorem settle_surjective {l result : List α} (h : result.Perm l) :
    ∃ draws, Below draws l.length ∧ settle l draws = result := by
  induction result generalizing l with
  | nil =>
    obtain rfl := h.nil_eq
    exact ⟨[], (below_short (by simp)).mpr rfl, rfl⟩
  | cons x result ih =>
    cases result with
    | nil =>
      obtain rfl := List.perm_singleton.mp h.symm
      exact ⟨[], (below_short (by simp)).mpr rfl, rfl⟩
    | cons y result =>
      obtain ⟨d, hd, hx⟩ := List.getElem_of_mem (h.subset (List.mem_cons_self ..))
      obtain ⟨x', rest, hx', _, hperm, hsettle⟩ := settle_cons hd
      obtain rfl : x' = x := by
        rw [List.getElem?_eq_getElem hd, hx] at hx'
        exact (Option.some.inj hx').symm
      have hlength : l.length = result.length + 2 := h.length_eq.symm
      have hcons : rest.length + 1 = l.length := hperm.length_eq
      have hnext : rest.length = result.length + 1 := by omega
      obtain ⟨draws, hbelow, hdraws⟩ := ih ((h.trans hperm.symm).cons_inv)
      refine ⟨d :: draws, ?_, by rw [hsettle, hdraws]⟩
      rw [hlength] at hd ⊢
      exact below_cons.mpr ⟨hd, hnext ▸ hbelow⟩

end FisherYates
