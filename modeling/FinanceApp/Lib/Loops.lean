import Mathlib.Data.List.Forall2
import Mathlib.Data.List.Induction

/-!
# Loops that may stop

A loop over a list makes a value of each entry, or stops at the first that gives none.
-/

namespace Loops

variable {α β : Type*} {f : α → Option β} {xs : List α} {ys : List β}

theorem mapM_eq_some : xs.mapM f = some ys ↔ List.Forall₂ (fun x y => f x = some y) xs ys := by
  induction xs generalizing ys with
  | nil => simp [eq_comm]
  | cons x xs ih =>
    simp only [List.mapM_cons, Option.bind_eq_bind, Option.bind_eq_some_iff, Option.pure_def,
      Option.some.injEq, List.forall₂_cons_left_iff, ih]
    constructor
    · rintro ⟨y, hy, ys', hys', rfl⟩
      exact ⟨y, ys', hy, hys', rfl⟩
    · rintro ⟨y, ys', hy, hys', rfl⟩
      exact ⟨y, hy, ys', hys', rfl⟩

theorem exists_mapM_eq_some (h : ∀ x ∈ xs, (f x).isSome) : ∃ ys, xs.mapM f = some ys := by
  induction xs with
  | nil => exact ⟨[], rfl⟩
  | cons x xs ih =>
    obtain ⟨y, hy⟩ := Option.isSome_iff_exists.mp (h x List.mem_cons_self)
    obtain ⟨ys, hys⟩ := ih fun x' hx' => h x' (List.mem_cons_of_mem _ hx')
    exact ⟨y :: ys, mapM_eq_some.mpr (.cons hy (mapM_eq_some.mp hys))⟩

theorem exists_of_mem {y : β} (h : xs.mapM f = some ys) (hy : y ∈ ys) :
    ∃ x ∈ xs, f x = some y := by
  have hall := mapM_eq_some.mp h
  clear h
  induction hall with
  | nil => simp at hy
  | cons hx _ ih =>
    rcases List.mem_cons.mp hy with rfl | hy
    · exact ⟨_, List.mem_cons_self, hx⟩
    · obtain ⟨x', hx', hfx'⟩ := ih hy
      exact ⟨x', List.mem_cons_of_mem _ hx', hfx'⟩

theorem exists_eq_some {x : α} (h : xs.mapM f = some ys) (hx : x ∈ xs) : ∃ y, f x = some y := by
  have hall := mapM_eq_some.mp h
  clear h
  induction hall with
  | nil => simp at hx
  | cons hy _ ih =>
    rcases List.mem_cons.mp hx with rfl | hx
    · exact ⟨_, hy⟩
    · exact ih hx

theorem forall_mem {P : β → Prop} (h : xs.mapM f = some ys) :
    (∀ y ∈ ys, P y) ↔ ∀ x ∈ xs, ∀ y, f x = some y → P y := by
  have hall := mapM_eq_some.mp h
  clear h
  induction hall with
  | nil => simp
  | cons hx _ ih => simp only [List.forall_mem_cons, ih, hx, Option.some.injEq, forall_eq']

theorem map_eq {g : β → α} (h : xs.mapM f = some ys) (hg : ∀ x y, f x = some y → g y = x) :
    ys.map g = xs := by
  have hall := mapM_eq_some.mp h
  clear h
  induction hall with
  | nil => rfl
  | cons hx _ ih => rw [List.map_cons, hg _ _ hx, ih]

theorem eq_map {g : α → β} (h : xs.mapM f = some ys) (hg : ∀ x y, f x = some y → y = g x) :
    ys = xs.map g := by
  have hall := mapM_eq_some.mp h
  clear h
  induction hall with
  | nil => rfl
  | cons hx _ ih => rw [List.map_cons, hg _ _ hx, ih]

theorem forall₂_filterMap_range {g : ℕ → Option α} {R : α → β → Prop}
    (h : ∀ i y, ys[i]? = some y → ∃ x, g i = some x ∧ R x y) :
    List.Forall₂ R ((List.range ys.length).filterMap g) ys := by
  induction ys using List.reverseRecOn with
  | nil => exact .nil
  | append_singleton ys y ih =>
    obtain ⟨x, hx, hxy⟩ := h ys.length y (by simp)
    rw [List.length_append, List.length_singleton, List.range_succ, List.filterMap_append]
    refine List.rel_append (ih fun i y hy => h i y ?_) ?_
    · rw [List.getElem?_append_left (List.getElem?_eq_some_iff.mp hy).1, hy]
    · simpa [hx] using hxy

/-! ## Loops with an accumulator -/

theorem foldl_iff {σ : Type*} {step : σ → α → σ} {P : σ → Prop} {Q : α → Prop} {s : σ}
    (hstep : ∀ s a, P (step s a) ↔ P s ∧ Q a) : P (xs.foldl step s) ↔ P s ∧ ∀ a ∈ xs, Q a := by
  induction xs generalizing s with
  | nil => simp
  | cons x xs ih => rw [List.foldl_cons, ih, hstep, List.forall_mem_cons, and_assoc]

theorem foldlM_concat_eq_some {σ : Type*} {step : σ → α → Option σ} {s s' : σ} {x : α} :
    (xs ++ [x]).foldlM step s = some s' ↔
      ∃ mid, xs.foldlM step s = some mid ∧ step mid x = some s' := by
  rw [List.foldlM_append, Option.bind_eq_bind, Option.bind_eq_some_iff]
  simp

theorem foldlM_invariant {σ : Type*} {step : σ → α → Option σ} {I : σ → Prop} {s s' : σ}
    (hstep : ∀ {s a s'}, I s → step s a = some s' → I s') (hs : I s)
    (h : xs.foldlM step s = some s') : I s' := by
  induction xs generalizing s with
  | nil =>
    cases h
    exact hs
  | cons x xs ih =>
    obtain ⟨next, hx, hrest⟩ := Option.bind_eq_some_iff.mp h
    exact ih (hstep hs hx) hrest

end Loops
