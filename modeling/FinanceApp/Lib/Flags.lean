import Mathlib.Data.List.Nodup

/-!
# Flags kept in a word

A word stands for the flags whose bits are one. The flags are read from it in a fixed
order, whatever the order in which they were put there.
-/

/-- The flags in the order in which they are read. Each has a bit of its own. -/
structure Flags (w : Nat) (α : Type*) where
  all : List α
  bit : α → Nat
  bit_lt : ∀ f ∈ all, bit f < w
  bit_nodup : (all.map bit).Nodup

namespace Flags

variable {w : Nat} {α : Type*} (flags : Flags w α)

def mask (f : α) : BitVec w := BitVec.twoPow w (flags.bit f)

def has (x : BitVec w) (f : α) : Bool := x.getLsbD (flags.bit f)

def read (x : BitVec w) : List α := flags.all.filter (flags.has x)

/-! ## One flag -/

@[simp] theorem has_zero (f : α) : flags.has 0#w f = false := by simp [has]

@[simp] theorem has_or (x y : BitVec w) (f : α) :
    flags.has (x ||| y) f = (flags.has x f || flags.has y f) := by simp [has]

theorem and_mask_eq_mask {f : α} (hf : f ∈ flags.all) (x : BitVec w) :
    x &&& flags.mask f = flags.mask f ↔ flags.has x f = true := by
  rw [mask, has, BitVec.and_twoPow]
  constructor
  · intro h
    by_contra hnot
    rw [if_neg hnot] at h
    have hbit := congrArg (·.getLsbD (flags.bit f)) h
    simp [flags.bit_lt f hf] at hbit
  · intro h
    rw [if_pos h]

/-! ## The flags of a word -/

theorem all_nodup : flags.all.Nodup := flags.bit_nodup.of_map _

theorem mem_read {x : BitVec w} {f : α} :
    f ∈ flags.read x ↔ f ∈ flags.all ∧ flags.has x f = true := List.mem_filter

theorem read_sublist (x : BitVec w) : (flags.read x).Sublist flags.all := List.filter_sublist

theorem read_nodup (x : BitVec w) : (flags.read x).Nodup :=
  (flags.read_sublist x).nodup flags.all_nodup

theorem mem_read_or {x y : BitVec w} {f : α} :
    f ∈ flags.read (x ||| y) ↔ f ∈ flags.read x ∨ f ∈ flags.read y := by
  simp only [mem_read, has_or, Bool.or_eq_true]
  tauto

theorem mem_read_foldl_or {x : BitVec w} {ys : List (BitVec w)} {f : α} :
    f ∈ flags.read (ys.foldl (· ||| ·) x) ↔ ∃ y ∈ x :: ys, f ∈ flags.read y := by
  induction ys generalizing x with
  | nil => simp
  | cons y ys ih =>
    rw [List.foldl_cons, ih]
    simp only [List.mem_cons, exists_eq_or_imp, mem_read_or, or_assoc]

/-- The order of the reading is fixed by the flags that are read. -/
theorem read_eq_filter (x : BitVec w) {p : α → Bool}
    (h : ∀ f ∈ flags.all, f ∈ flags.read x ↔ p f = true) : flags.read x = flags.all.filter p := by
  apply List.filter_congr
  intro f hf
  have hiff := h f hf
  simp only [mem_read, hf, true_and] at hiff
  exact Bool.eq_iff_iff.mpr hiff

end Flags

/-! ## Words gathered by `|||` -/

theorem BitVec.getLsbD_foldl_or {w : Nat} (x : BitVec w) (ys : List (BitVec w)) (i : Nat) :
    (ys.foldl (· ||| ·) x).getLsbD i = (x :: ys).any (·.getLsbD i) := by
  induction ys generalizing x with
  | nil => simp
  | cons y ys ih =>
    rw [List.foldl_cons, ih]
    simp [Bool.or_assoc]

theorem BitVec.foldl_or_congr {w : Nat} {x x' : BitVec w} {ys ys' : List (BitVec w)}
    (h : ∀ y, y ∈ x :: ys ↔ y ∈ x' :: ys') : ys.foldl (· ||| ·) x = ys'.foldl (· ||| ·) x' := by
  apply BitVec.eq_of_getLsbD_eq
  intro i _
  rw [getLsbD_foldl_or, getLsbD_foldl_or, Bool.eq_iff_iff, List.any_eq_true, List.any_eq_true]
  simp only [h]
