import Mathlib.Algebra.BigOperators.Group.List.Basic
import Mathlib.Algebra.Order.BigOperators.Group.List
import Mathlib.Algebra.Order.Field.Basic
import Mathlib.Tactic.Linarith
import Mathlib.Tactic.Ring

/-!
# Sums that are rounded

Every operation rounds its result. What is known of the rounding is how far it moves a number
of some range, so the error of a sum grows with the number of its terms.
-/

namespace RoundedSums

variable {K : Type*} [Field K] [LinearOrder K] [IsStrictOrderedRing K]

/-- Up to `M` the rounding moves a number by at most `ε`, and a natural number not at all. -/
structure Rounds (fl : K → K) (M ε : K) : Prop where
  nonneg : 0 ≤ ε
  near : ∀ x, |x| ≤ M → |fl x - x| ≤ ε
  natCast : ∀ n : ℕ, (n : K) ≤ M → fl n = n

theorem rounds_id (M : K) : Rounds id M 0 where
  nonneg := le_rfl
  near x _ := by rw [id, sub_self, abs_zero]
  natCast _ _ := rfl

/-- The terms are added one after the other. -/
def accumulate (fl : K → K) (a : K) (terms : List K) : K :=
  terms.foldl (fun sum term => fl (sum + term)) a

section Terms

omit [LinearOrder K] [IsStrictOrderedRing K]

@[simp] theorem accumulate_nil (fl : K → K) (a : K) : accumulate fl a [] = a := rfl

@[simp] theorem accumulate_cons (fl : K → K) (a term : K) (terms : List K) :
    accumulate fl a (term :: terms) = accumulate fl (fl (a + term)) terms := rfl

theorem accumulate_append (fl : K → K) (a : K) (terms terms' : List K) :
    accumulate fl a (terms ++ terms') = accumulate fl (accumulate fl a terms) terms' :=
  List.foldl_append

end Terms

namespace Rounds

variable {fl : K → K} {M ε a b x y d e : K}

theorem near_of (h : Rounds fl M ε) (ha : |a - x| ≤ e) (hM : |x| + e ≤ M) :
    |fl a - x| ≤ e + ε := by
  have hsize : |a| ≤ M := by
    calc |a| = |x + (a - x)| := by rw [add_sub_cancel]
      _ ≤ |x| + |a - x| := abs_add_le _ _
      _ ≤ M := by linarith
  calc |fl a - x| ≤ |fl a - a| + |a - x| := abs_sub_le _ _ _
    _ ≤ ε + e := add_le_add (h.near a hsize) ha
    _ = e + ε := add_comm _ _

theorem add_near (h : Rounds fl M ε) (hx : 0 ≤ x) (hy : 0 ≤ y) (ha : |a - x| ≤ e)
    (hb : |b - y| ≤ d) (hM : x + y + e + d ≤ M) : |fl (a + b) - (x + y)| ≤ e + d + ε := by
  refine h.near_of ?_ ?_
  · calc |a + b - (x + y)| = |(a - x) + (b - y)| := by rw [add_sub_add_comm]
      _ ≤ |a - x| + |b - y| := abs_add_le _ _
      _ ≤ e + d := add_le_add ha hb
  · rw [abs_of_nonneg (add_nonneg hx hy)]
    linarith

/-- Each term costs its own error and that of one rounding. -/
theorem accumulate_near (h : Rounds fl M ε) (hd : 0 ≤ d) {terms exact : List K}
    (hexact : ∀ y ∈ exact, 0 ≤ y)
    (hterms : List.Forall₂ (fun term y => |term - y| ≤ d) terms exact) (hx : 0 ≤ x)
    (ha : |a - x| ≤ e) (hM : x + exact.sum + e + terms.length * (d + ε) ≤ M) :
    |accumulate fl a terms - (x + exact.sum)| ≤ e + terms.length * (d + ε) := by
  induction hterms generalizing a x e with
  | nil => simpa [accumulate] using ha
  | @cons term y terms exact hterm hterms ih =>
    obtain ⟨hy, hexact⟩ := List.forall_mem_cons.mp hexact
    have hrest : 0 ≤ exact.sum := List.sum_nonneg hexact
    have hcost : 0 ≤ (terms.length : K) * (d + ε) :=
      mul_nonneg (Nat.cast_nonneg _) (add_nonneg hd h.nonneg)
    rw [List.sum_cons, List.length_cons] at hM ⊢
    push_cast at hM ⊢
    have hfirst : |fl (a + term) - (x + y)| ≤ e + d + ε :=
      h.add_near hx hy ha hterm (by linarith [h.nonneg])
    have hsum := ih hexact (add_nonneg hx hy) hfirst (by linarith)
    rw [add_assoc] at hsum
    exact hsum.trans (by linarith)

/-- What a sum fell short of its known total is added to it afterwards. -/
theorem corrected_near (h : Rounds fl M ε) {start last total diff total' : K} (hx : 0 ≤ x)
    (htotal : 0 ≤ total) (hstart : |start - x| ≤ e) (hlast : |last - (x + total)| ≤ d)
    (hknown : |total' - total| ≤ a) (hdiff : diff = fl (total' - fl (last - start)))
    (hM : total + d + e + ε ≤ M) (hM' : a + d + e + ε ≤ M) (hM'' : x + total + e + a + 2 * ε ≤ M) :
    |fl (last + diff) - (x + total)| ≤ e + a + 3 * ε ∧
      (diff = 0 → |last - (x + total)| ≤ e + a + 3 * ε) := by
  have hε := h.nonneg
  have hinner : |last - start - total| ≤ d + e := by
    calc |last - start - total| = |(last - (x + total)) - (start - x)| := by ring_nf
      _ ≤ |last - (x + total)| + |start - x| := abs_sub _ _
      _ ≤ d + e := add_le_add hlast hstart
  have hround : |fl (last - start) - (last - start)| ≤ ε := by
    refine (h.near_of (x := last - start) (e := 0) (by simp) ?_).trans (zero_add ε).le
    rw [add_zero, abs_le]
    rw [abs_le] at hinner
    constructor <;> linarith
  have hshort : |diff - (total' - fl (last - start))| ≤ ε := by
    rw [hdiff]
    refine (h.near_of (x := total' - fl (last - start)) (e := 0) (by simp) ?_).trans
      (zero_add ε).le
    rw [add_zero, abs_le]
    rw [abs_le] at hinner hround hknown
    constructor <;> linarith
  -- What was added up cancels, so that the error of the terms is gone.
  have hcorrected : |last + diff - (x + total)| ≤ e + a + 2 * ε := by
    rw [abs_le] at *
    constructor <;> linarith
  constructor
  · refine (h.near_of hcorrected ?_).trans (by linarith)
    rw [abs_of_nonneg (add_nonneg hx htotal)]
    linarith
  · intro hzero
    rw [hzero, add_zero] at hcorrected
    linarith

end Rounds

end RoundedSums
