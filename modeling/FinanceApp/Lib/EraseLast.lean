import Mathlib.Data.List.Basic

/-!
# Erasing the last match of a list

The scan from the front that remembers the index of the latest match, and the list
without the element it finds.
-/

namespace EraseLast

variable {α : Type*} (p : α → Bool)

def lastIndex (l : List α) : Int :=
  l.zipIdx.foldl (fun index x => if p x.1 then x.2 else index) (-1)

def eraseLast (l : List α) : List α := (l.reverse.eraseP p).reverse

variable {p}

/-! ## The scan -/

theorem foldl_zipIdx_of_forall_not {l : List α} (h : ∀ x ∈ l, p x = false) (start : Nat)
    (index : Int) :
    (l.zipIdx start).foldl (fun (index : Int) x => if p x.1 then (x.2 : Int) else index) index =
      index := by
  induction l generalizing start with
  | nil => rfl
  | cons x l ih =>
    rw [List.zipIdx_cons, List.foldl_cons, if_neg (by simp [h x])]
    exact ih (fun y hy => h y (List.mem_cons_of_mem _ hy)) _

theorem lastIndex_of_forall_not {l : List α} (h : ∀ x ∈ l, p x = false) : lastIndex p l = -1 :=
  foldl_zipIdx_of_forall_not h 0 (-1)

theorem lastIndex_append_cons {a b : List α} {x : α} (hx : p x = true)
    (hb : ∀ y ∈ b, p y = false) : lastIndex p (a ++ x :: b) = a.length := by
  unfold lastIndex
  rw [List.zipIdx_append, List.foldl_append, List.zipIdx_cons, List.foldl_cons, if_pos hx,
    foldl_zipIdx_of_forall_not hb]
  simp

/-! ## The list without it -/

theorem eraseLast_of_forall_not {l : List α} (h : ∀ x ∈ l, p x = false) : eraseLast p l = l := by
  unfold eraseLast
  rw [List.eraseP_of_forall_not (by simpa using h), List.reverse_reverse]

theorem eraseLast_append_cons {a b : List α} {x : α} (hx : p x = true)
    (hb : ∀ y ∈ b, p y = false) : eraseLast p (a ++ x :: b) = a ++ b := by
  unfold eraseLast
  have hreverse : (a ++ x :: b).reverse = b.reverse ++ x :: a.reverse := by simp
  rw [hreverse, List.eraseP_append_right _ (by simpa using hb), List.eraseP_cons_of_pos hx]
  simp

theorem forall_not_or_exists_last (p : α → Bool) (l : List α) :
    (∀ x ∈ l, p x = false) ∨
      ∃ a x b, l = a ++ x :: b ∧ p x = true ∧ ∀ y ∈ b, p y = false := by
  induction l with
  | nil => simp
  | cons y l ih =>
    rcases ih with hnot | ⟨a, x, b, rfl, hx, hb⟩
    · rcases Bool.eq_false_or_eq_true (p y) with hy | hy
      · exact .inr ⟨[], y, l, rfl, hy, hnot⟩
      · exact .inl (List.forall_mem_cons.mpr ⟨hy, hnot⟩)
    · exact .inr ⟨y :: a, x, b, rfl, hx, hb⟩

theorem eraseIdx_lastIndex (p : α → Bool) (l : List α) :
    (if lastIndex p l ≠ -1 then l.eraseIdx (lastIndex p l).toNat else l) = eraseLast p l := by
  rcases forall_not_or_exists_last p l with hnot | ⟨a, x, b, rfl, hx, hb⟩
  · rw [lastIndex_of_forall_not hnot, eraseLast_of_forall_not hnot]
    simp
  · rw [lastIndex_append_cons hx hb, eraseLast_append_cons hx hb, if_pos (by omega),
      Int.toNat_natCast, List.eraseIdx_append_of_length_le (Nat.le_refl _)]
    simp

theorem eraseLast_sublist (p : α → Bool) (l : List α) : (eraseLast p l).Sublist l := by
  unfold eraseLast
  rw [← List.reverse_reverse l, List.reverse_sublist, List.reverse_reverse]
  exact List.eraseP_sublist

theorem countP_eraseLast (p : α → Bool) (l : List α) :
    (eraseLast p l).countP p = l.countP p - 1 := by
  rcases forall_not_or_exists_last p l with hnot | ⟨a, x, b, rfl, hx, hb⟩
  · rw [eraseLast_of_forall_not hnot, List.countP_eq_zero.mpr (by simpa using hnot)]
  · rw [eraseLast_append_cons hx hb]
    simp [hx]

theorem filter_eraseLast {q : α → Bool} (h : ∀ x, q x = true → p x = false) (l : List α) :
    (eraseLast p l).filter q = l.filter q := by
  rcases forall_not_or_exists_last p l with hnot | ⟨a, x, b, rfl, hx, hb⟩
  · rw [eraseLast_of_forall_not hnot]
  · have hq : q x = false := by
      by_contra hne
      have := h x (by simpa using hne)
      simp [hx] at this
    rw [eraseLast_append_cons hx hb]
    simp [hq]

end EraseLast
