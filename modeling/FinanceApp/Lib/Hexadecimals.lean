import Mathlib.Algebra.Order.Ring.Nat
import Mathlib.Data.List.Induction
import Mathlib.Data.List.TakeWhile
import Mathlib.Tactic.Ring

/-!
# Hexadecimals as texts

Digits are read in both cases and written in lower case, with zeros in front up to a width.
-/

namespace Hexadecimals

def characters : List Char := "0123456789abcdefABCDEF".toList

def isDigit (c : Char) : Bool := characters.contains c

/-- The capitals are six places behind the other letters. -/
def digit (c : Char) : Nat :=
  if characters.idxOf c < 16 then characters.idxOf c else characters.idxOf c - 6

def lower (c : Char) : Char := (digit c).digitChar

def read (digits : List Char) : Nat := digits.foldl (fun n c => 16 * n + digit c) 0

/-- The last digits of a number. -/
def write : Nat → Nat → List Char
  | 0, _ => []
  | width + 1, n => write width (n / 16) ++ [(n % 16).digitChar]

/-! ## Digits -/

theorem mem_characters {c : Char} (h : isDigit c = true) : c ∈ characters := by
  simpa [isDigit] using h

theorem digit_lt {c : Char} (h : isDigit c = true) : digit c < 16 := by
  have hall : characters.all fun c => digit c < 16 := by decide
  exact of_decide_eq_true (List.all_eq_true.mp hall c (mem_characters h))

theorem digit_eq_zero {c : Char} (h : isDigit c = true) : digit c = 0 ↔ c = '0' := by
  have hall : characters.all fun c => digit c = 0 ↔ c = '0' := by decide
  exact of_decide_eq_true (List.all_eq_true.mp hall c (mem_characters h))

theorem digit_digitChar : ∀ n < 16, digit n.digitChar = n := by decide

theorem isDigit_digitChar : ∀ n < 16, isDigit n.digitChar = true := by decide

/-! ## Reading -/

@[simp] theorem read_nil : read [] = 0 := rfl

theorem read_append (xs ys : List Char) : read (xs ++ ys) = read xs * 16 ^ ys.length + read ys := by
  induction ys using List.reverseRecOn with
  | nil => simp
  | append_singleton ys c ih =>
    have hlast : ∀ zs, read (zs ++ [c]) = 16 * read zs + digit c := by
      intro zs
      rw [read, List.foldl_append]
      rfl
    rw [← List.append_assoc, hlast, hlast, ih, List.length_append, pow_add]
    simp only [List.length_singleton, pow_one]
    ring

theorem read_singleton (c : Char) : read [c] = digit c := by
  rw [read, List.foldl_cons, List.foldl_nil, mul_zero, zero_add]

theorem read_cons (c : Char) (cs : List Char) :
    read (c :: cs) = digit c * 16 ^ cs.length + read cs := by
  have happend := read_append [c] cs
  rwa [read_singleton] at happend

theorem read_lt {digits : List Char} (h : ∀ c ∈ digits, isDigit c = true) :
    read digits < 16 ^ digits.length := by
  induction digits with
  | nil => decide
  | cons c cs ih =>
    obtain ⟨hc, hcs⟩ := List.forall_mem_cons.mp h
    have hdigit : digit c + 1 ≤ 16 := digit_lt hc
    calc read (c :: cs) = digit c * 16 ^ cs.length + read cs := read_cons c cs
      _ < (digit c + 1) * 16 ^ cs.length := by
        rw [add_mul, one_mul]
        exact Nat.add_lt_add_left (ih hcs) _
      _ ≤ 16 * 16 ^ cs.length := Nat.mul_le_mul_right _ hdigit
      _ = 16 ^ (c :: cs).length := (pow_succ' 16 cs.length).symm

theorem read_dropWhile (digits : List Char) :
    read (digits.dropWhile (· = '0')) = read digits := by
  induction digits with
  | nil => rfl
  | cons c cs ih =>
    by_cases hc : c = '0'
    · subst hc
      rw [List.dropWhile_cons_of_pos (by simp), ih, read_cons, show digit '0' = 0 from rfl]
      simp
    · rw [List.dropWhile_cons_of_neg (by simpa using hc)]

theorem read_lt_iff {digits : List Char} (h : ∀ c ∈ digits, isDigit c = true) (width : Nat) :
    read digits < 16 ^ width ↔ (digits.dropWhile (· = '0')).length ≤ width := by
  have hdrop : ∀ c ∈ digits.dropWhile (· = '0'), isDigit c = true :=
    fun c hc => h c (List.dropWhile_subset _ hc)
  rw [← read_dropWhile]
  constructor
  · intro hlt
    cases hdigits : digits.dropWhile (· = '0') with
    | nil => exact Nat.zero_le _
    | cons c cs =>
      rw [hdigits] at hlt hdrop
      have hc : c ≠ '0' := by
        have hhead := List.head?_dropWhile_not (fun c : Char => decide (c = '0')) digits
        rw [hdigits] at hhead
        simpa using hhead
      have hpos : 1 ≤ digit c := Nat.one_le_iff_ne_zero.mpr fun hzero =>
        hc ((digit_eq_zero (hdrop c List.mem_cons_self)).mp hzero)
      rw [read_cons] at hlt
      have hpow : 16 ^ cs.length < 16 ^ width :=
        lt_of_le_of_lt ((Nat.le_mul_of_pos_left _ hpos).trans (Nat.le_add_right _ _)) hlt
      exact (Nat.pow_lt_pow_iff_right (by decide)).mp hpow
  · intro hle
    exact (read_lt hdrop).trans_le (Nat.pow_le_pow_right (by decide) hle)

/-! ## Writing -/

@[simp] theorem length_write (width n : Nat) : (write width n).length = width := by
  induction width generalizing n with
  | zero => rfl
  | succ width ih => rw [write, List.length_append, ih, List.length_singleton]

theorem isDigit_write {width n : Nat} : ∀ c ∈ write width n, isDigit c = true := by
  induction width generalizing n with
  | zero => simp [write]
  | succ width ih =>
    intro c hc
    rcases List.mem_append.mp hc with hc | hc
    · exact ih c hc
    · rw [List.mem_singleton.mp hc]
      exact isDigit_digitChar _ (Nat.mod_lt _ (by decide))

theorem read_write (width n : Nat) : read (write width n) = n % 16 ^ width := by
  induction width generalizing n with
  | zero => simp [write, Nat.mod_one]
  | succ width ih =>
    rw [write, read_append, ih, read_singleton, digit_digitChar _ (Nat.mod_lt _ (by decide)),
      List.length_singleton, pow_one, pow_succ', Nat.mod_mul]
    ring

theorem write_mod (width n : Nat) : write width (n % 16 ^ width) = write width n := by
  induction width generalizing n with
  | zero => rfl
  | succ width ih =>
    rw [write, write, pow_succ', Nat.mod_mul, Nat.add_mul_div_left _ _ (by decide),
      Nat.div_eq_of_lt (Nat.mod_lt n (by decide)), zero_add, ih, Nat.add_mul_mod_self_left,
      Nat.mod_mod]

theorem write_read {digits : List Char} (h : ∀ c ∈ digits, isDigit c = true) (width : Nat) :
    write width (read digits) =
      (List.replicate width '0' ++ digits.map lower).drop digits.length := by
  induction width generalizing digits with
  | zero =>
    rw [write, List.replicate_zero, List.nil_append]
    exact (List.drop_eq_nil_of_le (by rw [List.length_map])).symm
  | succ width ih =>
    cases digits using List.reverseRecOn with
    | nil =>
      rw [read_nil, write, Nat.zero_div, ← read_nil, ih (by simp)]
      simp [List.replicate_succ', read_nil]
    | append_singleton digits c =>
      obtain ⟨hdigits, hc⟩ := List.forall_mem_append.mp h
      have hdigit := digit_lt (hc c List.mem_cons_self)
      have hread : read (digits ++ [c]) = 16 * read digits + digit c := by
        rw [read_append, read_singleton, List.length_singleton, pow_one, mul_comm]
      have hquotient : (16 * read digits + digit c) / 16 = read digits := by omega
      have hremainder : (16 * read digits + digit c) % 16 = digit c := by omega
      have hdrop : (List.replicate width '0' ++ digits.map lower ++ [lower c]).drop digits.length =
          (List.replicate width '0' ++ digits.map lower).drop digits.length ++ [lower c] :=
        List.drop_append_of_le_length (by simp)
      rw [hread, write, hquotient, hremainder, ih hdigits, List.replicate_succ, List.map_append,
        List.length_append, List.length_singleton, List.cons_append, List.drop_succ_cons,
        ← List.append_assoc]
      exact hdrop.symm

theorem write_zero (width : Nat) : write width 0 = List.replicate width '0' := by
  have hread := write_read (fun c (hc : c ∈ []) => absurd hc (by simp)) width
  simpa using hread

theorem leftpad_toDigits {width n : Nat} (hpos : 0 < width) (h : n < 16 ^ width) :
    (Nat.toDigits 16 n).leftpad width '0' = write width n := by
  induction width generalizing n with
  | zero => omega
  | succ width ih =>
    rw [Nat.toDigits_eq_if (by decide), write]
    split
    next hsmall =>
      rw [Nat.div_eq_of_lt hsmall, Nat.mod_eq_of_lt hsmall, write_zero]
      simp [List.leftpad]
    next hlarge =>
      have hquotient : n / 16 < 16 ^ width := by
        rw [pow_succ] at h
        exact Nat.div_lt_of_lt_mul (by rwa [mul_comm])
      have hwidth : 0 < width := by
        by_contra hzero
        rw [Nat.eq_zero_of_not_pos hzero, zero_add, pow_one] at h
        omega
      rw [← ih hwidth hquotient]
      simp [List.leftpad]

end Hexadecimals
