import Mathlib.Algebra.Order.Field.Basic
import Mathlib.Data.List.TakeWhile
import Mathlib.Data.Nat.Digits.Defs
import Mathlib.Data.Rat.Cast.Order
import Mathlib.Tactic.FieldSimp
import Mathlib.Tactic.Positivity

/-!
# Decimals as texts

A decimal has digits, and at most one point before, among or after them. `read` reads its
text back as its value, and reads no other text.
-/

namespace Decimals

def digit (c : Char) : Nat := c.toNat - '0'.toNat

theorem digit_ne_zero {c : Char} (hdigit : c.isDigit = true) (hzero : c ≠ '0') : digit c ≠ 0 := by
  simp only [Char.isDigit, Bool.and_eq_true, decide_eq_true_eq, ge_iff_le, UInt32.le_iff_toNat_le]
    at hdigit
  have hge : 48 ≤ c.toNat := hdigit.1
  have hne : c.toNat ≠ 48 := fun heq => hzero (Char.toNat_inj.mp heq)
  show c.toNat - 48 ≠ 0
  omega

def natural (digits : List Char) : Nat := Nat.ofDigits 10 (digits.map digit).reverse

theorem natural_append (xs ys : List Char) :
    natural (xs ++ ys) = natural xs * 10 ^ ys.length + natural ys := by
  rw [natural, List.map_append, List.reverse_append, Nat.ofDigits_append, List.length_reverse,
    List.length_map]
  unfold natural
  ring

theorem natural_ne_zero {digits : List Char} {c : Char} (hc : c ∈ digits) (hdigit : digit c ≠ 0) :
    natural digits ≠ 0 := by
  intro hzero
  have hall := Nat.digits_zero_of_eq_zero (by norm_num) hzero (digit c)
  exact hdigit (hall (by simpa using ⟨c, hc, rfl⟩))

theorem exists_ne_zero_of_natural {digits : List Char} (h : natural digits ≠ 0) :
    ∃ c ∈ digits, c ≠ '0' := by
  by_contra hall
  push Not at hall
  have hzeros : digits = List.replicate digits.length '0' := List.eq_replicate_iff.mpr ⟨rfl, hall⟩
  have hreversed : (digits.map digit).reverse = List.replicate digits.length 0 := by
    rw [hzeros, List.map_replicate, List.reverse_replicate, List.length_replicate]
    rfl
  rw [natural, hreversed, Nat.ofDigits_replicate_zero] at h
  exact h rfl

theorem natural_eq_ofDigitChars (digits : List Char) :
    natural digits = Nat.ofDigitChars 10 digits 0 := by
  induction digits using List.reverseRecOn with
  | nil => rfl
  | append_singleton digits c ih =>
    rw [natural_append, ih, Nat.ofDigitChars_append, Nat.ofDigitChars_cons, Nat.ofDigitChars_nil]
    simp [natural, digit, mul_comm]

theorem isDigit_of_mem_toDigits {n : Nat} {c : Char} (hc : c ∈ Nat.toDigits 10 n) :
    c.isDigit = true :=
  Nat.isDigit_of_mem_toDigits (by decide) (by decide) hc

@[simp] theorem natural_toDigits (n : Nat) : natural (Nat.toDigits 10 n) = n := by
  rw [natural_eq_ofDigitChars, Nat.ofDigitChars_ten_toDigits]

/-- `fraction` is what comes after the point, if there is one. -/
structure Decimal where
  integer : List Char
  fraction : Option (List Char)
  isDigit : ∀ c ∈ integer ++ fraction.getD [], c.isDigit = true
  nonempty : integer ++ fraction.getD [] ≠ []

namespace Decimal

variable (d : Decimal)

def digits : List Char := d.integer ++ d.fraction.getD []

def text : List Char :=
  match d.fraction with
  | some fraction => d.integer ++ '.' :: fraction
  | none => d.integer

def value : ℚ := natural d.digits / 10 ^ (d.fraction.getD []).length

theorem value_nonneg : 0 ≤ d.value := by
  unfold value
  positivity

theorem mem_text {c : Char} (h : c ∈ d.text) : c ∈ d.digits ∨ c = '.' := by
  unfold text digits at *
  cases hfraction : d.fraction with
  | none =>
    rw [hfraction] at h
    exact .inl (List.mem_append_left _ h)
  | some fraction =>
    rw [hfraction] at h
    rcases List.mem_append.mp h with h | h
    · exact .inl (List.mem_append_left _ h)
    · rcases List.mem_cons.mp h with h | h
      · exact .inr h
      · exact .inl (List.mem_append_right _ h)

theorem digits_subset_text : d.digits ⊆ d.text := by
  unfold text digits
  cases d.fraction with
  | none => simp
  | some fraction => simp [List.append_subset]

theorem value_ne_zero {c : Char} (hc : c ∈ d.text) (hpoint : c ≠ '.') (hdigit : digit c ≠ 0) :
    d.value ≠ 0 := by
  have hmem := (d.mem_text hc).resolve_right hpoint
  have hnatural := natural_ne_zero hmem hdigit
  unfold value
  positivity

theorem exists_of_value_ne_zero (h : d.value ≠ 0) : ∃ c ∈ d.text, c.isDigit = true ∧ c ≠ '0' := by
  have hnatural : natural d.digits ≠ 0 := by
    intro hzero
    rw [value, hzero, Nat.cast_zero, zero_div] at h
    exact h rfl
  obtain ⟨c, hc, hne⟩ := exists_ne_zero_of_natural hnatural
  exact ⟨c, d.digits_subset_text hc, d.isDigit c hc, hne⟩

end Decimal

/-- `none` for a text that is no decimal. -/
def read (text : List Char) : Option ℚ :=
  let integer := text.takeWhile Char.isDigit
  match text.dropWhile Char.isDigit with
  | [] => if integer = [] then none else some (natural integer)
  | c :: fraction =>
    if c = '.' ∧ fraction.all Char.isDigit ∧ integer ++ fraction ≠ [] then
      some (natural integer + natural fraction / 10 ^ fraction.length)
    else none

theorem read_text (d : Decimal) : read d.text = some d.value := by
  obtain ⟨integer, fraction, hdigits, hnonempty⟩ := d
  have hinteger : ∀ c ∈ integer, c.isDigit = true :=
    fun c hc => hdigits c (List.mem_append_left _ hc)
  cases fraction with
  | none =>
    have hne : integer ≠ [] := by simpa using hnonempty
    have htake : integer.takeWhile Char.isDigit = integer := List.takeWhile_eq_self_iff.mpr hinteger
    have hdrop : integer.dropWhile Char.isDigit = [] := List.dropWhile_eq_nil_iff.mpr hinteger
    simp [read, Decimal.text, Decimal.value, Decimal.digits, htake, hdrop, hne]
  | some fraction =>
    have hfraction : fraction.all Char.isDigit = true :=
      List.all_eq_true.mpr fun c hc => hdigits c (List.mem_append_right _ hc)
    have hpoint : Char.isDigit '.' = false := by decide
    have htake : (integer ++ '.' :: fraction).takeWhile Char.isDigit = integer := by
      rw [List.takeWhile_append_of_pos hinteger, List.takeWhile_cons_of_neg (by simp [hpoint]),
        List.append_nil]
    have hdrop : (integer ++ '.' :: fraction).dropWhile Char.isDigit = '.' :: fraction := by
      rw [List.dropWhile_append_of_pos hinteger, List.dropWhile_cons_of_neg (by simp [hpoint])]
    simp only [read, Decimal.text, htake, hdrop]
    rw [if_pos ⟨trivial, hfraction, hnonempty⟩, Option.some.injEq]
    simp only [Decimal.value, Decimal.digits, Option.getD_some, natural_append]
    push_cast
    field_simp

theorem read_eq_some {text : List Char} {q : ℚ} (h : read text = some q) :
    ∃ d : Decimal, d.text = text ∧ d.value = q := by
  have hsplit := List.takeWhile_append_dropWhile (p := Char.isDigit) (l := text)
  have hinteger : ∀ c ∈ text.takeWhile Char.isDigit, c.isDigit = true :=
    fun c hc => List.mem_takeWhile_imp hc
  -- A decimal with the text has the value, since it is read back.
  suffices hdecimal : ∃ d : Decimal, d.text = text by
    obtain ⟨d, htext⟩ := hdecimal
    have hread := read_text d
    rw [htext, h] at hread
    exact ⟨d, htext, (Option.some.inj hread).symm⟩
  simp only [read] at h
  split at h
  · rename_i hnil
    split at h
    · simp at h
    · rename_i hne
      rw [hnil, List.append_nil] at hsplit
      exact ⟨⟨_, none, by simpa using hinteger, by simpa using hne⟩, hsplit⟩
  · rename_i c fraction hcons
    split at h
    · rename_i hform
      obtain ⟨rfl, hfraction, hne⟩ := hform
      rw [hcons] at hsplit
      refine ⟨⟨_, some fraction, ?_, hne⟩, hsplit⟩
      intro c hc
      rcases List.mem_append.mp hc with hc | hc
      · exact hinteger c hc
      · exact List.all_eq_true.mp hfraction c hc
    · simp at h

theorem read_eq_none {text : List Char} {c : Char} (hc : c ∈ text) (hdigit : c.isDigit = false)
    (hpoint : c ≠ '.') : read text = none := by
  rw [Option.eq_none_iff_forall_ne_some]
  intro q hq
  obtain ⟨d, rfl, _⟩ := read_eq_some hq
  have hmem := (d.mem_text hc).resolve_right hpoint
  simp [d.isDigit c hmem] at hdigit

/-- Digits and one point are a decimal, unless there is no digit. -/
theorem exists_decimal {text : List Char} (hchars : ∀ c ∈ text, c.isDigit = true ∨ c = '.')
    (hpoints : text.count '.' ≤ 1) (hne : text ≠ []) (hpoint : text ≠ ['.']) :
    ∃ d : Decimal, d.text = text := by
  by_cases hmem : '.' ∈ text
  · obtain ⟨integer, fraction, rfl⟩ := List.append_of_mem hmem
    rw [List.count_append, List.count_cons_self] at hpoints
    have hdigits : ∀ c ∈ integer ++ fraction, c.isDigit = true := by
      intro c hc
      refine (hchars c ?_).resolve_right ?_
      · rcases List.mem_append.mp hc with hc | hc
        · exact List.mem_append_left _ hc
        · exact List.mem_append_right _ (List.mem_cons_of_mem _ hc)
      · rintro rfl
        have hcount := List.count_pos_iff.mpr hc
        rw [List.count_append] at hcount
        omega
    refine ⟨⟨integer, some fraction, hdigits, ?_⟩, rfl⟩
    intro hnil
    obtain ⟨rfl, rfl⟩ := List.append_eq_nil_iff.mp hnil
    exact hpoint rfl
  · have hdigits : ∀ c ∈ text ++ [], c.isDigit = true := by
      intro c hc
      rw [List.append_nil] at hc
      refine (hchars c hc).resolve_right ?_
      rintro rfl
      exact hmem hc
    exact ⟨⟨text, none, hdigits, by simpa using hne⟩, rfl⟩

end Decimals
