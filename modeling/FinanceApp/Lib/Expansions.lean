import FinanceApp.Lib.Decimals
import Mathlib.Data.Nat.Cast.Field

/-!
# Rationals as texts

A rational is printed as its finite decimal expansion, with at least one place after the
point. One that has none is printed as a quotient. `readNumber` reads both back.
-/

namespace Decimals

/-- The digits of `n`, the last `places` of them after the point. -/
def Decimal.ofScaled (n places : Nat) : Decimal where
  integer := Nat.toDigits 10 (n / 10 ^ places)
  fraction := some ((Nat.toDigits 10 (n % 10 ^ places)).leftpad places '0')
  isDigit := by
    intro c hc
    rcases List.mem_append.mp hc with hc | hc
    · exact isDigit_of_mem_toDigits hc
    · rcases List.mem_append.mp hc with hc | hc
      · rw [List.eq_of_mem_replicate hc]
        rfl
      · exact isDigit_of_mem_toDigits hc
  nonempty := by simp

theorem natural_leftpad (places : Nat) (digits : List Char) :
    natural (digits.leftpad places '0') = natural digits := by
  have hzeros : ∀ k, natural (List.replicate k '0') = 0 := by
    intro k
    induction k with
    | zero => rfl
    | succ k ih =>
      rw [List.replicate_succ', natural_append, ih]
      rfl
  rw [List.leftpad, natural_append, hzeros, zero_mul, zero_add]

theorem Decimal.value_ofScaled (n : Nat) {places : Nat} (hplaces : 0 < places) :
    (Decimal.ofScaled n places).value = n / 10 ^ places := by
  have hlt : n % 10 ^ places < 10 ^ places := Nat.mod_lt _ (by positivity)
  have hlength : ((Nat.toDigits 10 (n % 10 ^ places)).leftpad places '0').length = places := by
    have := (Nat.length_toDigits_le_iff (b := 10) (by decide) hplaces).mpr hlt
    rw [List.leftpad, List.length_append, List.length_replicate]
    omega
  simp only [value, digits, ofScaled, Option.getD_some, hlength, natural_append, natural_leftpad,
    natural_toDigits]
  rw [Nat.div_add_mod']

/-- The fewest places after the point, at least one. -/
def places? (x : ℚ) : Option Nat :=
  ((List.range (x.den + 1)).find? fun k => x.den ∣ 10 ^ (k + 1)).map (· + 1)

theorem places?_eq_some {x : ℚ} {places : Nat} (h : places? x = some places) :
    0 < places ∧ x.den ∣ 10 ^ places := by
  obtain ⟨k, hk, rfl⟩ := Option.map_eq_some_iff.mp h
  exact ⟨Nat.succ_pos k, by simpa using List.find?_some hk⟩

theorem places?_of_dvd_ten {x : ℚ} (h : x.den ∣ 10) : places? x = some 1 := by
  unfold places?
  rw [List.range_succ_eq_map, List.find?_cons_of_pos (by simpa using h)]
  rfl

/-- The text of a number that is not negative. -/
def numberText (x : ℚ) : List Char :=
  match places? x with
  | some places => (Decimal.ofScaled (x.num.natAbs * (10 ^ places / x.den)) places).text
  | none => Nat.toDigits 10 x.num.natAbs ++ '/' :: Nat.toDigits 10 x.den

def readNumber (text : List Char) : Option ℚ :=
  (read text).or <|
    let numerator := text.takeWhile Char.isDigit
    match text.dropWhile Char.isDigit with
    | '/' :: denominator => some (natural numerator / natural denominator)
    | _ => none

theorem readNumber_decimal (d : Decimal) : readNumber d.text = some d.value := by
  simp [readNumber, read_text]

theorem readNumber_toDigits (n : Nat) : readNumber (Nat.toDigits 10 n) = some (n : ℚ) := by
  have hdigits : ∀ c ∈ Nat.toDigits 10 n ++ [], c.isDigit = true := fun c hc =>
    isDigit_of_mem_toDigits (by simpa using hc)
  have hread := readNumber_decimal ⟨Nat.toDigits 10 n, none, hdigits, by simp⟩
  simpa [Decimal.text, Decimal.value, Decimal.digits] using hread

theorem readNumber_quotient (n m : Nat) :
    readNumber (Nat.toDigits 10 n ++ '/' :: Nat.toDigits 10 m) = some ((n : ℚ) / m) := by
  have hdigits : ∀ c ∈ Nat.toDigits 10 n, c.isDigit = true := fun _ => isDigit_of_mem_toDigits
  have hslash : Char.isDigit '/' = false := by decide
  have hnone : read (Nat.toDigits 10 n ++ '/' :: Nat.toDigits 10 m) = none :=
    read_eq_none (List.mem_append_right _ List.mem_cons_self) hslash (by decide)
  have htake : (Nat.toDigits 10 n ++ '/' :: Nat.toDigits 10 m).takeWhile Char.isDigit =
      Nat.toDigits 10 n := by
    rw [List.takeWhile_append_of_pos hdigits, List.takeWhile_cons_of_neg (by simp [hslash]),
      List.append_nil]
  have hdrop : (Nat.toDigits 10 n ++ '/' :: Nat.toDigits 10 m).dropWhile Char.isDigit =
      '/' :: Nat.toDigits 10 m := by
    rw [List.dropWhile_append_of_pos hdigits, List.dropWhile_cons_of_neg (by simp [hslash])]
  simp only [readNumber, hnone, htake, hdrop, natural_toDigits, Option.none_or]

theorem natAbs_num_div_den {x : ℚ} (h : 0 ≤ x) : (x.num.natAbs : ℚ) / x.den = x := by
  have hnum : ((x.num.natAbs : ℤ) : ℚ) = x.num := by
    rw [Int.natAbs_of_nonneg (Rat.num_nonneg.mpr h)]
  rw [Int.cast_natCast] at hnum
  rw [hnum, Rat.num_div_den]

theorem readNumber_numberText {x : ℚ} (h : 0 ≤ x) : readNumber (numberText x) = some x := by
  unfold numberText
  split
  · next places hplaces =>
    obtain ⟨hpos, hdvd⟩ := places?_eq_some hplaces
    have hden : (x.den : ℚ) ≠ 0 := by exact_mod_cast x.den_ne_zero
    rw [readNumber_decimal, Decimal.value_ofScaled _ hpos, Nat.cast_mul, Nat.cast_div hdvd hden]
    congr 1
    conv_rhs => rw [← natAbs_num_div_den h]
    push_cast
    field_simp
  · rw [readNumber_quotient, natAbs_num_div_den h]

theorem point_mem_numberText {x : ℚ} (h : x.den ∣ 10) : '.' ∈ numberText x := by
  rw [numberText, places?_of_dvd_ten h]
  exact List.mem_append_right _ List.mem_cons_self

theorem mem_numberText {x : ℚ} {c : Char} (hc : c ∈ numberText x) :
    c.isDigit = true ∨ c = '.' ∨ c = '/' := by
  unfold numberText at hc
  split at hc
  · rcases Decimal.mem_text _ hc with hc | hc
    · exact .inl (Decimal.isDigit _ c hc)
    · exact .inr (.inl hc)
  · rcases List.mem_append.mp hc with hc | hc
    · exact .inl (isDigit_of_mem_toDigits hc)
    · rcases List.mem_cons.mp hc with hc | hc
      · exact .inr (.inr hc)
      · exact .inl (isDigit_of_mem_toDigits hc)

end Decimals
