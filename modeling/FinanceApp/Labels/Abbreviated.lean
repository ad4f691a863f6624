import FinanceApp.Lib.Expansions
import Mathlib.Data.Rat.Floor

/-!
# Abbreviated amounts

The value axis of a chart abbreviates thousands and millions, to one decimal. Numbers are
exact, and an `Int` has 64 bits.
-/

open Decimals

namespace FinanceApp

namespace Double

def description (x : ℚ) : String :=
  if x < 0 then "-" ++ String.ofList (numberText (-x)) else String.ofList (numberText x)

/-- `Int(x)`, towards zero. `none` is its trap. -/
def int (x : ℚ) : Option Int :=
  let whole := x.num.tdiv x.den
  if -2 ^ 63 ≤ whole ∧ whole < 2 ^ 63 then some whole else none

/-- The end of both branches that abbreviate. -/
def withSuffix (n : ℚ) (suffix : String) : Option String := do
  let whole ← int n
  if n = whole then return toString whole ++ suffix
  return description n ++ suffix

/-- `none` is a trap. -/
def abbreviated (self : ℚ) : Option String :=
  -- less than 1000, no abbreviation
  if self < 1000 then some (description self)
  -- less than 1 million, abbreviate to thousands
  else if self < 1000000 then withSuffix (⌊self / 100⌋ / 10) "K"
  -- more than 1 million, abbreviate to millions
  else withSuffix (⌊self / 100000⌋ / 10) "M"

end Double

open Double

/-! ## What an amount denotes -/

def suffixUnit : Char → Option ℚ
  | 'K' => some 1000
  | 'M' => some 1000000
  | _ => none

def denotedAmount (label : String) : Option ℚ :=
  match label.toList.getLast?.bind suffixUnit with
  | some unit => (readNumber label.toList.dropLast).map (· * unit)
  | none => readNumber label.toList

theorem denotedAmount_suffix (text : List Char) {c : Char} {unit : ℚ}
    (hunit : suffixUnit c = some unit) :
    denotedAmount (String.ofList text ++ String.singleton c) =
      (readNumber text).map (· * unit) := by
  simp [denotedAmount, hunit]

theorem suffixUnit_of_number {c : Char} (h : c.isDigit = true ∨ c = '.' ∨ c = '/') :
    suffixUnit c = none := by
  unfold suffixUnit
  split
  · exact absurd h (by decide)
  · exact absurd h (by decide)
  · rfl

theorem denotedAmount_description {x : ℚ} (h : 0 ≤ x) : denotedAmount (description x) = some x := by
  have hplain : (numberText x).getLast?.bind suffixUnit = none := by
    rw [Option.bind_eq_none_iff]
    exact fun c hc => suffixUnit_of_number (mem_numberText (List.mem_of_getLast? hc))
  rw [description, if_neg (not_lt.mpr h), denotedAmount, String.toList_ofList, hplain]
  exact readNumber_numberText h

/-- The number before the suffix. -/
def shortText (n : ℚ) : List Char :=
  if n = ⌊n⌋ then Nat.toDigits 10 ⌊n⌋.toNat else numberText n

theorem int_of_nonneg {n : ℚ} (h : 0 ≤ n) : int n = if n < 2 ^ 63 then some ⌊n⌋ else none := by
  have hwhole : n.num.tdiv n.den = ⌊n⌋ := by
    rw [Int.tdiv_eq_ediv_of_nonneg (Rat.num_nonneg.mpr h), Rat.floor_def']
  have hfloor : 0 ≤ ⌊n⌋ := Int.floor_nonneg.mpr h
  have hlt : ⌊n⌋ < 2 ^ 63 ↔ n < 2 ^ 63 := by
    rw [Int.floor_lt]
    norm_num
  simp only [int, hwhole, hlt, show -2 ^ 63 ≤ ⌊n⌋ by omega, true_and]

theorem eq_floor_iff {n : ℚ} : n = ⌊n⌋ ↔ ∃ k : ℤ, n = k := by
  refine ⟨fun h => ⟨_, h⟩, ?_⟩
  rintro ⟨k, rfl⟩
  rw [Int.floor_intCast]

theorem toString_of_nonneg {k : ℤ} (h : 0 ≤ k) :
    toString k = String.ofList (Nat.toDigits 10 k.toNat) := by
  rw [Int.toString_eq_repr, Int.repr_eq_if, if_pos h, Nat.repr_eq_ofList_toDigits]

theorem withSuffix_eq {n : ℚ} (h : 0 ≤ n) (suffix : String) :
    withSuffix n suffix =
      if n < 2 ^ 63 then some (String.ofList (shortText n) ++ suffix) else none := by
  rw [withSuffix, int_of_nonneg h]
  split
  · rw [Option.bind_eq_bind, Option.bind_some, shortText]
    split
    · rw [toString_of_nonneg (Int.floor_nonneg.mpr h)]
      rfl
    · rw [description, if_neg (not_lt.mpr h)]
      rfl
  · rfl

theorem readNumber_shortText {n : ℚ} (h : 0 ≤ n) : readNumber (shortText n) = some n := by
  unfold shortText
  split
  · next hint =>
    have hcast : ((⌊n⌋.toNat : ℤ) : ℚ) = ⌊n⌋ := by
      rw [Int.toNat_of_nonneg (Int.floor_nonneg.mpr h)]
    rw [Int.cast_natCast, ← hint] at hcast
    rw [readNumber_toDigits, hcast]
  · exact readNumber_numberText h

theorem point_mem_shortText_iff {n : ℚ} (hden : n.den ∣ 10) :
    '.' ∈ shortText n ↔ ¬∃ k : ℤ, n = k := by
  rw [← eq_floor_iff, shortText]
  split
  · next hint =>
    refine iff_of_false (fun hmem => ?_) (not_not.mpr hint)
    exact absurd (isDigit_of_mem_toDigits hmem) (by decide)
  · next hint => exact iff_of_true (point_mem_numberText hden) hint

theorem den_tenths_dvd (k : ℤ) : ((k : ℚ) / 10).den ∣ 10 := by
  have hdvd := Rat.den_dvd k 10
  rw [Rat.divInt_eq_div] at hdvd
  exact_mod_cast hdvd

/-! ## Truncation -/

def amountUnit (x : ℚ) : ℚ := if x < 1000 then 1 else if x < 1000000 then 1000 else 1000000

def amountSuffix (x : ℚ) : Char := if x < 1000000 then 'K' else 'M'

theorem suffixUnit_amountSuffix {x : ℚ} (h : 1000 ≤ x) :
    suffixUnit (amountSuffix x) = some (amountUnit x) := by
  unfold amountSuffix amountUnit
  rw [if_neg (not_lt.mpr h)]
  split <;> rfl

theorem amountUnit_pos (x : ℚ) : 0 < amountUnit x := by
  unfold amountUnit
  split_ifs <;> norm_num

/-- The tenths of the unit in an amount. -/
def tenths (x : ℚ) : ℤ := ⌊x / (amountUnit x / 10)⌋

theorem tenths_div_nonneg {x : ℚ} (h : 0 ≤ x) : (0 : ℚ) ≤ tenths x / 10 := by
  have htenths : 0 ≤ tenths x :=
    Int.floor_nonneg.mpr (div_nonneg h (by linarith [amountUnit_pos x]))
  exact div_nonneg (by exact_mod_cast htenths) (by norm_num)

/-- From here on the millions do not fit an `Int`. -/
def tooLarge : ℚ := 1000000 * 2 ^ 63

theorem tenths_lt_iff {x : ℚ} (h : 1000 ≤ x) : (tenths x / 10 : ℚ) < 2 ^ 63 ↔ x < tooLarge := by
  have hcast : (tenths x / 10 : ℚ) < 2 ^ 63 ↔ tenths x < 10 * 2 ^ 63 := by
    rw [div_lt_iff₀ (by norm_num), mul_comm, ← Int.cast_lt (R := ℚ)]
    norm_num
  rw [hcast, tenths, Int.floor_lt, amountUnit, if_neg (not_lt.mpr h), tooLarge]
  split
  · next hsmall =>
    refine iff_of_true ?_ (by linarith)
    rw [div_lt_iff₀ (by norm_num)]
    push_cast
    linarith
  · rw [div_lt_iff₀ (by norm_num)]
    push_cast
    norm_num

theorem abbreviated_of_large {x : ℚ} (h : 1000 ≤ x) :
    abbreviated x =
      if x < tooLarge then
        some (String.ofList (shortText (tenths x / 10)) ++ String.singleton (amountSuffix x))
      else none := by
  have hlabel := withSuffix_eq (tenths_div_nonneg (x := x) (by linarith))
    (String.singleton (amountSuffix x))
  rw [if_congr (tenths_lt_iff h) rfl rfl] at hlabel
  rw [abbreviated, if_neg (not_lt.mpr h), ← hlabel]
  unfold tenths amountUnit amountSuffix
  rw [if_neg (not_lt.mpr h)]
  split
  · norm_num
    rfl
  · norm_num
    rfl

/-- An amount, or as much of it as an abbreviation keeps. -/
def truncated (x : ℚ) : ℚ := if x < 1000 then x else tenths x * (amountUnit x / 10)

theorem truncated_of_large {x : ℚ} (h : 1000 ≤ x) :
    truncated x = tenths x * (amountUnit x / 10) := if_neg (not_lt.mpr h)

theorem truncated_le (x : ℚ) : truncated x ≤ x := by
  have hpos : 0 < amountUnit x / 10 := by linarith [amountUnit_pos x]
  unfold truncated
  split
  · exact le_rfl
  · exact (le_div_iff₀ hpos).mp (Int.floor_le _)

theorem lt_truncated_add {x : ℚ} (h : 1000 ≤ x) : x < truncated x + amountUnit x / 10 := by
  have hpos : 0 < amountUnit x / 10 := by linarith [amountUnit_pos x]
  have hlt := (div_lt_iff₀ hpos).mp (Int.lt_floor_add_one (x / (amountUnit x / 10)))
  rw [truncated_of_large h, tenths]
  linarith

theorem le_truncated {x : ℚ} {k : ℤ} (h : 1000 ≤ x) (hk : k * (amountUnit x / 10) ≤ x) :
    k * (amountUnit x / 10) ≤ truncated x := by
  have hpos : 0 < amountUnit x / 10 := by linarith [amountUnit_pos x]
  have hfloor : k ≤ tenths x := Int.le_floor.mpr ((le_div_iff₀ hpos).mpr hk)
  rw [truncated_of_large h]
  exact mul_le_mul_of_nonneg_right (by exact_mod_cast hfloor) hpos.le

theorem truncated_mono {x y : ℚ} (hxy : x ≤ y) : truncated x ≤ truncated y := by
  rcases lt_or_ge y 1000 with hy | hy
  · rw [truncated, truncated, if_pos hy, if_pos (by linarith)]
    exact hxy
  · have hle := truncated_le x
    by_cases hunit : 1000 ≤ x ∧ amountUnit x = amountUnit y
    · rw [truncated_of_large hunit.1, hunit.2]
      apply le_truncated hy
      rw [← hunit.2, ← truncated_of_large hunit.1]
      exact hle.trans hxy
    · -- The unit of the larger amount lies between the two.
      have hbetween : truncated x ≤ amountUnit y ∧ amountUnit y ≤ y := by
        unfold amountUnit at *
        split_ifs at * with hx' hy'
        all_goals constructor
        all_goals first | linarith | grind
      have hten : ((10 : ℤ) : ℚ) * (amountUnit y / 10) = amountUnit y := by
        push_cast
        ring
      calc truncated x ≤ amountUnit y := hbetween.1
        _ = ((10 : ℤ) : ℚ) * (amountUnit y / 10) := hten.symm
        _ ≤ truncated y := le_truncated hy (by rw [hten]; exact hbetween.2)

/-! ## The labels -/

/-- The label of `x` denotes `v`. -/
structure AbbreviatedAs (x : ℚ) (label : String) (v : ℚ) : Prop where
  given : abbreviated x = some label
  denoted : denotedAmount label = some v
  small : x < 1000 → v = x
  tenth : 1000 ≤ x → ∃ k : ℤ, v = k * (amountUnit x / 10)
  le : v ≤ x
  lt : 1000 ≤ x → x < v + amountUnit x / 10
  suffix : 1000 ≤ x → label.toList.getLast? = some (amountSuffix x)
  decimal : 1000 ≤ x → ('.' ∈ label.toList ↔ ¬∃ k : ℤ, v = k * amountUnit x)

/-- The decimal part is shown only where there is one, whatever the amount. -/
def ShowsDecimal (x : ℚ) (label : String) (v : ℚ) : Prop :=
  '.' ∈ label.toList ↔ ¬∃ k : ℤ, v = k * amountUnit x

theorem abbreviated_as_truncated {x : ℚ} (h : 0 ≤ x) (hfits : x < tooLarge) :
    ∃ label, AbbreviatedAs x label (truncated x) := by
  rcases lt_or_ge x 1000 with hsmall | hlarge
  · have htruncated : truncated x = x := if_pos hsmall
    rw [htruncated]
    refine ⟨_, if_pos hsmall, denotedAmount_description h, fun _ => rfl, ?_, le_rfl, ?_, ?_, ?_⟩
    all_goals exact fun hlarge => absurd hsmall (not_lt.mpr hlarge)
  · have hpos := amountUnit_pos x
    have hscaled : truncated x = tenths x / 10 * amountUnit x := by
      rw [truncated_of_large hlarge]
      ring
    refine ⟨_, (abbreviated_of_large hlarge).trans (if_pos hfits), ?_,
      fun hsmall => absurd hsmall (not_lt.mpr hlarge), fun _ => ⟨_, truncated_of_large hlarge⟩,
      truncated_le x, lt_truncated_add, fun _ => by simp, fun _ => ?_⟩
    · rw [denotedAmount_suffix _ (suffixUnit_amountSuffix hlarge),
        readNumber_shortText (tenths_div_nonneg h), hscaled]
      rfl
    · have hmem : '.' ∈ (String.ofList (shortText (tenths x / 10)) ++
          String.singleton (amountSuffix x)).toList ↔ '.' ∈ shortText (tenths x / 10) := by
        rw [amountSuffix]
        split <;> simp
      rw [hmem, point_mem_shortText_iff (den_tenths_dvd _), hscaled]
      simp only [mul_left_inj' hpos.ne']

theorem denotedAmount_thousand_thousands : denotedAmount "1000K" = some 1000000 := by
  have hread := denotedAmount_suffix (Nat.toDigits 10 1000) (c := 'K') rfl
  rw [readNumber_toDigits] at hread
  refine Eq.trans ?_ (hread.trans ?_)
  · rfl
  · norm_num

theorem abbreviated_eq_none_iff {x : ℚ} : abbreviated x = none ↔ tooLarge ≤ x := by
  rcases lt_or_ge x 1000 with hsmall | hlarge
  · rw [abbreviated, if_pos hsmall, tooLarge]
    exact iff_of_false (Option.some_ne_none _) (by linarith)
  · rw [abbreviated_of_large hlarge]
    split <;> simp_all

example : abbreviated 999999 = some "999.9K" := by decide +kernel

end FinanceApp
