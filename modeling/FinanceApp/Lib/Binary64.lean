import FinanceApp.Lib.RoundedSums
import Mathlib.Algebra.Order.Field.Power
import Mathlib.Data.Int.Log
import Mathlib.Data.Rat.Floor
import Mathlib.Tactic.Linarith
import Mathlib.Tactic.NormNum
import Mathlib.Tactic.Positivity
import Mathlib.Tactic.Ring

/-!
# Numbers in double precision

A number is rounded to 53 binary digits, halves to the even side. Near zero there are fewer
digits, and what is too small becomes zero. What is too large becomes infinite.
-/

namespace Binary64

/-- Halves go to the even integer. -/
def roundToEven (y : ℚ) : ℤ :=
  if y - ⌊y⌋ < 1 / 2 then ⌊y⌋
  else if 1 / 2 < y - ⌊y⌋ then ⌊y⌋ + 1
  else if ⌊y⌋ % 2 = 0 then ⌊y⌋
  else ⌊y⌋ + 1

/-- The last binary place that is kept. -/
def place (x : ℚ) : ℤ := max (Int.log 2 |x| - 52) (-1074)

def nearest (x : ℚ) : ℚ := roundToEven (x / 2 ^ place x) * 2 ^ place x

end Binary64

inductive Binary64 where
  | finite (value : ℚ)
  | infinite (isNegative : Bool)
  deriving DecidableEq, Repr

namespace Binary64

def ofRat (x : ℚ) : Binary64 :=
  if 2 ^ 1024 ≤ |nearest x| then .infinite (x < 0) else .finite (nearest x)

/-! ## Halves -/

theorem abs_roundToEven_sub_le (y : ℚ) : |(roundToEven y : ℚ) - y| ≤ 1 / 2 := by
  have hfloor := Int.floor_le y
  have hlt := Int.lt_floor_add_one y
  rw [abs_le]
  unfold roundToEven
  split_ifs <;> push_cast <;> constructor <;> linarith

theorem le_roundToEven {y : ℚ} {n : ℤ} (h : n ≤ y) : n ≤ roundToEven y := by
  have herror := (abs_le.mp (abs_roundToEven_sub_le y)).1
  have hcast : (n : ℚ) - 1 < roundToEven y := by linarith
  have hlt : n - 1 < roundToEven y := by exact_mod_cast hcast
  omega

theorem roundToEven_le {y : ℚ} {n : ℤ} (h : y ≤ n) : roundToEven y ≤ n := by
  have herror := (abs_le.mp (abs_roundToEven_sub_le y)).2
  have hcast : (roundToEven y : ℚ) < n + 1 := by linarith
  have hlt : roundToEven y < n + 1 := by exact_mod_cast hcast
  omega

theorem le_roundToEven_iff {y : ℚ} {n : ℤ} (heven : n % 2 = 0) :
    n ≤ roundToEven y ↔ n - 1 / 2 ≤ y := by
  constructor
  · intro h
    have hcast : (n : ℚ) ≤ roundToEven y := by exact_mod_cast h
    linarith [(abs_le.mp (abs_roundToEven_sub_le y)).2]
  · intro h
    rcases le_or_gt (n : ℚ) y with hle | hlt
    · exact le_roundToEven hle
    · -- The half below an even integer goes up to it.
      have hfloor : ⌊y⌋ = n - 1 := by
        rw [Int.floor_eq_iff]
        push_cast
        constructor <;> linarith
      have hcast : ((n - 1 : ℤ) : ℚ) = n - 1 := by push_cast; rfl
      unfold roundToEven
      rw [hfloor, hcast, if_neg (by linarith)]
      split_ifs <;> omega

theorem roundToEven_le_iff {y : ℚ} {n : ℤ} (heven : n % 2 = 0) :
    roundToEven y ≤ n ↔ y ≤ n + 1 / 2 := by
  constructor
  · intro h
    have hcast : (roundToEven y : ℚ) ≤ n := by exact_mod_cast h
    linarith [(abs_le.mp (abs_roundToEven_sub_le y)).1]
  · intro h
    rcases le_or_gt y n with hle | hlt
    · exact roundToEven_le hle
    · -- The half above an even integer goes down to it.
      have hfloor : ⌊y⌋ = n := by
        rw [Int.floor_eq_iff]
        constructor <;> linarith
      unfold roundToEven
      rw [hfloor, if_neg (show ¬ 1 / 2 < y - n by linarith)]
      split_ifs <;> omega

/-! ## The error -/

theorem two_zpow_pos (k : ℤ) : (0 : ℚ) < 2 ^ k := zpow_pos (by norm_num) k

theorem abs_nearest_sub_le_half (x : ℚ) : |nearest x - x| ≤ 2 ^ place x / 2 := by
  have hpos := two_zpow_pos (place x)
  have hscaled : nearest x - x =
      ((roundToEven (x / 2 ^ place x) : ℚ) - x / 2 ^ place x) * 2 ^ place x := by
    rw [nearest, sub_mul, div_mul_cancel₀ _ hpos.ne']
  rw [hscaled, abs_mul, abs_of_pos hpos]
  calc |(roundToEven (x / 2 ^ place x) : ℚ) - x / 2 ^ place x| * 2 ^ place x
      ≤ 1 / 2 * 2 ^ place x :=
        mul_le_mul_of_nonneg_right (abs_roundToEven_sub_le _) hpos.le
    _ = 2 ^ place x / 2 := by ring

theorem nearest_zero : nearest 0 = 0 := by
  have hzero : roundToEven 0 = 0 := by simp [roundToEven]
  rw [nearest, zero_div, hzero, Int.cast_zero, zero_mul]

theorem abs_nearest_sub_le (x : ℚ) : |nearest x - x| ≤ max (|x| / 2 ^ 53) (1 / 2 ^ 1075) := by
  have herror := abs_nearest_sub_le_half x
  by_cases hzero : x = 0
  · subst hzero
    rw [nearest_zero, sub_zero, abs_zero]
    exact le_max_of_le_left (by norm_num)
  rcases le_total (Int.log 2 |x| - 52) (-1074) with hsmall | hlarge
  · have hplace : place x = -1074 := max_eq_right hsmall
    have hhalf : (2 : ℚ) ^ (-1074 : ℤ) / 2 = 1 / 2 ^ 1075 := by
      rw [zpow_neg, zpow_ofNat, pow_succ]
      field_simp
    rw [hplace, hhalf] at herror
    exact herror.trans (le_max_right _ _)
  · have hplace : place x = Int.log 2 |x| - 52 := max_eq_left hlarge
    have hlog : (2 : ℚ) ^ Int.log 2 |x| ≤ |x| := by
      exact_mod_cast Int.zpow_log_le_self (b := 2) (by norm_num) (abs_pos.mpr hzero)
    have hhalf : (2 : ℚ) ^ (Int.log 2 |x| - 52) / 2 = 2 ^ Int.log 2 |x| / 2 ^ 53 := by
      rw [zpow_sub₀ two_ne_zero, zpow_ofNat, div_div, ← pow_succ]
    rw [hplace, hhalf] at herror
    exact herror.trans (le_max_of_le_left (div_le_div_of_nonneg_right hlog (by positivity)))

/-! ## Both ends of the range -/

section Range

variable {x : ℚ}

theorem zpow_log_le (h : 0 < x) : (2 : ℚ) ^ Int.log 2 x ≤ x := by
  exact_mod_cast Int.zpow_log_le_self (b := 2) (by norm_num) h

theorem lt_zpow_log_succ (x : ℚ) : x < 2 ^ (Int.log 2 x + 1) := by
  exact_mod_cast Int.lt_zpow_succ_log_self (b := 2) (by norm_num) x

theorem place_of_pos (h : 0 < x) : place x = max (Int.log 2 x - 52) (-1074) := by
  rw [place, abs_of_pos h]

theorem nearest_nonneg (h : 0 ≤ x) : 0 ≤ nearest x := by
  have hround : 0 ≤ roundToEven (x / 2 ^ place x) :=
    le_roundToEven (by simpa using div_nonneg h (two_zpow_pos _).le)
  exact mul_nonneg (by exact_mod_cast hround) (two_zpow_pos _).le

theorem zpow_log_le_nearest (h : 0 < x) (hlarge : -1022 ≤ Int.log 2 x) :
    2 ^ Int.log 2 x ≤ nearest x := by
  have hplace : place x = Int.log 2 x - 52 := by
    rw [place_of_pos h]
    omega
  have hsplit : (2 : ℚ) ^ Int.log 2 x = 2 ^ 52 * 2 ^ place x := by
    rw [hplace, ← zpow_natCast, ← zpow_add₀ two_ne_zero]
    congr 1
    push_cast
    ring
  have hround : (2 ^ 52 : ℤ) ≤ roundToEven (x / 2 ^ place x) := by
    apply le_roundToEven
    rw [le_div_iff₀ (two_zpow_pos _)]
    rw [Int.cast_pow, Int.cast_ofNat, ← hsplit]
    exact zpow_log_le h
  rw [hsplit, nearest]
  exact mul_le_mul_of_nonneg_right (by exact_mod_cast hround) (two_zpow_pos _).le

theorem nearest_eq_zero_iff (h : 0 < x) : nearest x = 0 ↔ x ≤ 1 / 2 ^ 1075 := by
  rcases le_or_gt (-1022) (Int.log 2 x) with hlarge | hsmall
  · have hpower := two_zpow_pos (Int.log 2 x)
    refine iff_of_false ?_ ?_
    · exact (hpower.trans_le (zpow_log_le_nearest h hlarge)).ne'
    · have hle : (2 : ℚ) ^ (-1022 : ℤ) ≤ 2 ^ Int.log 2 x :=
        zpow_le_zpow_right₀ (by norm_num) hlarge
      have hlt : (1 : ℚ) / 2 ^ 1075 < 2 ^ (-1022 : ℤ) := by
        rw [one_div, ← zpow_natCast, ← zpow_neg]
        exact zpow_lt_zpow_right₀ (by norm_num) (by norm_num)
      exact not_le.mpr (hlt.trans_le (hle.trans (zpow_log_le h)))
  · have hplace : place x = -1074 := by
      rw [place_of_pos h]
      omega
    have hscaled : x / 2 ^ place x = x * 2 ^ 1074 := by
      rw [hplace, zpow_neg, zpow_ofNat, div_inv_eq_mul]
    have hround : nearest x = 0 ↔ roundToEven (x * 2 ^ 1074) ≤ 0 := by
      rw [nearest, hscaled, mul_eq_zero, or_iff_left (two_zpow_pos _).ne', Int.cast_eq_zero]
      have hnonneg : 0 ≤ roundToEven (x * 2 ^ 1074) := le_roundToEven (by simpa using by positivity)
      omega
    have hdouble : x * 2 ^ 1074 * 2 = x * 2 ^ 1075 := by rw [mul_assoc, ← pow_succ]
    rw [hround, roundToEven_le_iff (by norm_num), Int.cast_zero, zero_add,
      le_div_iff₀ (by norm_num), hdouble, le_div_iff₀ (by positivity)]

theorem le_nearest_iff (h : 0 < x) : 2 ^ 1024 ≤ nearest x ↔ 2 ^ 1024 - 2 ^ 970 ≤ x := by
  rcases lt_trichotomy (Int.log 2 x) 1023 with hsmall | hlast | hlarge
  · -- Below the last power of two a number stays below the next one.
    have hplace : Int.log 2 x + 1 ≤ place x + 53 ∧ place x + 53 ≤ 1023 := by
      rw [place_of_pos h]
      omega
    have hsplit : (2 : ℚ) ^ (place x + 53) = 2 ^ 53 * 2 ^ place x := by
      rw [zpow_add₀ two_ne_zero, zpow_ofNat, mul_comm]
    have hlast : (2 : ℚ) ^ (place x + 53) ≤ 2 ^ 1023 := by
      rw [← zpow_natCast]
      exact zpow_le_zpow_right₀ (by norm_num) hplace.2
    have hlt : x < 2 ^ (place x + 53) :=
      (lt_zpow_log_succ x).trans_le (zpow_le_zpow_right₀ (by norm_num) hplace.1)
    have hround : roundToEven (x / 2 ^ place x) ≤ (2 ^ 53 : ℤ) := by
      apply roundToEven_le
      rw [div_le_iff₀ (two_zpow_pos _)]
      rw [Int.cast_pow, Int.cast_ofNat, ← hsplit]
      exact hlt.le
    have hnearest : nearest x ≤ 2 ^ 1023 := by
      refine le_trans ?_ hlast
      rw [hsplit, nearest]
      exact mul_le_mul_of_nonneg_right (by exact_mod_cast hround) (two_zpow_pos _).le
    refine iff_of_false (not_le.mpr (hnearest.trans_lt ?_))
      (not_le.mpr ((hlt.trans_le hlast).trans ?_))
    · exact pow_lt_pow_right₀ (by norm_num) (by norm_num)
    · have hpowers : (2 : ℚ) ^ 970 < 2 ^ 1023 := pow_lt_pow_right₀ (by norm_num) (by norm_num)
      have hdouble : (2 : ℚ) ^ 1024 = 2 ^ 1023 + 2 ^ 1023 := by rw [pow_succ, mul_two]
      rw [hdouble, lt_sub_iff_add_lt]
      exact add_lt_add_right hpowers _
  · have hplace : place x = 971 := by
      rw [place_of_pos h]
      omega
    have htop : (2 : ℚ) ^ 1024 = ((2 ^ 53 : ℤ) : ℚ) * 2 ^ (971 : ℤ) := by
      rw [Int.cast_pow, Int.cast_ofNat, zpow_ofNat, ← pow_add]
    have hhalf : (2 : ℚ) ^ 1024 - 2 ^ 970 = (((2 ^ 53 : ℤ) : ℚ) - 1 / 2) * 2 ^ (971 : ℤ) := by
      have hplace : (1 / 2 : ℚ) * 2 ^ (971 : ℤ) = 2 ^ 970 := by
        rw [zpow_ofNat, pow_succ, mul_comm, mul_assoc, mul_one_div_cancel two_ne_zero, mul_one]
      rw [sub_mul, ← htop, hplace]
    rw [nearest, hplace, htop, mul_le_mul_iff_left₀ (two_zpow_pos _), Int.cast_le,
      le_roundToEven_iff (by norm_num), le_div_iff₀ (two_zpow_pos _), ← hhalf, ← htop]
  · have hpower : (2 : ℚ) ^ 1024 ≤ 2 ^ Int.log 2 x := by
      rw [← zpow_natCast]
      exact zpow_le_zpow_right₀ (by norm_num) hlarge
    refine iff_of_true (hpower.trans (zpow_log_le_nearest h (by omega))) ?_
    exact (sub_le_self _ (by positivity)).trans (hpower.trans (zpow_log_le h))

theorem ofRat_eq_zero_iff (h : 0 < x) : ofRat x = .finite 0 ↔ x ≤ 1 / 2 ^ 1075 := by
  rw [← nearest_eq_zero_iff h, ofRat]
  split
  next hlarge =>
    refine iff_of_false nofun fun hzero => ?_
    rw [hzero, abs_zero] at hlarge
    exact absurd hlarge (by norm_num)
  next => rw [finite.injEq]

theorem exists_ofRat_eq_finite_iff (h : 0 < x) :
    (∃ value, ofRat x = .finite value) ↔ x < 2 ^ 1024 - 2 ^ 970 := by
  rw [← not_le, ← le_nearest_iff h, ofRat, abs_of_nonneg (nearest_nonneg h.le)]
  split
  next hlarge => exact iff_of_false (by simp) (not_not.mpr hlarge)
  next hsmall => exact iff_of_true ⟨_, rfl⟩ hsmall

theorem nonneg_of_ofRat {value : ℚ} (h : 0 ≤ x) (hfinite : ofRat x = .finite value) :
    0 ≤ value := by
  rw [ofRat] at hfinite
  split at hfinite
  next => cases hfinite
  next =>
    cases hfinite
    exact nearest_nonneg h

end Range

theorem ofRat_zero : ofRat 0 = .finite 0 := by
  rw [ofRat, nearest_zero, if_neg (by norm_num)]

/-! ## Numbers of a range -/

theorem roundToEven_intCast (n : ℤ) : roundToEven n = n :=
  le_antisymm (roundToEven_le le_rfl) (le_roundToEven le_rfl)

theorem nearest_natCast {n : ℕ} (h : n < 2 ^ 53) : nearest n = n := by
  rcases Nat.eq_zero_or_pos n with rfl | hpos
  · rw [Nat.cast_zero, nearest_zero]
  have hcast : (0 : ℚ) < n := by exact_mod_cast hpos
  have hlog : Int.log 2 (n : ℚ) < 53 := by
    have hsmall : (n : ℚ) < 2 ^ (53 : ℤ) := by exact_mod_cast h
    exact (zpow_lt_zpow_iff_right₀ (by norm_num)).mp ((zpow_log_le hcast).trans_lt hsmall)
  have hplace : 0 ≤ -place (n : ℚ) := by
    rw [place_of_pos hcast]
    omega
  obtain ⟨k, hk⟩ := Int.eq_ofNat_of_zero_le hplace
  have hpower : (2 : ℚ) ^ place (n : ℚ) = (2 ^ k)⁻¹ := by
    rw [← zpow_natCast, ← hk, zpow_neg, inv_inv]
  have hinteger : (n : ℚ) * 2 ^ k = ((n * 2 ^ k : ℤ) : ℚ) := by push_cast; rfl
  rw [nearest, hpower, div_inv_eq_mul, hinteger, roundToEven_intCast, ← hinteger, mul_assoc,
    mul_inv_cancel₀ (by positivity), mul_one]

/-- The last place of the largest number of the range bounds all errors in it. -/
theorem rounds_nearest {M : ℚ} (hone : 1 ≤ M) (hM : M < 2 ^ 53) :
    RoundedSums.Rounds nearest M (M / 2 ^ 53) where
  nonneg := by positivity
  near x hx := by
    refine (abs_nearest_sub_le x).trans (max_le ?_ ?_)
    · exact div_le_div_of_nonneg_right hx (by positivity)
    · have hleast : (1 : ℚ) / 2 ^ 1075 ≤ 1 / 2 ^ 53 :=
        one_div_le_one_div_of_le (by positivity) (pow_le_pow_right₀ (by norm_num) (by norm_num))
      exact hleast.trans (div_le_div_of_nonneg_right hone (by positivity))
  natCast n hn := nearest_natCast (by exact_mod_cast hn.trans_lt hM)

end Binary64
