import FinanceApp.Lib.Hexadecimals
import FinanceApp.LiquidLayout.Prepare
import Mathlib.Data.List.DropRight
import Mathlib.Data.Rat.Defs
import Mathlib.Tactic.FieldSimp

/-!
# Colors as strings

A color is read from a string with a number in hexadecimal digits, whose last 24 bits are
the channels, and written with six digits.
-/

namespace FinanceApp

/-- The characters that a scanner skips and that are trimmed. -/
def isWhitespaceOrNewline (c : Char) : Bool :=
  (9 ≤ c.toNat ∧ c.toNat ≤ 13) ∨ (0x2000 ≤ c.toNat ∧ c.toNat ≤ 0x200A) ∨
    c.toNat ∈ [0x20, 0x85, 0xA0, 0x1680, 0x2028, 0x2029, 0x202F, 0x205F, 0x3000]

def trimmingWhitespace (text : List Char) : List Char :=
  (text.dropWhile isWhitespaceOrNewline).rdropWhile isWhitespaceOrNewline

/-- Zero where there is no digit, and the largest number on an overflow. -/
def scanHexInt32 (text : List Char) : Nat :=
  let digits :=
    match text.dropWhile isWhitespaceOrNewline with
    | '0' :: 'x' :: rest | '0' :: 'X' :: rest => rest
    | rest => rest
  min (Hexadecimals.read (digits.takeWhile Hexadecimals.isDigit)) (2 ^ 32 - 1)

structure UIColor where
  red : ℚ
  green : ℚ
  blue : ℚ
  alpha : ℚ
  deriving DecidableEq, Repr

namespace UIColor

def init (hexString : String) (alpha : ℚ := 1) : UIColor :=
  let hexString := trimmingWhitespace hexString.toList
  let color := scanHexInt32 (if hexString.head? = some '#' then hexString.tail else hexString)
  let mask := 0x000000FF
  let r := color >>> 16 &&& mask
  let g := color >>> 8 &&& mask
  let b := color &&& mask
  { red := r / 255, green := g / 255, blue := b / 255, alpha }

/-- `Int` of a component times 255 drops the fraction. -/
def channel (component : ℚ) : BitVec 64 :=
  BitVec.ofInt 64 (truncate (component * 255))

def toHexString (color : UIColor) : String :=
  let rgb := channel color.red <<< 16 ||| channel color.green <<< 8 ||| channel color.blue
  String.ofList ('#' :: (Nat.toDigits 16 (rgb.setWidth 32).toNat).leftpad 6 '0')

/-! ## Channels -/

/-- The color of a 24 bit number. -/
def ofNumber (n : Nat) (alpha : ℚ) : UIColor :=
  { red := (n / 65536 % 256 : Nat) / 255
    green := (n / 256 % 256 : Nat) / 255
    blue := (n % 256 : Nat) / 255
    alpha }

theorem init_eq (hexString : String) (alpha : ℚ) :
    init hexString alpha =
      ofNumber (scanHexInt32 (if (trimmingWhitespace hexString.toList).head? = some '#' then
        (trimmingWhitespace hexString.toList).tail else trimmingWhitespace hexString.toList))
        alpha := by
  have hmask : ∀ n : Nat, n &&& 255 = n % 256 := fun n => Nat.and_two_pow_sub_one_eq_mod n 8
  simp only [init, ofNumber, Nat.shiftRight_eq_div_pow, hmask]

theorem ofNumber_mod (n : Nat) (alpha : ℚ) : ofNumber (n % 16 ^ 6) alpha = ofNumber n alpha := by
  have hred : n % 16777216 / 65536 % 256 = n / 65536 % 256 := by omega
  have hgreen : n % 16777216 / 256 % 256 = n / 256 % 256 := by omega
  have hblue : n % 16777216 % 256 = n % 256 := by omega
  simp only [ofNumber, show 16 ^ 6 = 16777216 from rfl, hred, hgreen, hblue]

theorem channel_natCast (n : Nat) : channel (n / 255) = BitVec.ofNat 64 n := by
  rw [channel, div_mul_cancel₀ _ (by norm_num), truncate_eq_floor (Nat.cast_nonneg n),
    Int.floor_natCast, BitVec.ofInt_natCast]

theorem toNat_channels {r g b : Nat} (hr : r < 256) (hg : g < 256) (hb : b < 256) :
    ((BitVec.ofNat 64 r <<< 16 ||| BitVec.ofNat 64 g <<< 8 ||| BitVec.ofNat 64 b).setWidth
      32).toNat = r * 65536 + g * 256 + b := by
  have hlow : g <<< 8 ||| b = g * 256 + b := by
    rw [← Nat.shiftLeft_add_eq_or_of_lt (by omega : b < 2 ^ 8), Nat.shiftLeft_eq]
  have hall : r <<< 16 ||| (g * 256 + b) = r * 65536 + (g * 256 + b) := by
    rw [← Nat.shiftLeft_add_eq_or_of_lt (by omega : g * 256 + b < 2 ^ 16), Nat.shiftLeft_eq]
  have hred : r <<< 16 % 2 ^ 64 = r <<< 16 := by
    rw [Nat.shiftLeft_eq]
    omega
  have hgreen : g <<< 8 % 2 ^ 64 = g <<< 8 := by
    rw [Nat.shiftLeft_eq]
    omega
  simp only [BitVec.toNat_setWidth, BitVec.toNat_or, BitVec.toNat_shiftLeft, BitVec.toNat_ofNat]
  rw [Nat.mod_eq_of_lt (by omega : r < 2 ^ 64), Nat.mod_eq_of_lt (by omega : g < 2 ^ 64),
    Nat.mod_eq_of_lt (by omega : b < 2 ^ 64), hred, hgreen, Nat.or_assoc, hlow, hall,
    Nat.mod_eq_of_lt (by omega), Nat.add_assoc]

theorem toHexString_ofNumber (n : Nat) (alpha : ℚ) :
    (ofNumber n alpha).toHexString = String.ofList ('#' :: Hexadecimals.write 6 n) := by
  have hnumber : n / 65536 % 256 * 65536 + n / 256 % 256 * 256 + n % 256 = n % 16 ^ 6 := by omega
  rw [toHexString, ofNumber, channel_natCast, channel_natCast, channel_natCast,
    toNat_channels (Nat.mod_lt _ (by decide)) (Nat.mod_lt _ (by decide)) (Nat.mod_lt _ (by decide)),
    hnumber, Hexadecimals.leftpad_toDigits (by decide) (Nat.mod_lt _ (by decide)),
    Hexadecimals.write_mod]

/-! ## Strings -/

theorem not_whitespace {c : Char} (h : Hexadecimals.isDigit c = true) :
    isWhitespaceOrNewline c = false := by
  have hall : Hexadecimals.characters.all fun c => !isWhitespaceOrNewline c := by decide
  exact Bool.not_eq_true' _ ▸ List.all_eq_true.mp hall c (Hexadecimals.mem_characters h)

theorem dropWhile_of_none {text : List Char}
    (h : ∀ c ∈ text, isWhitespaceOrNewline c = false) :
    text.dropWhile isWhitespaceOrNewline = text := by
  cases text with
  | nil => rfl
  | cons c cs => exact List.dropWhile_cons_of_neg (by simp [h c List.mem_cons_self])

theorem trimmingWhitespace_eq {before text after : List Char}
    (hbefore : ∀ c ∈ before, isWhitespaceOrNewline c = true)
    (htext : ∀ c ∈ text, isWhitespaceOrNewline c = false)
    (hafter : ∀ c ∈ after, isWhitespaceOrNewline c = true) :
    trimmingWhitespace (before ++ text ++ after) = text := by
  have hend : (text ++ after).rdropWhile isWhitespaceOrNewline = text := by
    rw [List.rdropWhile, List.reverse_append, List.dropWhile_append_of_pos (by simpa using hafter),
      dropWhile_of_none (by simpa using htext), List.reverse_reverse]
  rw [trimmingWhitespace, List.append_assoc, List.dropWhile_append_of_pos hbefore]
  cases text with
  | nil =>
    rw [List.nil_append, List.dropWhile_eq_nil_iff.mpr hafter]
    rfl
  | cons c cs =>
    rw [List.cons_append, List.dropWhile_cons_of_neg (by simp [htext c List.mem_cons_self])]
    exact hend

theorem scanHexInt32_digits {digits : List Char}
    (h : ∀ c ∈ digits, Hexadecimals.isDigit c = true) :
    scanHexInt32 digits = min (Hexadecimals.read digits) (2 ^ 32 - 1) := by
  have hskip := dropWhile_of_none fun c hc => not_whitespace (h c hc)
  have hall : digits.takeWhile Hexadecimals.isDigit = digits := List.takeWhile_eq_self_iff.mpr h
  rw [scanHexInt32, hskip]
  split
  next rest =>
    have hx := h 'x' (by simp)
    exact absurd hx (by decide)
  next rest =>
    have hx := h 'X' (by simp)
    exact absurd hx (by decide)
  next => rw [hall]

theorem init_digits {before marker digits after : List Char}
    (hbefore : ∀ c ∈ before, isWhitespaceOrNewline c = true)
    (hmarker : marker = [] ∨ marker = ['#'])
    (hdigits : ∀ c ∈ digits, Hexadecimals.isDigit c = true)
    (hafter : ∀ c ∈ after, isWhitespaceOrNewline c = true) (alpha : ℚ) :
    init (String.ofList (before ++ (marker ++ digits) ++ after)) alpha =
      ofNumber (min (Hexadecimals.read digits) (2 ^ 32 - 1)) alpha := by
  have hsharp : isWhitespaceOrNewline '#' = false := by decide
  have htext : ∀ c ∈ marker ++ digits, isWhitespaceOrNewline c = false := by
    intro c hc
    rcases List.mem_append.mp hc with hc | hc
    · rcases hmarker with rfl | rfl
      · exact absurd hc (by simp)
      · rwa [List.mem_singleton.mp hc]
    · exact not_whitespace (hdigits c hc)
  rw [init_eq, String.toList_ofList, trimmingWhitespace_eq hbefore htext hafter]
  congr 1
  rcases hmarker with rfl | rfl
  · have hhead : ([] ++ digits).head? ≠ some '#' := by
      intro hhead
      have hdigit := hdigits '#' (List.mem_of_mem_head? hhead)
      exact absurd hdigit (by decide)
    rw [if_neg hhead, List.nil_append, scanHexInt32_digits hdigits]
  · exact scanHexInt32_digits hdigits

/-- **A color that is written is read back**, from whatever string it was made. -/
theorem init_toHexString (hexString : String) (alpha : ℚ) :
    init (init hexString alpha).toHexString alpha = init hexString alpha := by
  rw [init_eq hexString]
  generalize scanHexInt32 _ = n
  have hsmall : Hexadecimals.read (Hexadecimals.write 6 n) < 16 ^ 6 := by
    rw [Hexadecimals.read_write]
    exact Nat.mod_lt _ (by decide)
  have hread := init_digits (fun c (hc : c ∈ []) => absurd hc (by simp)) (Or.inr rfl)
    (Hexadecimals.isDigit_write : ∀ c ∈ Hexadecimals.write 6 n, _)
    (fun c (hc : c ∈ []) => absurd hc (by simp)) alpha
  rw [min_eq_left (by omega), Hexadecimals.read_write, ofNumber_mod, List.append_nil] at hread
  rw [toHexString_ofNumber]
  exact hread

/-- **Strings of digits are brought to one form**: in white space or not, with or without the
sign, in whatever case and of whatever length, the last six digits are left, with zeros in
front and in lower case. Only where more than eight digits count, the color is white. -/
theorem toHexString_init {before marker digits after : List Char}
    (hbefore : ∀ c ∈ before, isWhitespaceOrNewline c = true)
    (hmarker : marker = [] ∨ marker = ['#'])
    (hdigits : ∀ c ∈ digits, Hexadecimals.isDigit c = true)
    (hafter : ∀ c ∈ after, isWhitespaceOrNewline c = true) (alpha : ℚ) :
    (init (String.ofList (before ++ (marker ++ digits) ++ after)) alpha).toHexString =
      String.ofList ('#' ::
        if (digits.dropWhile (· = '0')).length ≤ 8 then
          (List.replicate 6 '0' ++ digits.map Hexadecimals.lower).drop digits.length
        else List.replicate 6 'f') := by
  rw [init_digits hbefore hmarker hdigits hafter, toHexString_ofNumber]
  have hcount := Hexadecimals.read_lt_iff hdigits 8
  split
  next hle =>
    have hlt := hcount.mpr hle
    rw [min_eq_left (by omega), Hexadecimals.write_read hdigits]
  next hgt =>
    have hge := mt hcount.mp hgt
    rw [min_eq_right (by omega)]
    rfl

theorem toHexString_shorthand :
    (init (String.ofList ([' '] ++ (['#'] ++ ['A', 'b', '5']) ++ ['\n'])) 1).toHexString =
      String.ofList ('#' ::
        if (['A', 'b', '5'].dropWhile (· = '0')).length ≤ 8 then
          (List.replicate 6 '0' ++ ['A', 'b', '5'].map Hexadecimals.lower).drop
            ['A', 'b', '5'].length
        else List.replicate 6 'f') :=
  toHexString_init (List.all_eq_true.mp (by decide)) (Or.inr rfl)
    (List.all_eq_true.mp (by decide)) (List.all_eq_true.mp (by decide)) 1

end UIColor

end FinanceApp
