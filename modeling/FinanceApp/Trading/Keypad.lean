import FinanceApp.Lib.Binary64
import FinanceApp.Lib.Decimals
import FinanceApp.Lib.Machine
import FinanceApp.Persistence.FinanceAsset

/-!
# The keypad of the trading screen

A tap changes the text of the number of shares, and the credit is computed from what the
text denotes. Nothing keeps a second point out of it, nor a number that is too small or too
large for a `Double`.
-/

open Decimals

namespace FinanceApp

/-- `Double(text)`. The other texts that it reads have a sign or a letter, and none here
has. -/
def double (text : List Char) : Option Binary64 := (read text).map .ofRat

/-- The number that `Double(text)` rounds. The amounts are computed with it, in exact decimals. -/
def exactDouble (text : List Char) : Option ℚ := read text

structure ATCKeyboardKey where
  value : String
  displayValue : String
  deriving DecidableEq, Repr

def backArrowUnicode : String := "←"

def numericKeys : List ATCKeyboardKey :=
  [⟨"1", "1"⟩, ⟨"2", "2"⟩, ⟨"3", "3"⟩, ⟨"4", "4"⟩, ⟨"5", "5"⟩, ⟨"6", "6"⟩, ⟨"7", "7"⟩, ⟨"8", "8"⟩,
    ⟨"9", "9"⟩, ⟨".", "."⟩, ⟨"0", "0"⟩, ⟨backArrowUnicode, backArrowUnicode⟩]

/-- `text` is that of `numberTextField`, and `estCredit` the number in `estCreditLabel`. -/
structure AssetTradingViewController where
  asset : ATCFinanceAsset
  text : List Char := []
  estCredit : ℚ := 0
  tradeButtonAlpha : ℚ := 0

namespace AssetTradingViewController

variable (s : AssetTradingViewController)

/-! ## The methods -/

def currentCredit : ℚ :=
  let assetPrice := s.asset.price.toList.filter fun c => c ≠ '$'
  (exactDouble s.text).getD 0 * (exactDouble assetPrice).getD 0

def updateLabels : AssetTradingViewController :=
  { s with
    estCredit := s.currentCredit
    tradeButtonAlpha := if s.currentCredit = 0 then 0 else 1 }

def viewDidLoad (asset : ATCFinanceAsset) : AssetTradingViewController := updateLabels { asset }

def editText (key : ATCKeyboardKey) : List Char :=
  if key.value = backArrowUnicode then s.text.dropLast
  else if key.value ≠ "0" ∨ s.text.length > 0 then s.text ++ key.value.toList
  else s.text

def didTap (key : ATCKeyboardKey) : AssetTradingViewController :=
  updateLabels { s with text := s.editText key }

/-- A tap on one of the keys of the screen. -/
def step (key : ATCKeyboardKey) : Option (AssetTradingViewController × Unit) :=
  if key ∈ numericKeys then some (s.didTap key, ()) else none

def machine : Machine AssetTradingViewController ATCKeyboardKey Unit := ⟨step⟩

/-! ## What one tap does to the text -/

theorem numericKeys_cases {key : ATCKeyboardKey} (h : key ∈ numericKeys) :
    key.value = backArrowUnicode ∨
      ∃ c, key.value.toList = [c] ∧ key.value ≠ backArrowUnicode ∧ (c.isDigit = true ∨ c = '.') ∧
        (key.value = "0" ↔ c = '0') ∧ (key.value = "." ↔ c = '.') := by
  simp only [numericKeys, List.mem_cons, List.not_mem_nil, or_false] at h
  rcases h with rfl | rfl | rfl | rfl | rfl | rfl | rfl | rfl | rfl | rfl | rfl | rfl
  all_goals first
    | exact .inl rfl
    | exact .inr ⟨_, rfl, by decide, by decide, by decide, by decide⟩

theorem editText_cases {key : ATCKeyboardKey} (h : key ∈ numericKeys) :
    (key.value ≠ "." ∧ (s.editText key = s.text.dropLast ∨ s.editText key = s.text)) ∨
      ∃ c, (c.isDigit = true ∨ c = '.') ∧ (key.value = "." ↔ c = '.') ∧ (c = '0' → s.text ≠ []) ∧
        s.editText key = s.text ++ [c] := by
  unfold editText
  rcases numericKeys_cases h with hback | ⟨c, hvalue, hback, hchar, hzero, hpoint⟩
  · rw [if_pos hback, hback]
    exact .inl ⟨by decide, .inl rfl⟩
  · rw [if_neg hback, hvalue]
    split
    · next hkept =>
      refine .inr ⟨c, hchar, hpoint, fun hc => ?_, rfl⟩
      rcases hkept with hne | hlength
      · exact absurd (hzero.mpr hc) hne
      · exact List.length_pos_iff.mp hlength
    · next hdropped =>
      rw [not_or, not_not] at hdropped
      refine .inl ⟨?_, .inr rfl⟩
      rw [hdropped.1]
      decide

/-- The form of every text with at most one point. -/
structure Quantity (text : List Char) : Prop where
  chars : ∀ c ∈ text, c.isDigit = true ∨ c = '.'
  points : text.count '.' ≤ 1
  leading : text.head? ≠ some '0'

theorem Quantity.dropLast {text : List Char} (h : Quantity text) : Quantity text.dropLast := by
  have hsub := List.dropLast_sublist text
  refine ⟨fun c hc => h.chars c (hsub.subset hc), (hsub.count_le '.').trans h.points, ?_⟩
  cases text with
  | nil => exact h.leading
  | cons c rest =>
    cases rest with
    | nil => simp
    | cons c' rest => simpa using h.leading

theorem Quantity.concat {text : List Char} {c : Char} (h : Quantity text)
    (hchar : c.isDigit = true ∨ c = '.') (hpoint : c = '.' → '.' ∉ text)
    (hzero : c = '0' → text ≠ []) : Quantity (text ++ [c]) := by
  refine ⟨?_, ?_, ?_⟩
  · intro c' hc'
    rcases List.mem_append.mp hc' with hc' | hc'
    · exact h.chars c' hc'
    · rw [List.mem_singleton.mp hc']
      exact hchar
  · rw [List.count_append, List.count_singleton]
    by_cases hc : c = '.'
    · have hnone := List.count_eq_zero.mpr (hpoint hc)
      simp [hnone, hc]
    · simpa [hc] using h.points
  · cases text with
    | nil =>
      intro hhead
      exact hzero (by simpa using hhead) rfl
    | cons c' text => exact h.leading

theorem editText_quantity {key : ATCKeyboardKey} (h : key ∈ numericKeys) (hs : Quantity s.text)
    (hpoint : key.value = "." → '.' ∉ s.text) : Quantity (s.editText key) := by
  rcases s.editText_cases h with ⟨_, hedit | hedit⟩ | ⟨c, hchar, hkey, hzero, hedit⟩
  · rw [hedit]
    exact hs.dropLast
  · rw [hedit]
    exact hs
  · rw [hedit]
    exact hs.concat hchar (fun hc => hpoint (hkey.mpr hc)) hzero

/-! ## What the text denotes -/

/-- What the text counts for in the credit, rounded as `Double(text)` is. -/
def quantity (text : List Char) : Binary64 := (double text).getD (.finite 0)

/-- The text is that of a quantity that the credit can be computed from. -/
structure DenotesQuantity (text : List Char) : Prop where
  points : text.count '.' ≤ 1
  leading : text.head? ≠ some '0'
  number : text ≠ [] → text ≠ ['.'] → ∃ q, double text = some (.finite q) ∧ 0 ≤ q
  counts : (∃ c ∈ text, c.isDigit = true ∧ c ≠ '0') → quantity text ≠ .finite 0

/-- What the text denotes is neither too small nor too large for a `Double`. -/
def InRange (text : List Char) : Prop :=
  ∀ q, read text = some q → q ≠ 0 → 1 / 2 ^ 1075 < q ∧ q < 2 ^ 1024 - 2 ^ 970

theorem double_of_inRange {text : List Char} (h : InRange text) {d : Decimal}
    (htext : d.text = text) :
    ∃ q, double text = some (.finite q) ∧ 0 ≤ q ∧ (d.value ≠ 0 → q ≠ 0) := by
  have hread : read text = some d.value := htext ▸ read_text d
  rw [double, hread, Option.map_some]
  by_cases hzero : d.value = 0
  · rw [hzero, Binary64.ofRat_zero]
    exact ⟨0, rfl, le_rfl, fun hne => absurd rfl hne⟩
  · obtain ⟨hsmall, hlarge⟩ := h _ hread hzero
    have hpos : 0 < d.value := lt_of_le_of_ne d.value_nonneg (Ne.symm hzero)
    obtain ⟨q, hq⟩ := (Binary64.exists_ofRat_eq_finite_iff hpos).mpr hlarge
    refine ⟨q, congrArg some hq, Binary64.nonneg_of_ofRat hpos.le hq, fun _ => ?_⟩
    rintro rfl
    exact absurd ((Binary64.ofRat_eq_zero_iff hpos).mp hq) (not_le.mpr hsmall)

theorem Quantity.denotes {text : List Char} (h : Quantity text) (hrange : InRange text) :
    DenotesQuantity text := by
  have hdecimal : text ≠ [] → text ≠ ['.'] → ∃ d : Decimal, d.text = text :=
    exists_decimal h.chars h.points
  refine ⟨h.points, h.leading, ?_, ?_⟩
  · intro hne hpoint
    obtain ⟨d, htext⟩ := hdecimal hne hpoint
    obtain ⟨q, hdouble, hnonneg, -⟩ := double_of_inRange hrange htext
    exact ⟨q, hdouble, hnonneg⟩
  · rintro ⟨c, hc, hdigit, hzero⟩
    have hnot : c ≠ '.' := by
      rintro rfl
      exact absurd hdigit (by decide)
    obtain ⟨d, rfl⟩ := hdecimal (List.ne_nil_of_mem hc) (by
      rintro rfl
      exact hnot (List.mem_singleton.mp hc))
    obtain ⟨q, hdouble, -, hcounts⟩ := double_of_inRange hrange rfl
    rw [quantity, hdouble, Option.getD_some, ne_eq, Binary64.finite.injEq]
    exact hcounts (d.value_ne_zero hc hnot (digit_ne_zero hdigit hzero))

theorem DenotesQuantity.inRange {text : List Char} (h : DenotesQuantity text) : InRange text := by
  intro q hread hq
  obtain ⟨d, rfl, rfl⟩ := read_eq_some hread
  have hpos : 0 < d.value := lt_of_le_of_ne d.value_nonneg (Ne.symm hq)
  have hdigit := d.exists_of_value_ne_zero hq
  have hne : d.text ≠ [] := by
    obtain ⟨c, hc, -⟩ := hdigit
    exact List.ne_nil_of_mem hc
  have hpoint : d.text ≠ ['.'] := by
    obtain ⟨c, hc, hisDigit, -⟩ := hdigit
    intro heq
    rw [heq, List.mem_singleton] at hc
    rw [hc] at hisDigit
    exact absurd hisDigit (by decide)
  obtain ⟨value, hdouble, -⟩ := h.number hne hpoint
  have hcounts := h.counts hdigit
  rw [double, hread, Option.map_some, Option.some.injEq] at hdouble
  rw [quantity, double, hread, Option.map_some, Option.getD_some, ne_eq,
    Binary64.ofRat_eq_zero_iff hpos] at hcounts
  exact ⟨not_le.mp hcounts, (Binary64.exists_ofRat_eq_finite_iff hpos).mp ⟨value, hdouble⟩⟩

/-! ## Runs -/

def TextDenotes (_ : AssetTradingViewController) (_ : ATCKeyboardKey)
    (s' : AssetTradingViewController) (_ : Unit) : Prop := DenotesQuantity s'.text

/-- The point is not tapped while the text has one, and no key makes it denote what a
`Double` does not reach. -/
structure TapFits (s : AssetTradingViewController) (key : ATCKeyboardKey)
    (_ : AssetTradingViewController) (_ : Unit) : Prop where
  points : key.value = "." → '.' ∉ s.text
  range : key.value ≠ backArrowUnicode → InRange (s.text ++ key.value.toList)

/-- What the back arrow brings back is in range as well. -/
def StaysInRange (text : List Char) : Prop := ∀ shorter, shorter <+: text → InRange shorter

theorem step_eq_some {s s' : AssetTradingViewController} {key : ATCKeyboardKey} {e : Unit}
    (h : machine.step s key = some (s', e)) : key ∈ numericKeys ∧ s' = s.didTap key := by
  simp only [machine, step] at h
  split at h
  · next hkey => exact ⟨hkey, (Prod.mk.inj (Option.some.inj h)).1.symm⟩
  · simp at h

theorem inRange_zero : InRange ['0'] := by
  rintro q ⟨⟩ hq
  exact absurd rfl hq

theorem editText_staysInRange {key : ATCKeyboardKey} (h : key ∈ numericKeys)
    (hs : StaysInRange s.text)
    (hrange : key.value ≠ backArrowUnicode → InRange (s.text ++ key.value.toList)) :
    StaysInRange (s.editText key) := by
  unfold editText
  rcases numericKeys_cases h with hback | ⟨c, hvalue, hback, _⟩
  · rw [if_pos hback]
    exact fun shorter hbegins => hs shorter (hbegins.trans (List.dropLast_prefix _))
  · rw [if_neg hback]
    split
    · intro shorter hbegins
      rw [hvalue, List.prefix_concat_iff] at hbegins
      rcases hbegins with rfl | hbegins
      · rw [← hvalue]
        exact hrange hback
      · exact hs shorter hbegins
    · exact hs

theorem inRange_of_editText {key : ATCKeyboardKey} (h : InRange (s.editText key))
    (hback : key.value ≠ backArrowUnicode) : InRange (s.text ++ key.value.toList) := by
  rw [editText, if_neg hback] at h
  split at h
  next => exact h
  next hdropped =>
    -- A leading zero is not added, and would be in range too.
    rw [not_or, not_not, not_lt, Nat.le_zero, List.length_eq_zero_iff] at hdropped
    rw [hdropped.1, hdropped.2]
    exact inRange_zero

/-- **The text denotes a quantity as long as** no second point is tapped and it stays in the
range of a `Double`, over every run of taps on the numeric keys. -/
theorem text_denotes_iff (asset : ATCFinanceAsset) (keys : List ATCKeyboardKey) :
    machine.Always TextDenotes (viewDidLoad asset) keys ↔
      machine.Always TapFits (viewDidLoad asset) keys := by
  refine machine.always_congr_until (I := fun s => Quantity s.text ∧ StaysInRange s.text)
    ⟨⟨by rintro _ ⟨⟩, Nat.zero_le _, nofun⟩, ?_⟩ ?_ ?_
  · intro shorter hbegins q hread
    rw [List.prefix_nil.mp hbegins] at hread
    exact absurd hread (by simp [Decimals.read])
  · rintro s key s' e ⟨hs, hreach⟩ h hfits
    obtain ⟨hkey, rfl⟩ := step_eq_some h
    exact ⟨s.editText_quantity hkey hs hfits.points,
      s.editText_staysInRange hkey hreach hfits.range⟩
  · rintro s key s' e ⟨hs, hreach⟩ h
    obtain ⟨hkey, rfl⟩ := step_eq_some h
    constructor
    · intro hdenotes
      refine ⟨fun hpoint hmem => ?_, s.inRange_of_editText hdenotes.inRange⟩
      rcases s.editText_cases hkey with ⟨hnot, _⟩ | ⟨c, _, hc, _, hedit⟩
      · exact hnot hpoint
      · -- The text before had a point, and has another one now.
        have htwo : (s.didTap key).text = s.text ++ ['.'] := by
          rw [← hc.mp hpoint]
          exact hedit
        have hpoints := hdenotes.points
        have hone := List.count_pos_iff.mpr hmem
        rw [htwo, List.count_append, List.count_singleton_self] at hpoints
        omega
    · intro hfits
      exact (s.editText_quantity hkey hs hfits.points).denotes
        (s.editText_staysInRange hkey hreach hfits.range _ List.prefix_rfl)

end AssetTradingViewController

def netflix (price : String) : ATCFinanceAsset where
  title := "Netflix"
  ticker := "NFLX"
  priceChange := "1.43%"
  isPositive := true
  price := price
  color := "#ffffff"
  logoURL := ""

theorem two_points_tapped :
    ¬ ∀ (asset : ATCFinanceAsset) (keys : List ATCKeyboardKey),
      AssetTradingViewController.machine.Always AssetTradingViewController.TextDenotes
        (.viewDidLoad asset) keys := by
  intro hall
  have hdenotes := hall (netflix "$180") [⟨"1", "1"⟩, ⟨".", "."⟩, ⟨".", "."⟩]
    [⟨"1", "1"⟩, ⟨".", "."⟩] ⟨".", "."⟩ [] _ _ _ _ rfl rfl rfl
  exact absurd hdenotes.points (by decide)

end FinanceApp
