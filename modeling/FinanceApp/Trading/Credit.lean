import FinanceApp.Trading.Keypad

/-!
# The estimated credit

The credit is the product of two texts read as numbers, and what cannot be read counts as
0. A price with commas is one that cannot.
-/

open Decimals

namespace FinanceApp

/-- A price in the money format of the app: the digits before its first comma, those between
commas, and those after its point. -/
structure Money where
  first : List Char
  thousands : List (List Char)
  decimals : Option (List Char)
  isDigit : ∀ c ∈ first ++ thousands.flatten ++ decimals.getD [], c.isDigit = true
  nonempty : first ≠ []
  three : ∀ group ∈ thousands, group.length = 3

namespace Money

variable (price : Money)

/-- Without the commas. -/
def decimal : Decimal where
  integer := price.first ++ price.thousands.flatten
  fraction := price.decimals
  isDigit := price.isDigit
  nonempty := by simp [price.nonempty]

def value : ℚ := price.decimal.value

/-- What comes after the currency sign. -/
def amount : List Char :=
  let integer := price.first ++ (price.thousands.map fun group => ',' :: group).flatten
  match price.decimals with
  | some decimals => integer ++ '.' :: decimals
  | none => integer

def text : List Char := '$' :: price.amount

theorem amount_of_no_thousands (h : price.thousands = []) : price.amount = price.decimal.text := by
  simp only [amount, Decimal.text, decimal, h]
  cases price.decimals <;> simp

theorem comma_mem_amount (h : price.thousands ≠ []) : ',' ∈ price.amount := by
  obtain ⟨group, rest, hgroups⟩ := List.exists_cons_of_ne_nil h
  unfold amount
  cases price.decimals <;> simp [hgroups]

theorem exactDouble_amount :
    exactDouble price.amount = if price.thousands = [] then some price.value else none := by
  split
  · next h =>
    rw [price.amount_of_no_thousands h]
    exact read_text price.decimal
  · next h => exact read_eq_none (price.comma_mem_amount h) (by decide) (by decide)

theorem mem_amount {c : Char} (h : c ∈ price.amount) : c.isDigit = true ∨ c = '.' ∨ c = ',' := by
  have hinteger : ∀ c ∈ price.first ++ (price.thousands.map fun group => ',' :: group).flatten,
      c.isDigit = true ∨ c = '.' ∨ c = ',' := by
    intro c hc
    rcases List.mem_append.mp hc with hc | hc
    · exact .inl (price.isDigit c (by simp [hc]))
    · obtain ⟨_, hmap, hc⟩ := List.mem_flatten.mp hc
      obtain ⟨group, hgroup, rfl⟩ := List.mem_map.mp hmap
      rcases List.mem_cons.mp hc with rfl | hc
      · exact .inr (.inr rfl)
      · have hmem : c ∈ price.thousands.flatten := List.mem_flatten.mpr ⟨group, hgroup, hc⟩
        exact .inl (price.isDigit c (by simp [hmem]))
  unfold amount at h
  cases hdecimals : price.decimals with
  | none =>
    rw [hdecimals] at h
    exact hinteger c h
  | some decimals =>
    rw [hdecimals] at h
    rcases List.mem_append.mp h with h | h
    · exact hinteger c h
    · rcases List.mem_cons.mp h with rfl | h
      · exact .inr (.inl rfl)
      · exact .inl (price.isDigit c (by simp [hdecimals, h]))

theorem filter_text : (price.text.filter fun c => c ≠ '$') = price.amount := by
  rw [text, List.filter_cons_of_neg (by simp), List.filter_eq_self]
  intro c hc
  rcases price.mem_amount hc with hdigit | rfl | rfl
  · rw [decide_eq_true_eq]
    rintro rfl
    exact absurd hdigit (by decide)
  · rfl
  · rfl

end Money

namespace AssetTradingViewController

/-- The label and the button are what the text and the price say. -/
structure Updated (asset : ATCFinanceAsset) (s : AssetTradingViewController) : Prop where
  asset : s.asset = asset
  estCredit : s.estCredit = s.currentCredit
  alpha : s.tradeButtonAlpha = if s.currentCredit = 0 then 0 else 1

theorem step_updated {asset : ATCFinanceAsset} {s s' : AssetTradingViewController}
    {key : ATCKeyboardKey} {e : Unit} (hs : Updated asset s)
    (h : machine.step s key = some (s', e)) : Updated asset s' := by
  obtain ⟨_, rfl⟩ := step_eq_some h
  exact ⟨hs.asset, rfl, rfl⟩

/-- **The credit is the product, and the button shows when it is not 0, exactly when** the
price has no commas or the product is 0. -/
theorem credit_iff {asset : ATCFinanceAsset} {keys : List ATCKeyboardKey}
    {s : AssetTradingViewController} {log : List Unit} {quantity : Decimal} {price : Money}
    (hprice : asset.price.toList = price.text)
    (hrun : machine.run (viewDidLoad asset) keys = some (s, log))
    (hquantity : s.text = quantity.text) :
    (s.estCredit = quantity.value * price.value ∧
        (s.tradeButtonAlpha ≠ 0 ↔ quantity.value * price.value ≠ 0)) ↔
      price.thousands = [] ∨ quantity.value = 0 ∨ price.value = 0 := by
  obtain ⟨rfl, hcredit, halpha⟩ := machine.run_invariant step_updated ⟨rfl, rfl, rfl⟩ hrun
  have hread : exactDouble s.text = some quantity.value := by
    rw [hquantity]
    exact read_text quantity
  have hcurrent : s.currentCredit =
      if price.thousands = [] then quantity.value * price.value else 0 := by
    simp only [currentCredit, hprice, price.filter_text, price.exactDouble_amount, hread,
      Option.getD_some]
    split <;> simp
  rw [hcredit, halpha, hcurrent, ← mul_eq_zero]
  split
  · next h => simp [h]
  · next h =>
    simp only [h, false_or, if_true, ne_eq, not_true_eq_false, false_iff, not_not]
    constructor
    · exact fun hboth => hboth.2
    · exact fun hzero => ⟨hzero.symm, hzero⟩

end AssetTradingViewController

theorem credit_iff_netflix :
    ∃ (s : AssetTradingViewController) (log : List Unit) (quantity : Decimal) (price : Money),
      (netflix "$180").price.toList = price.text ∧
      AssetTradingViewController.machine.run (.viewDidLoad (netflix "$180"))
        [⟨"2", "2"⟩, ⟨".", "."⟩, ⟨"5", "5"⟩] = some (s, log) ∧
      s.text = quantity.text ∧
      ((s.estCredit = quantity.value * price.value ∧
          (s.tradeButtonAlpha ≠ 0 ↔ quantity.value * price.value ≠ 0)) ↔
        price.thousands = [] ∨ quantity.value = 0 ∨ price.value = 0) := by
  have hprice : (netflix "$180").price.toList =
      (⟨['1', '8', '0'], [], none, by simp, by simp, by simp⟩ : Money).text := by decide
  have hrun : (AssetTradingViewController.machine.run (.viewDidLoad (netflix "$180"))
      [⟨"2", "2"⟩, ⟨".", "."⟩, ⟨"5", "5"⟩]).map (·.1.text) = some ['2', '.', '5'] := rfl
  obtain ⟨⟨s, log⟩, h, htext⟩ := Option.map_eq_some_iff.mp hrun
  have hquantity : s.text = (⟨['2'], some ['5'], by simp, by simp⟩ : Decimal).text := htext
  exact ⟨s, log, _, _, hprice, h, hquantity,
    AssetTradingViewController.credit_iff hprice h hquantity⟩

theorem price_with_comma_counts_as_zero :
    ¬ ∀ (asset : ATCFinanceAsset) (keys : List ATCKeyboardKey) (s : AssetTradingViewController)
      (log : List Unit) (quantity : Decimal) (price : Money),
      asset.price.toList = price.text →
        AssetTradingViewController.machine.run (.viewDidLoad asset) keys = some (s, log) →
        s.text = quantity.text →
        s.estCredit = quantity.value * price.value ∧
          (s.tradeButtonAlpha ≠ 0 ↔ quantity.value * price.value ≠ 0) := by
  intro hall
  have hprice : (netflix "$12,030").price.toList =
      (⟨['1', '2'], [['0', '3', '0']], none, by simp, by simp, by simp⟩ : Money).text := by
    decide
  have hrun : (AssetTradingViewController.machine.run (.viewDidLoad (netflix "$12,030"))
      [⟨"1", "1"⟩]).map (fun r => (r.1.text, r.1.estCredit)) = some (['1'], 0) := by
    decide +kernel
  obtain ⟨⟨s, log⟩, h, hs⟩ := Option.map_eq_some_iff.mp hrun
  obtain ⟨htext, hcredit⟩ := Prod.mk.inj hs
  have hquantity : s.text = (⟨['1'], none, by simp, by simp⟩ : Decimal).text := htext
  have hproduct := (hall _ _ s log _ _ hprice h hquantity).1
  rw [hcredit] at hproduct
  exact absurd hproduct (by decide +kernel)

end FinanceApp
