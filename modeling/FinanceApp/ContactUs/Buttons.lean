import FinanceApp.LiquidLayout.Geometry
import Mathlib.Algebra.Order.Floor.Semifield

/-!
# The buttons of the contact screen

`layoutSocialMediaButtons` gives frames to the buttons that fit into a row. Its spacing
keeps room for one button more, so unless enough is left over, it is negative and the row
begins before its view.
-/

namespace FinanceApp

inductive ButtonTrap where
  | tooLarge
  | negativeRange
  | indexOutOfRange
  | divisionByZero
  deriving DecidableEq, Repr

def preferredBtnWidth : Int := 40

def noOfRenderedBtns (totalWidth : Int) (count : Nat) : Int :=
  min (totalWidth.tdiv preferredBtnWidth) count

def buttonSpacing (totalWidth noOfRenderedBtns : Int) : Int :=
  (totalWidth - (noOfRenderedBtns + 1) * preferredBtnWidth).tdiv noOfRenderedBtns

/-- The body of the loop. The buttons are their frames. -/
def layoutButton (totalWidth noOfRenderedBtns : Int) (socialMediaButtons : List CGRect)
    (index : Nat) : Except ButtonTrap (List CGRect) :=
  if index < socialMediaButtons.length then
    if noOfRenderedBtns = 0 then .error .divisionByZero
    else
      let spacing := buttonSpacing totalWidth noOfRenderedBtns
      .ok (socialMediaButtons.set index
        { x := ((index + 1) * spacing + index * preferredBtnWidth : Int)
          y := 0
          width := preferredBtnWidth
          height := preferredBtnWidth })
  else .error .indexOutOfRange

/-- `width` is that of the bounds of `socialMediaView`. `Int` of it traps from 2 ^ 63 on. -/
def layoutSocialMediaButtons (width : ℚ) (socialMediaButtons : List CGRect) :
    Except ButtonTrap (List CGRect) :=
  if 2 ^ 63 ≤ width then .error .tooLarge
  else
    let totalWidth := truncate width
    let noOfRenderedBtns := noOfRenderedBtns totalWidth socialMediaButtons.length
    if noOfRenderedBtns < 0 then .error .negativeRange
    else
      (List.range noOfRenderedBtns.toNat).foldlM (layoutButton totalWidth noOfRenderedBtns)
        socialMediaButtons

/-! ## The loop in closed form -/

def buttonFrame (spacing : Int) (index : Nat) : CGRect where
  x := Columns.left 40 (spacing : ℚ) index
  y := 0
  width := 40
  height := 40

theorem layoutButton_ok {totalWidth n : Int} {frames : List CGRect} {index : Nat} (hn : n ≠ 0)
    (hindex : index < frames.length) :
    layoutButton totalWidth n frames index =
      .ok (frames.set index (buttonFrame (buttonSpacing totalWidth n) index)) := by
  have hx : (((index + 1) * buttonSpacing totalWidth n + index * 40 : Int) : ℚ) =
      Columns.left 40 (buttonSpacing totalWidth n : ℚ) index := by
    rw [Columns.left]
    push_cast
    ring
  simp only [layoutButton, if_pos hindex, if_neg hn, preferredBtnWidth, hx, buttonFrame]
  rfl

theorem foldlM_layoutButton {totalWidth n : Int} {frames : List CGRect} (hn : n ≠ 0) (k : Nat)
    (hk : k ≤ frames.length) :
    (List.range k).foldlM (layoutButton totalWidth n) frames =
      .ok ((List.range k).map (buttonFrame (buttonSpacing totalWidth n)) ++ frames.drop k) := by
  induction k with
  | zero => rfl
  | succ k ih =>
    rw [List.range_succ, List.foldlM_append, ih (by omega)]
    have hset : (frames.drop k).set 0 (buttonFrame (buttonSpacing totalWidth n) k) =
        buttonFrame (buttonSpacing totalWidth n) k :: frames.drop (k + 1) := by
      rw [List.drop_eq_getElem_cons hk, List.set_cons_zero]
    show (List.foldlM _ _ [k] : Except ButtonTrap (List CGRect)) = _
    rw [List.foldlM_cons, layoutButton_ok hn (by simp; omega),
      List.set_append_right _ _ (by simp), List.length_map, List.length_range, Nat.sub_self, hset,
      List.map_append, List.append_assoc]
    rfl

/-! ## The buttons that fit -/

/-- As many as fit into the width. -/
def fittingBtns (width : ℚ) (count : Nat) : Nat := min ⌊width / 40⌋₊ count

/-- The first buttons stand next to each other inside the view, as many as fit, and the
others keep their frames. -/
structure LaysOut (width : ℚ) (before after : List CGRect) : Prop where
  length : after.length = before.length
  others : after.drop (fittingBtns width before.length) =
    before.drop (fittingBtns width before.length)
  widths : ∀ f ∈ after.take (fittingBtns width before.length), f.width = 40
  disjoint : (after.take (fittingBtns width before.length)).Pairwise fun f g =>
    Disjoint f.interior g.interior
  inside : ∀ f ∈ after.take (fittingBtns width before.length), 0 ≤ f.x ∧ f.x + f.width ≤ width

/-- There is no button to lay out, or nearly a button's width is left over. -/
def RoomLeft (width : ℚ) (count : Nat) : Prop :=
  fittingBtns width count = 0 ∨ 39 * fittingBtns width count + 40 < ⌊width⌋₊

theorem truncate_width {width : ℚ} (hwidth : 0 ≤ width) : truncate width = (⌊width⌋₊ : Int) := by
  rw [truncate_eq_floor hwidth, Int.natCast_floor_eq_floor hwidth]

theorem noOfRenderedBtns_eq (width : ℚ) (count : Nat) :
    noOfRenderedBtns ⌊width⌋₊ count = (fittingBtns width count : Int) := by
  rw [noOfRenderedBtns, fittingBtns, Nat.floor_div_ofNat, preferredBtnWidth,
    Int.tdiv_eq_ediv_of_nonneg (Int.natCast_nonneg _)]
  push_cast
  rfl

theorem fittingBtns_le (width : ℚ) (count : Nat) : 40 * fittingBtns width count ≤ ⌊width⌋₊ := by
  have hfit : fittingBtns width count ≤ ⌊width⌋₊ / 40 := by
    rw [fittingBtns, Nat.floor_div_ofNat]
    exact Nat.min_le_left _ _
  omega

/-! ## The spacing -/

theorem buttonSpacing_of_neg {totalWidth n : Int} (h : totalWidth < (n + 1) * 40) :
    buttonSpacing totalWidth n = -(((n + 1) * 40 - totalWidth) / n) := by
  rw [buttonSpacing, preferredBtnWidth, ← Int.neg_sub, Int.neg_tdiv,
    Int.tdiv_eq_ediv_of_nonneg (by omega)]

theorem buttonSpacing_nonneg_iff {totalWidth n : Nat} (hn : 0 < n) :
    0 ≤ buttonSpacing totalWidth n ↔ 39 * n + 40 < totalWidth := by
  have hpos : (0 : Int) < n := by omega
  rcases le_or_gt (((n : Int) + 1) * 40) totalWidth with h | h
  · have hspacing : 0 ≤ buttonSpacing totalWidth n :=
      Int.tdiv_nonneg (by unfold preferredBtnWidth; omega) hpos.le
    exact iff_of_true hspacing (by omega)
  · have hquotient : 0 ≤ -((((n : Int) + 1) * 40 - totalWidth) / n) ↔
        (((n : Int) + 1) * 40 - totalWidth) / n < 1 := by omega
    rw [buttonSpacing_of_neg h, hquotient, Int.ediv_lt_iff_lt_mul hpos]
    omega

theorem buttons_width_le {totalWidth n : Nat} (hn : 0 < n) (hfit : 40 * n ≤ totalWidth) :
    40 * (n : Int) + n * buttonSpacing totalWidth n ≤ totalWidth := by
  have hpos : (0 : Int) < n := by omega
  rcases le_or_gt (((n : Int) + 1) * 40) totalWidth with h | h
  · have hmul := Int.mul_ediv_self_le (x := (totalWidth : Int) - (n + 1) * 40) hpos.ne'
    rw [buttonSpacing, preferredBtnWidth, Int.tdiv_eq_ediv_of_nonneg (by omega)]
    omega
  · have hquotient : 0 ≤ (((n : Int) + 1) * 40 - totalWidth) / n :=
      Int.ediv_nonneg (by omega) hpos.le
    have hmul := mul_nonneg hpos.le hquotient
    rw [buttonSpacing_of_neg h, mul_neg]
    omega

theorem buttonFrame_disjoint {spacing : Int} (hspacing : 0 ≤ spacing) {i j : Nat} (hlt : i < j) :
    Disjoint (buttonFrame spacing i).interior (buttonFrame spacing j).interior := by
  have hgap : (0 : ℚ) ≤ spacing := by exact_mod_cast hspacing
  have hright := Columns.left_add_width_add_gap_le (by norm_num : (0 : ℚ) ≤ 40) hgap hlt
  apply CGRect.disjoint_interior
  left
  simp only [buttonFrame]
  linarith

theorem buttonFrame_inside {spacing : Int} (hspacing : 0 ≤ spacing) {i n totalWidth : Nat}
    (hi : i < n) (hrow : 40 * (n : Int) + n * spacing ≤ totalWidth) :
    0 ≤ (buttonFrame spacing i).x ∧
      (buttonFrame spacing i).x + (buttonFrame spacing i).width ≤ totalWidth := by
  have hgap : (0 : ℚ) ≤ spacing := by exact_mod_cast hspacing
  have hright := Columns.left_add_width_add_gap_le (by norm_num : (0 : ℚ) ≤ 40) hgap hi
  have hend : 40 * (n : ℚ) + n * spacing ≤ totalWidth := by exact_mod_cast hrow
  refine ⟨Columns.left_nonneg (by norm_num) hgap i, ?_⟩
  simp only [buttonFrame]
  have hlast : Columns.left (40 : ℚ) spacing n = 40 * n + n * spacing + spacing := by
    rw [Columns.left]
    ring
  linarith

/-! ## The layout -/

section Layout

variable (width : ℚ) (before : List CGRect)

/-- The frames of the buttons that fit. -/
def buttonRow : List CGRect :=
  (List.range (fittingBtns width before.length)).map
    (buttonFrame (buttonSpacing ⌊width⌋₊ (fittingBtns width before.length)))

/-- All frames after the layout. -/
def laidOut : List CGRect :=
  buttonRow width before ++ before.drop (fittingBtns width before.length)

@[simp] theorem length_buttonRow :
    (buttonRow width before).length = fittingBtns width before.length := by
  simp [buttonRow]

@[simp] theorem take_laidOut :
    (laidOut width before).take (fittingBtns width before.length) = buttonRow width before :=
  List.take_left' (length_buttonRow width before)

@[simp] theorem drop_laidOut :
    (laidOut width before).drop (fittingBtns width before.length) =
      before.drop (fittingBtns width before.length) :=
  List.drop_left' (length_buttonRow width before)

variable {width}

theorem roomLeft_of_laysOut (h : LaysOut width before (laidOut width before)) :
    RoomLeft width before.length := by
  -- The first button stands as far from the left edge as the spacing says.
  rcases Nat.eq_zero_or_pos (fittingBtns width before.length) with hnone | hsome
  · exact .inl hnone
  · have hmem : buttonFrame (buttonSpacing ⌊width⌋₊ (fittingBtns width before.length)) 0 ∈
        (laidOut width before).take (fittingBtns width before.length) := by
      rw [take_laidOut, buttonRow]
      exact List.mem_map_of_mem (List.mem_range.mpr hsome)
    have hfirst := (h.inside _ hmem).1
    simp only [buttonFrame, Columns.left, Nat.cast_zero, zero_mul, zero_add, one_mul] at hfirst
    exact .inr ((buttonSpacing_nonneg_iff hsome).mp (by exact_mod_cast hfirst))

variable (hwidth : 0 ≤ width)
include hwidth

theorem layoutSocialMediaButtons_ok (hsmall : width < 2 ^ 63) :
    layoutSocialMediaButtons width before = .ok (laidOut width before) := by
  rw [layoutSocialMediaButtons, if_neg (not_le.mpr hsmall)]
  simp only [truncate_width hwidth, noOfRenderedBtns_eq, laidOut, buttonRow, Int.toNat_natCast]
  rw [if_neg (by omega)]
  rcases Nat.eq_zero_or_pos (fittingBtns width before.length) with hnone | hsome
  · rw [hnone]
    rfl
  · exact foldlM_layoutButton (by omega) _ (Nat.min_le_right _ _)

theorem laysOut_of_roomLeft (h : RoomLeft width before.length) :
    LaysOut width before (laidOut width before) := by
  have hcount : fittingBtns width before.length ≤ before.length := Nat.min_le_right _ _
  have hspacing : ∀ i < fittingBtns width before.length,
      0 ≤ buttonSpacing ⌊width⌋₊ (fittingBtns width before.length) := by
    intro i hi
    exact (buttonSpacing_nonneg_iff (by omega)).mpr (h.resolve_left (by omega))
  refine ⟨?_, by simp, ?_, ?_, ?_⟩
  · rw [laidOut, List.length_append, length_buttonRow, List.length_drop]
    omega
  · simp [buttonRow, buttonFrame]
  · rw [take_laidOut, buttonRow, List.pairwise_map]
    refine List.pairwise_lt_range.imp_of_mem ?_
    intro i j hi _ hlt
    exact buttonFrame_disjoint (hspacing i (List.mem_range.mp hi)) hlt
  · rw [take_laidOut, buttonRow]
    intro f hf
    obtain ⟨i, hi, rfl⟩ := List.mem_map.mp hf
    have hi := List.mem_range.mp hi
    have hrow := buttons_width_le (by omega) (fittingBtns_le width before.length)
    obtain ⟨hleft, hright⟩ := buttonFrame_inside (hspacing i hi) hi hrow
    exact ⟨hleft, hright.trans (Nat.floor_le hwidth)⟩

/-- **The buttons stand next to each other inside the view exactly when** there is none to lay
out, or enough room is left over, and the width is an `Int`. -/
theorem buttons_laid_out_iff :
    (∃ after, layoutSocialMediaButtons width before = .ok after ∧ LaysOut width before after) ↔
      width < 2 ^ 63 ∧ RoomLeft width before.length := by
  constructor
  · rintro ⟨after, hok, hafter⟩
    have hsmall : width < 2 ^ 63 := by
      rw [layoutSocialMediaButtons] at hok
      split at hok
      next => cases hok
      next h => exact not_le.mp h
    rw [layoutSocialMediaButtons_ok before hwidth hsmall] at hok
    cases hok
    exact ⟨hsmall, roomLeft_of_laysOut before hafter⟩
  · rintro ⟨hsmall, h⟩
    exact ⟨_, layoutSocialMediaButtons_ok before hwidth hsmall,
      laysOut_of_roomLeft before hwidth h⟩

end Layout

/-- A new button has an empty frame. -/
def newButton : CGRect := ⟨0, 0, 0, 0⟩

theorem four_buttons_laid_out :
    ∃ after, layoutSocialMediaButtons 375 (List.replicate 4 newButton) = .ok after ∧
      LaysOut 375 (List.replicate 4 newButton) after := by
  have hcount : fittingBtns 375 4 = 4 := by norm_num [fittingBtns]
  have hwidth : ⌊(375 : ℚ)⌋₊ = 375 := by norm_num
  refine (buttons_laid_out_iff (List.replicate 4 newButton) (by norm_num)).mpr ⟨by norm_num, ?_⟩
  rw [List.length_replicate, RoomLeft, hcount, hwidth]
  exact .inr (by norm_num)

theorem lone_button_outside :
    ¬ ∀ (width : ℚ) (before : List CGRect), 0 ≤ width →
      ∃ after, layoutSocialMediaButtons width before = .ok after ∧ LaysOut width before after := by
  -- The one button of a view that is just wide enough ends where the view begins.
  intro hall
  obtain ⟨after, hok, hafter⟩ := hall 40 [newButton] (by norm_num)
  rw [layoutSocialMediaButtons_ok [newButton] (by norm_num) (by norm_num)] at hok
  cases hok
  have hroom := roomLeft_of_laysOut [newButton] hafter
  have hone : fittingBtns 40 [newButton].length = 1 := by
    norm_num [fittingBtns]
  have hwidth : ⌊(40 : ℚ)⌋₊ = 40 := by norm_num
  rw [RoomLeft, hone, hwidth] at hroom
  omega

end FinanceApp
