import FinanceApp.SnapKit.Prepare
import Mathlib.Tactic.Linarith
import Mathlib.Tactic.Ring

/-!
# What constraints say about frames

The meaning of a layout constraint is an equation or an inequality between coordinates. The
constraints that a closure makes are compared with what the closure says.
-/

namespace FinanceApp

def ConstraintInsets.mirrored (insets : ConstraintInsets) : ConstraintInsets :=
  ⟨insets.top, insets.right, insets.bottom, insets.left⟩

def CGRect.inset (rect : CGRect) (insets : ConstraintInsets) : CGRect where
  x := rect.x + insets.left
  y := rect.y + insets.top
  width := rect.width - insets.left - insets.right
  height := rect.height - insets.top - insets.bottom

/-! ## Layouts -/

/-- Where the items stand, in the coordinates of one window, and the direction in which UIKit
reads them. -/
structure Layout (Item : Type*) where
  frame : Item → CGRect
  layoutMargins : Item → ConstraintInsets
  firstBaseline : Item → ℚ
  lastBaseline : Item → ℚ
  direction : ConstraintInterfaceLayoutDirection

namespace Layout

variable {Item : Type*} (layout : Layout Item) (item : Item)

def marginsFrame : CGRect := (layout.frame item).inset (layout.layoutMargins item)

/-- Leading and trailing coordinates grow in the direction of reading. -/
def alongReading (rect : CGRect) : ℚ × ℚ :=
  match layout.direction with
  | .leftToRight => (rect.x, rect.x + rect.width)
  | .rightToLeft => (-(rect.x + rect.width), -rect.x)

def value : LayoutAttribute → ℚ
  | .left => (layout.frame item).x
  | .top => (layout.frame item).y
  | .right => (layout.frame item).x + (layout.frame item).width
  | .bottom => (layout.frame item).y + (layout.frame item).height
  | .leading => (layout.alongReading (layout.frame item)).1
  | .trailing => (layout.alongReading (layout.frame item)).2
  | .width => (layout.frame item).width
  | .height => (layout.frame item).height
  | .centerX => (layout.frame item).x + (layout.frame item).width / 2
  | .centerY => (layout.frame item).y + (layout.frame item).height / 2
  | .lastBaseline => layout.lastBaseline item
  | .firstBaseline => layout.firstBaseline item
  | .leftMargin => (layout.marginsFrame item).x
  | .rightMargin => (layout.marginsFrame item).x + (layout.marginsFrame item).width
  | .topMargin => (layout.marginsFrame item).y
  | .bottomMargin => (layout.marginsFrame item).y + (layout.marginsFrame item).height
  | .leadingMargin => (layout.alongReading (layout.marginsFrame item)).1
  | .trailingMargin => (layout.alongReading (layout.marginsFrame item)).2
  | .centerXWithinMargins => (layout.marginsFrame item).x + (layout.marginsFrame item).width / 2
  | .centerYWithinMargins => (layout.marginsFrame item).y + (layout.marginsFrame item).height / 2
  | .notAnAttribute => 0

end Layout

def ConstraintRelation.Holds : ConstraintRelation → ℚ → ℚ → Prop
  | .equal, first, second => first = second
  | .lessThanOrEqual, first, second => first ≤ second
  | .greaterThanOrEqual, first, second => second ≤ first

/-- Without a second item there is only the constant. -/
def LayoutConstraint.Holds {Item : Type*} (layout : Layout Item)
    (layoutConstraint : LayoutConstraint Item) : Prop :=
  layoutConstraint.relation.Holds
    (layout.value layoutConstraint.firstItem layoutConstraint.firstAttribute)
    (layoutConstraint.multiplier *
        layoutConstraint.secondItem.elim 0 (layout.value · layoutConstraint.secondAttribute) +
      layoutConstraint.constant)

namespace Constraint

variable {Item : Type*} {views : ViewHierarchy Item}

def Holds (layout : Layout Item) (constraint : Constraint Item) : Prop :=
  ∀ layoutConstraint ∈ constraint.layoutConstraints, layoutConstraint.Holds layout

theorem init_holds_iff {item : Item} {attributes : ConstraintAttributes}
    {toItem : ConstraintItem Item} {relation : ConstraintRelation}
    {sourceLocation : String × Nat} {label : Option String} {multiplier priority : ℚ}
    {constant : ConstraintConstantTarget} {constraint : Constraint Item}
    (h : init views ⟨some item, attributes⟩ toItem relation sourceLocation label multiplier
      constant priority = some constraint) (layout : Layout Item) :
    constraint.Holds layout ↔ ∀ a ∈ attributes.layoutAttributes, ∀ b,
      ConstraintItem.layoutToAttribute ⟨some item, attributes⟩ toItem a = some b →
        relation.Holds (layout.value item a)
          (multiplier * (layoutTo views toItem item b).elim 0 (layout.value · b) +
            constant.constraintConstantTargetValueFor views.interfaceLayoutDirection b) := by
  obtain ⟨layoutFrom, layoutConstraints, hfrom, hlist, rfl⟩ :=
    (init_eq_some _ _ _ _ _ _ _ _ _).mp h
  cases hfrom
  rw [Holds, Loops.forall_mem hlist]
  simp only [layoutConstraint, Option.map_eq_some_iff, LayoutConstraint.Holds,
    forall_exists_index, and_imp, forall_apply_eq_imp_iff₂]

theorem layoutToAttribute_same {item other : Item} {attributes toAttributes : ConstraintAttributes}
    (hto : toAttributes = .none ∨ toAttributes = attributes) (a : LayoutAttribute) :
    ConstraintItem.layoutToAttribute ⟨some item, attributes⟩ ⟨some other, toAttributes⟩ a =
      some a := by
  have hdistinct : ConstraintAttributes.edges ≠ .margins := by decide
  have hnone : ConstraintAttributes.none.layoutAttributes = [] := by decide
  rcases hto with rfl | rfl
  · simp [ConstraintItem.layoutToAttribute, hnone]
  · rw [ConstraintItem.layoutToAttribute]
    have hedges : ¬(toAttributes = .edges ∧ toAttributes = .margins) := by
      rintro ⟨rfl, h⟩
      exact hdistinct h
    have hmargins : ¬(toAttributes = .margins ∧ toAttributes = .edges) := by
      rintro ⟨rfl, h⟩
      exact hdistinct h.symm
    simp [hedges, hmargins]

theorem layoutToAttribute_constant {item : Item} {attributes : ConstraintAttributes}
    {a : LayoutAttribute} (hx : a ≠ .centerX) (hy : a ≠ .centerY) :
    ConstraintItem.layoutToAttribute ⟨some item, attributes⟩ ⟨none, .none⟩ a = some a := by
  have hnone : ConstraintAttributes.none.layoutAttributes = [] := by decide
  simp [ConstraintItem.layoutToAttribute, hnone, hx, hy]

theorem layoutToAttribute_center {item : Item} {attributes : ConstraintAttributes} :
    ConstraintItem.layoutToAttribute ⟨some item, attributes⟩ ⟨none, .none⟩ .centerX =
        some .left ∧
      ConstraintItem.layoutToAttribute ⟨some item, attributes⟩ ⟨none, .none⟩ .centerY =
        some .top := by
  have hnone : ConstraintAttributes.none.layoutAttributes = [] := by decide
  simp [ConstraintItem.layoutToAttribute, hnone]

end Constraint

namespace ConstraintMaker

variable {Item : Type*} (views : ViewHierarchy Item) (item : Item) (first : ConstraintAttributes)
  (rest : List ConstraintAttributes)

/-! ## Closures of one chain -/

/-- `make.first.second.equalTo(other).inset(insets)` and its like. -/
def insetChain (relate : MakerCall Item) (insets : ConstraintInsets) : List (MakerCall Item) :=
  chain 0 first rest ++ [relate, .inset 0 (.insets insets)]

/-- The one constraint that the closure makes says `P` of every layout. -/
def Says (calls : List (MakerCall Item)) (P : Layout Item → Prop) : Prop :=
  ∃ constraint, prepareConstraints views item calls = some [constraint] ∧
    ∀ layout : Layout Item, constraint.Holds layout ↔ P layout

theorem closure_chain_init :
    closure views { item } (chain 0 first rest) =
      some ⟨item, [{ item, attributes := rest.foldl (· + ·) first }]⟩ :=
  closure_chain first rest

theorem prepare_of_closure {views : ViewHierarchy Item} {item : Item}
    {calls : List (MakerCall Item)} {attributes : ConstraintAttributes}
    {relation : ConstraintRelation} {related : ConstraintItem Item}
    {sourceLocation : String × Nat} {constant : ConstraintConstantTarget}
    (h : closure views { item } calls = some ⟨item, [{
      item, attributes, relation := some relation, related := some related,
      sourceLocation := some sourceLocation, constant }]⟩) :
    ∃ constraint, prepareConstraints views item calls = some [constraint] ∧
      Constraint.init views ⟨some item, attributes⟩ related relation sourceLocation none 1
        constant 1000 = some constraint := by
  obtain ⟨constraint, hinit⟩ := Option.isSome_iff_exists.mp (Constraint.init_isSome views
    ⟨some item, attributes⟩ related relation sourceLocation none 1 constant 1000 rfl)
  refine ⟨constraint, ?_, hinit⟩
  simp [prepareConstraints, h, constraints, ConstraintDescription.constraint,
    ConstraintDescription.makeConstraint, hinit]

/-! ## Insets -/

theorem eq_inset_iff (rect outer : CGRect) (insets : ConstraintInsets) :
    rect = outer.inset insets ↔ rect.x = outer.x + insets.left ∧ rect.y = outer.y + insets.top ∧
      rect.x + rect.width = outer.x + outer.width + -insets.right ∧
      rect.y + rect.height = outer.y + outer.height + -insets.bottom := by
  obtain ⟨x, y, width, height⟩ := rect
  simp only [CGRect.inset, CGRect.mk.injEq]
  constructor
  · rintro ⟨rfl, rfl, rfl, rfl⟩
    exact ⟨rfl, rfl, by ring, by ring⟩
  · rintro ⟨rfl, rfl, hwidth, hheight⟩
    exact ⟨rfl, rfl, by linarith, by linarith⟩

/-- The insets that leading and trailing stand for. SnapKit takes left and right for them in its
own direction of reading, and UIKit in that of the layout. -/
def readInsets (views : ViewHierarchy Item) (layout : Layout Item) (insets : ConstraintInsets) :
    ConstraintInsets :=
  if layout.direction = views.interfaceLayoutDirection then insets else insets.mirrored

theorem alongReading_inset_iff (layout : Layout Item) (rect outer : CGRect)
    (insets : ConstraintInsets) :
    (layout.alongReading rect).1 = (layout.alongReading outer).1 +
          (if views.interfaceLayoutDirection = .leftToRight then insets.left else insets.right) ∧
        (layout.alongReading rect).2 = (layout.alongReading outer).2 +
          (if views.interfaceLayoutDirection = .leftToRight then -insets.right
            else -insets.left) ↔
      rect.x = outer.x + (readInsets views layout insets).left ∧
        rect.x + rect.width =
          outer.x + outer.width + -(readInsets views layout insets).right := by
  cases hviews : views.interfaceLayoutDirection with
  | leftToRight =>
    cases hlayout : layout.direction with
    | leftToRight => simp [Layout.alongReading, readInsets, hviews, hlayout]
    | rightToLeft =>
      simp only [Layout.alongReading, readInsets, hviews, hlayout, reduceCtorEq, if_true, if_false,
        ConstraintInsets.mirrored]
      constructor <;> rintro ⟨hleading, htrailing⟩ <;> exact ⟨by linarith, by linarith⟩
  | rightToLeft =>
    cases hlayout : layout.direction with
    | leftToRight =>
      simp [Layout.alongReading, readInsets, hviews, hlayout, ConstraintInsets.mirrored]
    | rightToLeft =>
      simp only [Layout.alongReading, readInsets, hviews, hlayout, reduceCtorEq, if_true, if_false]
      constructor <;> rintro ⟨hleading, htrailing⟩ <;> exact ⟨by linarith, by linarith⟩

/-- The chains whose insets are those of a frame, with left and right or with leading and
trailing. -/
inductive FrameChain : List LayoutAttribute → Prop where
  | edges : FrameChain [.left, .top, .right, .bottom]
  | reading : FrameChain [.top, .bottom, .leading, .trailing]

theorem FrameChain.only_edges {attributes : List LayoutAttribute} (h : FrameChain attributes) :
    ∀ a ∈ attributes, (a ≠ .centerX ∧ a ≠ .centerY) ∧ a ≠ .width ∧ a ≠ .height := by
  cases h with
  | edges => decide
  | reading => decide

/-- The insets of the frame that such a chain says. -/
def frameInsets (views : ViewHierarchy Item) (attributes : List LayoutAttribute)
    (layout : Layout Item) (insets : ConstraintInsets) : ConstraintInsets :=
  if .leading ∈ attributes then readInsets views layout insets else insets

theorem readInsets_vertical (layout : Layout Item) (insets : ConstraintInsets) :
    (readInsets views layout insets).top = insets.top ∧
      (readInsets views layout insets).bottom = insets.bottom := by
  unfold readInsets
  split <;> exact ⟨rfl, rfl⟩

theorem frame_holds_iff {attributes : List LayoutAttribute} (hchain : FrameChain attributes)
    (layout : Layout Item) (other : Item) (insets : ConstraintInsets) :
    (∀ a ∈ attributes, ConstraintRelation.equal.Holds (layout.value item a)
        (1 * layout.value other a + (ConstraintConstantTarget.insets
          insets).constraintConstantTargetValueFor views.interfaceLayoutDirection a)) ↔
      layout.frame item =
        (layout.frame other).inset (frameInsets views attributes layout insets) := by
  rw [eq_inset_iff]
  cases hchain with
  | edges =>
    have hinsets : frameInsets views [.left, .top, .right, .bottom] layout insets = insets :=
      if_neg (by decide)
    rw [hinsets]
    simp only [List.forall_mem_cons, ConstraintRelation.Holds, Layout.value, one_mul,
      ConstraintConstantTarget.constraintConstantTargetValueFor, List.not_mem_nil]
    tauto
  | reading =>
    have hinsets : frameInsets views [.top, .bottom, .leading, .trailing] layout insets =
        readInsets views layout insets := if_pos (by decide)
    have hreading := alongReading_inset_iff views layout (layout.frame item) (layout.frame other)
      insets
    obtain ⟨htop, hbottom⟩ := readInsets_vertical views layout insets
    rw [hinsets, htop, hbottom]
    simp only [List.forall_mem_cons, ConstraintRelation.Holds, Layout.value, one_mul,
      ConstraintConstantTarget.constraintConstantTargetValueFor, List.not_mem_nil]
    tauto

/-- The closures that say the insets: to a view, to the attributes of a view, and for the
superview without naming it. -/
def insetClosures (other : Item) (insets : ConstraintInsets) (sourceLocation : String × Nat) :
    List (List (MakerCall Item)) :=
  [insetChain first rest (.relatedTo 0 (.view other) .equal sourceLocation) insets,
    insetChain first rest (.relatedTo 0 (.item ⟨some other, rest.foldl (· + ·) first⟩) .equal
      sourceLocation) insets]

def superviewInsetClosures (insets : ConstraintInsets) (sourceLocation : String × Nat) :
    List (List (MakerCall Item)) :=
  [insetChain first rest (.relatedToSuperview 0 .equal sourceLocation) insets,
    chain 0 first rest ++ [.relatedTo 0 (.constant (.insets insets)) .equal sourceLocation]]

variable {views item first rest}

/-- The one constraint says that the frame is the other one with the insets. -/
def SaysInset (views : ViewHierarchy Item) (item : Item) (first : ConstraintAttributes)
    (rest : List ConstraintAttributes) (other : Item) (insets : ConstraintInsets)
    (calls : List (MakerCall Item)) : Prop :=
  Says views item calls fun layout => layout.frame item = (layout.frame other).inset
    (frameInsets views (rest.foldl (· + ·) first).layoutAttributes layout insets)

theorem says_of_closure {calls : List (MakerCall Item)} (toItem : ConstraintItem Item)
    (sourceLocation : String × Nat) {insets : ConstraintInsets} {other : Item}
    (hchain : FrameChain (rest.foldl (· + ·) first).layoutAttributes)
    (hto : ∀ a ∈ (rest.foldl (· + ·) first).layoutAttributes,
      ConstraintItem.layoutToAttribute ⟨some item, rest.foldl (· + ·) first⟩ toItem a = some a ∧
        Constraint.layoutTo views toItem item a = some other)
    (h : closure views { item } calls = some ⟨item, [{
      item, attributes := rest.foldl (· + ·) first, relation := some .equal,
      related := some toItem, sourceLocation := some sourceLocation,
      constant := .insets insets }]⟩) :
    SaysInset views item first rest other insets calls := by
  obtain ⟨constraint, hprepare, hinit⟩ := prepare_of_closure h
  refine ⟨constraint, hprepare, fun layout => ?_⟩
  refine (Constraint.init_holds_iff hinit layout).trans
    (Iff.trans (forall₂_congr fun a ha => ?_)
      (frame_holds_iff views item hchain layout other insets))
  simp only [(hto a ha).1, Option.some.injEq, forall_eq', (hto a ha).2, Option.elim_some]

theorem says_of_view {calls : List (MakerCall Item)} {toAttributes : ConstraintAttributes}
    (sourceLocation : String × Nat) {insets : ConstraintInsets} {other : Item}
    (hchain : FrameChain (rest.foldl (· + ·) first).layoutAttributes)
    (hto : toAttributes = .none ∨ toAttributes = rest.foldl (· + ·) first)
    (h : closure views { item } calls = some ⟨item, [{
      item, attributes := rest.foldl (· + ·) first, relation := some .equal,
      related := some ⟨some other, toAttributes⟩, sourceLocation := some sourceLocation,
      constant := .insets insets }]⟩) :
    SaysInset views item first rest other insets calls :=
  says_of_closure _ sourceLocation hchain
    (fun a _ => ⟨Constraint.layoutToAttribute_same hto a, rfl⟩) h

/-- **All ways to write insets mean the inset frame**: `edges`, the four edges in any order or
leading and trailing for left and right, of a view, of its attributes, of the superview, or
as a constant. Leading and trailing exchange left and right where the layout is read in
another direction than SnapKit's own. -/
theorem insets_mean_the_inset_frame
    (hchain : FrameChain (rest.foldl (· + ·) first).layoutAttributes) (other : Item)
    (insets : ConstraintInsets) (sourceLocation : String × Nat) :
    (∀ calls ∈ insetClosures first rest other insets sourceLocation,
      SaysInset views item first rest other insets calls) ∧
      (views.superview item = some other →
        ∀ calls ∈ superviewInsetClosures first rest insets sourceLocation,
          SaysInset views item first rest other insets calls) := by
  have hnotCenter := hchain.only_edges
  constructor
  · intro calls hcalls
    simp only [insetClosures, List.mem_cons, List.not_mem_nil, or_false] at hcalls
    rcases hcalls with rfl | rfl
    · apply says_of_view sourceLocation hchain (Or.inl rfl)
      rw [insetChain, closure_append, closure_chain_init]
      simp [closure, call, modify, edit, ConstraintDescription.relatedTo,
        ConstraintInsetTarget.constraintInsetTargetValue]
    · apply says_of_view sourceLocation hchain (Or.inr rfl)
      rw [insetChain, closure_append, closure_chain_init]
      simp [closure, call, modify, edit, ConstraintDescription.relatedTo,
        ConstraintDescription.canRelateTo, ConstraintInsetTarget.constraintInsetTargetValue]
  · intro hsuperview calls hcalls
    simp only [superviewInsetClosures, List.mem_cons, List.not_mem_nil, or_false] at hcalls
    rcases hcalls with rfl | rfl
    · apply says_of_view sourceLocation hchain (Or.inl rfl)
      rw [insetChain, closure_append, closure_chain_init]
      simp [closure, call, modify, edit, ConstraintDescription.relatedToSuperview,
        ConstraintDescription.relatedTo, hsuperview,
        ConstraintInsetTarget.constraintInsetTargetValue]
    · apply says_of_closure ⟨none, .none⟩ sourceLocation hchain
      · intro a ha
        refine ⟨Constraint.layoutToAttribute_constant (hnotCenter a ha).1.1
          (hnotCenter a ha).1.2, ?_⟩
        simp [Constraint.layoutTo, hnotCenter a ha, hsuperview]
      · rw [closure_append, closure_chain_init]
        simp [closure, call, modify, ConstraintDescription.relatedTo]

theorem insets_in_a_window :
    SaysInset .window 1 .leading [.trailing, .top, .bottom] 0 ⟨1, 2, 3, 4⟩
        (insetChain .leading [.trailing, .top, .bottom]
          (.relatedToSuperview 0 .equal ("Window.swift", 1)) ⟨1, 2, 3, 4⟩) ∧
      ∀ layout : Layout Nat, layout.direction = .rightToLeft →
        frameInsets .window [.top, .bottom, .leading, .trailing] layout ⟨1, 2, 3, 4⟩ =
          ⟨1, 4, 3, 2⟩ := by
  -- An app that reads from right to left, with SnapKit's direction as it starts.
  have hattributes : ([ConstraintAttributes.trailing, .top, .bottom].foldl (· + ·)
      ConstraintAttributes.leading).layoutAttributes = [.top, .bottom, .leading, .trailing] := by
    decide
  refine ⟨(insets_mean_the_inset_frame (hattributes ▸ .reading) 0 _ _).2 rfl _
    List.mem_cons_self, fun layout hdirection => ?_⟩
  simp [frameInsets, readInsets, hdirection, ViewHierarchy.window, ConstraintInsets.mirrored]

/-! ## Size and center -/

/-- `make.size.equalTo(size)` and `make.center.equalTo(center)`. -/
def boxClosure (size : CGSize) (center : CGPoint) (sourceLocation : String × Nat) :
    List (MakerCall Item) :=
  [.makeExtendableWithAttributes .size,
    .relatedTo 0 (.constant (.size size)) .equal sourceLocation,
    .makeExtendableWithAttributes .center,
    .relatedTo 1 (.constant (.point center)) .equal sourceLocation]

/-- **A center is a point of the superview**: constants for size and center put the box of the
size around the point, from the superview's corner. -/
theorem size_and_center_place_the_box {superview : Item}
    (hsuperview : views.superview item = some superview) (size : CGSize) (center : CGPoint)
    (sourceLocation : String × Nat) :
    ∃ sizeConstraint centerConstraint,
      prepareConstraints views item (boxClosure size center sourceLocation) =
          some [sizeConstraint, centerConstraint] ∧
        ∀ layout : Layout Item, (sizeConstraint.Holds layout ∧ centerConstraint.Holds layout ↔
          layout.frame item =
            ⟨(layout.frame superview).x + center.x - size.width / 2,
              (layout.frame superview).y + center.y - size.height / 2,
              size.width, size.height⟩) := by
  obtain ⟨sizeConstraint, hsize⟩ := Option.isSome_iff_exists.mp (Constraint.init_isSome views
    ⟨some item, .size⟩ ⟨none, .none⟩ .equal sourceLocation none 1 (.size size) 1000 rfl)
  obtain ⟨centerConstraint, hcenter⟩ := Option.isSome_iff_exists.mp (Constraint.init_isSome views
    ⟨some item, .center⟩ ⟨none, .none⟩ .equal sourceLocation none 1 (.point center) 1000 rfl)
  refine ⟨sizeConstraint, centerConstraint, ?_, fun layout => ?_⟩
  · simp [prepareConstraints, boxClosure, closure, call, modify, constraints,
      ConstraintDescription.relatedTo, ConstraintDescription.constraint,
      ConstraintDescription.makeConstraint, hsize, hcenter]
  · have hsizes : ConstraintAttributes.size.layoutAttributes = [.width, .height] := by decide
    have hcenters : ConstraintAttributes.center.layoutAttributes = [.centerX, .centerY] := by
      decide
    have hmeaning : (sizeConstraint.Holds layout ∧ centerConstraint.Holds layout) ↔
        ((layout.frame item).width = size.width ∧ (layout.frame item).height = size.height) ∧
          (layout.frame item).x + (layout.frame item).width / 2 =
              (layout.frame superview).x + center.x ∧
            (layout.frame item).y + (layout.frame item).height / 2 =
              (layout.frame superview).y + center.y := by
      rw [Constraint.init_holds_iff hsize, Constraint.init_holds_iff hcenter, hsizes, hcenters]
      simp [Constraint.layoutToAttribute_constant, Constraint.layoutToAttribute_center,
        Constraint.layoutTo, hsuperview, ConstraintRelation.Holds, Layout.value,
        ConstraintConstantTarget.constraintConstantTargetValueFor]
    rw [hmeaning]
    obtain ⟨x, y, width, height⟩ := layout.frame item
    simp only [CGRect.mk.injEq]
    constructor
    · rintro ⟨⟨rfl, rfl⟩, hx, hy⟩
      exact ⟨by linarith, by linarith, rfl, rfl⟩
    · rintro ⟨rfl, rfl, rfl, rfl⟩
      exact ⟨⟨rfl, rfl⟩, by ring, by ring⟩

theorem a_box_in_a_window :
    ∃ sizeConstraint centerConstraint,
      prepareConstraints .window 1 (boxClosure ⟨10, 20⟩ ⟨25, 30⟩ ("Window.swift", 1)) =
          some [sizeConstraint, centerConstraint] ∧
        ∀ layout : Layout Nat, (sizeConstraint.Holds layout ∧ centerConstraint.Holds layout ↔
          layout.frame 1 =
            ⟨(layout.frame 0).x + 25 - 10 / 2, (layout.frame 0).y + 30 - 20 / 2, 10, 20⟩) :=
  size_and_center_place_the_box rfl ⟨10, 20⟩ ⟨25, 30⟩ _

end ConstraintMaker

end FinanceApp
