import FinanceApp.Lib.Loops
import FinanceApp.LiquidLayout.Cards
import FinanceApp.SnapKit.Attributes
import Mathlib.Tactic.SplitIfs

/-!
# Constraints and the layout constraints they stand for

A `Constraint` relates all the attributes of one item to another item, to a constant or to
the superview. It is made of one layout constraint for each attribute.
-/

namespace FinanceApp

/-! ## Constants -/

structure CGPoint where
  x : ℚ
  y : ℚ
  deriving DecidableEq, Repr

structure ConstraintInsets where
  top : ℚ
  left : ℚ
  bottom : ℚ
  right : ℚ
  deriving DecidableEq, Repr

inductive ConstraintInterfaceLayoutDirection where
  | leftToRight
  | rightToLeft
  deriving DecidableEq, Repr

/-- The numbers are those of `CGFloat`, `Float`, `Double`, `Int` and `UInt`. -/
inductive ConstraintConstantTarget where
  | number (value : ℚ)
  | size (value : CGSize)
  | point (value : CGPoint)
  | insets (value : ConstraintInsets)
  deriving DecidableEq, Repr

def ConstraintConstantTarget.constraintConstantTargetValueFor
    (interfaceLayoutDirection : ConstraintInterfaceLayoutDirection)
    (target : ConstraintConstantTarget) (layoutAttribute : LayoutAttribute) : ℚ :=
  match target with
  | .number value => value
  | .size value =>
    match layoutAttribute with
    | .width => value.width
    | .height => value.height
    | _ => 0
  | .point value =>
    match layoutAttribute with
    | .left | .right | .leading | .trailing | .centerX | .leftMargin | .rightMargin
    | .leadingMargin | .trailingMargin | .centerXWithinMargins => value.x
    | .top | .bottom | .centerY | .topMargin | .bottomMargin | .centerYWithinMargins
    | .lastBaseline | .firstBaseline => value.y
    | .width | .height | .notAnAttribute => 0
  | .insets value =>
    match layoutAttribute with
    | .left | .leftMargin | .centerX | .centerXWithinMargins => value.left
    | .top | .topMargin | .centerY | .centerYWithinMargins | .lastBaseline | .firstBaseline =>
      value.top
    | .right | .rightMargin => -value.right
    | .bottom | .bottomMargin => -value.bottom
    | .leading | .leadingMargin =>
      if interfaceLayoutDirection = .leftToRight then value.left else value.right
    | .trailing | .trailingMargin =>
      if interfaceLayoutDirection = .leftToRight then -value.right else -value.left
    | .width => -(value.left + value.right)
    | .height => -(value.top + value.bottom)
    | .notAnAttribute => 0

inductive ConstraintInsetTarget where
  | number (amount : ℚ)
  | insets (amount : ConstraintInsets)

def ConstraintInsetTarget.constraintInsetTargetValue : ConstraintInsetTarget → ConstraintInsets
  | .number amount => ⟨amount, amount, amount, amount⟩
  | .insets amount => amount

/-! ## Items -/

/-- The superviews of the items, and SnapKit's own `ConstraintConfig.interfaceLayoutDirection`,
whatever the one of the app is. The superview of a layout guide is its owning view. -/
structure ViewHierarchy (Item : Type*) where
  superview : Item → Option Item
  interfaceLayoutDirection : ConstraintInterfaceLayoutDirection

/-- A window `0` with one view, in the direction that SnapKit starts with. -/
def ViewHierarchy.window : ViewHierarchy Nat where
  superview item := if item = 1 then some 0 else none
  interfaceLayoutDirection := .leftToRight

/-- The target is a weak reference. -/
structure ConstraintItem (Item : Type*) where
  target : Option Item
  attributes : ConstraintAttributes
  deriving DecidableEq

inductive ConstraintRelation where
  | equal
  | lessThanOrEqual
  | greaterThanOrEqual
  deriving DecidableEq, Repr

/-! ## Layout constraints -/

/-- An `NSLayoutConstraint` with its `label`. -/
structure LayoutConstraint (Item : Type*) where
  firstItem : Item
  firstAttribute : LayoutAttribute
  relation : ConstraintRelation
  secondItem : Option Item
  secondAttribute : LayoutAttribute
  multiplier : ℚ
  constant : ℚ
  label : Option String
  priority : ℚ
  isActive : Bool := false
  deriving DecidableEq

/-- The margin of an edge. `none` is a `fatalError`. -/
def LayoutAttribute.margin : LayoutAttribute → Option LayoutAttribute
  | .left => some .leftMargin
  | .right => some .rightMargin
  | .top => some .topMargin
  | .bottom => some .bottomMargin
  | _ => none

/-- The edge of a margin. `none` is a `fatalError`. -/
def LayoutAttribute.edge : LayoutAttribute → Option LayoutAttribute
  | .leftMargin => some .left
  | .rightMargin => some .right
  | .topMargin => some .top
  | .bottomMargin => some .bottom
  | _ => none

namespace ConstraintItem

variable {Item : Type*} (fromItem toItem : ConstraintItem Item)

/-- The attribute of the second item. -/
def layoutToAttribute (layoutFromAttribute : LayoutAttribute) : Option LayoutAttribute :=
  let layoutToAttributes := toItem.attributes.layoutAttributes
  if layoutToAttributes.length > 0 then
    if fromItem.attributes = .edges ∧ toItem.attributes = .margins then
      layoutFromAttribute.margin
    else if fromItem.attributes = .margins ∧ toItem.attributes = .edges then
      layoutFromAttribute.edge
    else if fromItem.attributes = toItem.attributes then
      some layoutFromAttribute
    else
      layoutToAttributes[0]?
  else if toItem.target.isNone ∧
      (layoutFromAttribute = .centerX ∨ layoutFromAttribute = .centerY) then
    some (if layoutFromAttribute = .centerX then .left else .top)
  else
    some layoutFromAttribute

theorem edges_have_margins :
    ∀ a ∈ ConstraintAttributes.edges.layoutAttributes, a.margin.isSome := by decide

theorem margins_have_edges :
    ∀ a ∈ ConstraintAttributes.margins.layoutAttributes, a.edge.isSome := by decide

theorem layoutToAttribute_isSome {layoutFromAttribute : LayoutAttribute}
    (h : layoutFromAttribute ∈ fromItem.attributes.layoutAttributes) :
    (fromItem.layoutToAttribute toItem layoutFromAttribute).isSome := by
  rw [layoutToAttribute]
  split_ifs with hlength hedges hmargins
  · exact edges_have_margins _ (hedges.1 ▸ h)
  · exact margins_have_edges _ (hmargins.1 ▸ h)
  · rfl
  · rw [List.getElem?_eq_getElem hlength]
    rfl
  all_goals rfl

theorem margin_ne_notAnAttribute :
    ∀ a ∈ ConstraintAttributes.edges.layoutAttributes, a.margin ≠ some .notAnAttribute := by decide

theorem edge_ne_notAnAttribute :
    ∀ a ∈ ConstraintAttributes.margins.layoutAttributes, a.edge ≠ some .notAnAttribute := by decide

theorem layoutToAttribute_ne_notAnAttribute {layoutFromAttribute : LayoutAttribute}
    (h : layoutFromAttribute ∈ fromItem.attributes.layoutAttributes) :
    fromItem.layoutToAttribute toItem layoutFromAttribute ≠ some .notAnAttribute := by
  have hself : some layoutFromAttribute ≠ some .notAnAttribute := by
    intro hself
    rw [Option.some.injEq] at hself
    exact fromItem.attributes.notAnAttribute_notMem (hself ▸ h)
  rw [layoutToAttribute]
  split_ifs with hlength hedges hmargins
  · exact margin_ne_notAnAttribute _ (hedges.1 ▸ h)
  · exact edge_ne_notAnAttribute _ (hmargins.1 ▸ h)
  · exact hself
  · exact fun hfirst => toItem.attributes.notAnAttribute_notMem (List.mem_of_getElem? hfirst)
  · decide
  · decide
  · exact hself

end ConstraintItem

/-! ## Constraints -/

structure Constraint (Item : Type*) where
  fromItem : ConstraintItem Item
  toItem : ConstraintItem Item
  relation : ConstraintRelation
  sourceLocation : String × Nat
  label : Option String
  multiplier : ℚ
  constant : ConstraintConstantTarget
  priority : ℚ
  layoutConstraints : List (LayoutConstraint Item)
  deriving DecidableEq

namespace Constraint

variable {Item : Type*} (views : ViewHierarchy Item) (fromItem toItem : ConstraintItem Item)
  (relation : ConstraintRelation) (sourceLocation : String × Nat) (label : Option String)
  (multiplier : ℚ) (constant : ConstraintConstantTarget) (priority : ℚ)

/-- The superview is used if possible. -/
def layoutTo (layoutFrom : Item) (layoutToAttribute : LayoutAttribute) : Option Item :=
  if toItem.target.isNone ∧ layoutToAttribute ≠ .width ∧ layoutToAttribute ≠ .height then
    views.superview layoutFrom
  else
    toItem.target

/-- One turn of the loop in `init`. -/
def layoutConstraint (layoutFrom : Item) (layoutFromAttribute : LayoutAttribute) :
    Option (LayoutConstraint Item) :=
  (fromItem.layoutToAttribute toItem layoutFromAttribute).map fun layoutToAttribute =>
    { firstItem := layoutFrom
      firstAttribute := layoutFromAttribute
      relation
      secondItem := layoutTo views toItem layoutFrom layoutToAttribute
      secondAttribute := layoutToAttribute
      multiplier
      constant := constant.constraintConstantTargetValueFor views.interfaceLayoutDirection
        layoutToAttribute
      label
      priority }

/-- `none` is a trap: the first item is gone, or a `fatalError`. -/
def init : Option (Constraint Item) := do
  let layoutFrom ← fromItem.target
  let layoutConstraints ← fromItem.attributes.layoutAttributes.mapM
    (layoutConstraint views fromItem toItem relation label multiplier constant priority layoutFrom)
  some { fromItem, toItem, relation, sourceLocation, label, multiplier, constant, priority,
         layoutConstraints }

theorem init_eq_some {constraint : Constraint Item} :
    init views fromItem toItem relation sourceLocation label multiplier constant priority =
        some constraint ↔
      ∃ layoutFrom layoutConstraints, fromItem.target = some layoutFrom ∧
        fromItem.attributes.layoutAttributes.mapM (layoutConstraint views fromItem toItem relation
          label multiplier constant priority layoutFrom) = some layoutConstraints ∧
        constraint = ⟨fromItem, toItem, relation, sourceLocation, label, multiplier, constant,
          priority, layoutConstraints⟩ := by
  simp only [init, Option.bind_eq_bind, Option.bind_eq_some_iff, Option.some.injEq]
  constructor
  · rintro ⟨layoutFrom, hfrom, layoutConstraints, hlist, rfl⟩
    exact ⟨layoutFrom, layoutConstraints, hfrom, hlist, rfl⟩
  · rintro ⟨layoutFrom, layoutConstraints, hfrom, hlist, rfl⟩
    exact ⟨layoutFrom, hfrom, layoutConstraints, hlist, rfl⟩

theorem init_isSome (h : fromItem.target.isSome) :
    (init views fromItem toItem relation sourceLocation label multiplier constant
      priority).isSome := by
  obtain ⟨layoutFrom, hfrom⟩ := Option.isSome_iff_exists.mp h
  have hturn : ∀ a ∈ fromItem.attributes.layoutAttributes, (layoutConstraint views fromItem toItem
      relation label multiplier constant priority layoutFrom a).isSome := by
    intro a ha
    rw [layoutConstraint, Option.isSome_map]
    exact fromItem.layoutToAttribute_isSome toItem ha
  obtain ⟨layoutConstraints, hlist⟩ := Loops.exists_mapM_eq_some hturn
  exact Option.isSome_iff_exists.mpr ⟨_, (init_eq_some _ _ _ _ _ _ _ _ _).mpr
    ⟨layoutFrom, layoutConstraints, hfrom, hlist, rfl⟩⟩

end Constraint

end FinanceApp
