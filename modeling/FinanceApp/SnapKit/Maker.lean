import FinanceApp.SnapKit.Constraint

/-!
# What a closure makes

The closure of `makeConstraints` calls the maker and the objects that its calls return. Each
reads or changes one description, and every description that was related to something gives
one constraint in the end.
-/

namespace FinanceApp

structure ConstraintDescription (Item : Type*) where
  item : Item
  attributes : ConstraintAttributes
  relation : Option ConstraintRelation := none
  sourceLocation : Option (String × Nat) := none
  label : Option String := none
  related : Option (ConstraintItem Item) := none
  multiplier : ℚ := 1
  constant : ConstraintConstantTarget := .number 0
  priority : ℚ := 1000
  /-- The lazy variable `constraint`, once it was read. -/
  lazyConstraint : Option (Option (Constraint Item)) := none
  deriving DecidableEq

inductive ConstraintRelatableTarget (Item : Type*) where
  | item (other : ConstraintItem Item)
  | view (other : Item)
  | constant (other : ConstraintConstantTarget)
  | layoutGuide (other : Item)

namespace ConstraintDescription

variable {Item : Type*} (views : ViewHierarchy Item) (description : ConstraintDescription Item)

/-- The guard of `relatedTo`. -/
def canRelateTo (attributes otherAttributes : ConstraintAttributes) : Bool :=
  otherAttributes = .none ∨
    otherAttributes.layoutAttributes.length ≤ 1 ∨
    otherAttributes.layoutAttributes = attributes.layoutAttributes ∨
    otherAttributes = .edges ∧ attributes = .margins ∨
    otherAttributes = .margins ∧ attributes = .edges

/-- `none` is a `fatalError`. -/
def relatedTo (other : ConstraintRelatableTarget Item) (relation : ConstraintRelation)
    (sourceLocation : String × Nat) : Option (ConstraintDescription Item) :=
  let relate (related : ConstraintItem Item) (constant : ConstraintConstantTarget) :=
    { description with
      sourceLocation := some sourceLocation
      relation := some relation
      related := some related
      constant }
  match other with
  | .item other =>
    if canRelateTo description.attributes other.attributes then some (relate other (.number 0))
    else none
  | .view other => some (relate ⟨some other, .none⟩ (.number 0))
  | .constant other => some (relate ⟨none, .none⟩ other)
  | .layoutGuide other => some (relate ⟨some other, .none⟩ (.number 0))

/-- What `equalToSuperview` and its two siblings do. -/
def relatedToSuperview (relation : ConstraintRelation) (sourceLocation : String × Nat) :
    Option (ConstraintDescription Item) := do
  let other ← views.superview description.item
  description.relatedTo (.view other) relation sourceLocation

/-- The closure of the lazy variable. The outer `none` is a trap. -/
def makeConstraint : Option (Option (Constraint Item)) :=
  match description.relation, description.related, description.sourceLocation with
  | some relation, some related, some sourceLocation =>
    (Constraint.init views ⟨some description.item, description.attributes⟩ related relation
      sourceLocation description.label description.multiplier description.constant
      description.priority).map some
  | _, _, _ => some none

def constraint : Option (Option (Constraint Item)) :=
  match description.lazyConstraint with
  | some constraint => some constraint
  | none => description.makeConstraint views

/-- Reading the variable keeps its value. -/
def readConstraint : Option (ConstraintDescription Item) := do
  let constraint ← description.constraint views
  some { description with lazyConstraint := some constraint }

end ConstraintDescription

/-! ## Calls -/

/-- A call in the closure. The descriptions are numbered as the maker makes them. To divide by
0 gives an infinite multiplier, which no layout constraint takes. -/
inductive MakerCall (Item : Type*) where
  | makeExtendableWithAttributes (attributes : ConstraintAttributes)
  | extend (i : Nat) (attributes : ConstraintAttributes)
  | relatedTo (i : Nat) (other : ConstraintRelatableTarget Item) (relation : ConstraintRelation)
      (sourceLocation : String × Nat)
  | relatedToSuperview (i : Nat) (relation : ConstraintRelation) (sourceLocation : String × Nat)
  | multipliedBy (i : Nat) (amount : ℚ)
  | dividedBy (i : Nat) (amount : {amount : ℚ // amount ≠ 0})
  | offset (i : Nat) (amount : ℚ)
  | inset (i : Nat) (amount : ConstraintInsetTarget)
  | priority (i : Nat) (amount : ℚ)
  | labeled (i : Nat) (label : String)
  | constraint (i : Nat)

/-- Whether the call reads the lazy variable of the `i`-th description. -/
def MakerCall.reads {Item : Type*} (i : Nat) : MakerCall Item → Bool
  | .constraint j => j == i
  | _ => false

structure ConstraintMaker (Item : Type*) where
  item : Item
  descriptions : List (ConstraintDescription Item) := []

namespace ConstraintMaker

variable {Item : Type*} (views : ViewHierarchy Item) (maker : ConstraintMaker Item)

/-- `none` also stands for a description that there is not. -/
def modify (i : Nat)
    (f : ConstraintDescription Item → Option (ConstraintDescription Item)) :
    Option (ConstraintMaker Item) := do
  let description ← maker.descriptions[i]?
  let changed ← f description
  some { maker with descriptions := maker.descriptions.set i changed }

/-- A `ConstraintMakerEditable` is only had of a description that was related. -/
def edit (i : Nat) (f : ConstraintDescription Item → ConstraintDescription Item) :
    Option (ConstraintMaker Item) :=
  maker.modify i fun description =>
    if description.relation.isSome then some (f description) else none

def call : MakerCall Item → Option (ConstraintMaker Item)
  | .makeExtendableWithAttributes attributes =>
    some { maker with
      descriptions := maker.descriptions ++ [{ item := maker.item, attributes }] }
  | .extend i attributes =>
    maker.modify i fun d => some { d with attributes := d.attributes + attributes }
  | .relatedTo i other relation sourceLocation =>
    maker.modify i fun d => d.relatedTo other relation sourceLocation
  | .relatedToSuperview i relation sourceLocation =>
    maker.modify i fun d => d.relatedToSuperview views relation sourceLocation
  | .multipliedBy i amount => maker.edit i fun d => { d with multiplier := amount }
  | .dividedBy i amount => maker.edit i fun d => { d with multiplier := 1 / amount.val }
  | .offset i amount => maker.edit i fun d => { d with constant := .number amount }
  | .inset i amount =>
    maker.edit i fun d => { d with constant := .insets amount.constraintInsetTargetValue }
  | .priority i amount => maker.edit i fun d => { d with priority := amount }
  | .labeled i label => maker.edit i fun d => { d with label := some label }
  | .constraint i =>
    maker.modify i fun d => if d.relation.isSome then d.readConstraint views else none

def closure (calls : List (MakerCall Item)) : Option (ConstraintMaker Item) :=
  calls.foldlM (fun maker => maker.call views) maker

/-- The constraints of the descriptions that were related, in their order. -/
def constraints : Option (List (Constraint Item)) := do
  let constraints ← maker.descriptions.mapM fun d => d.constraint views
  some constraints.reduceOption

def prepareConstraints (item : Item) (calls : List (MakerCall Item)) :
    Option (List (Constraint Item)) := do
  let maker ← closure views { item } calls
  maker.constraints views

end ConstraintMaker

end FinanceApp
