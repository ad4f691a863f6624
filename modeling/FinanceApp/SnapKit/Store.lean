import FinanceApp.Lib.Machine
import FinanceApp.SnapKit.Prepare
import Mathlib.Logic.Function.Basic

/-!
# Constraints in the views

Each item keeps the set of its installed constraints. Constraints are objects: what is
installed can be changed later, and what a closure made can be kept without being installed.
-/

namespace FinanceApp

/-- `==` of layout constraints. The constant is not compared. -/
def LayoutConstraint.same {Item : Type*} [DecidableEq Item] (lhs rhs : LayoutConstraint Item) :
    Bool :=
  lhs.firstItem = rhs.firstItem ∧ lhs.secondItem = rhs.secondItem ∧
    lhs.firstAttribute = rhs.firstAttribute ∧ lhs.secondAttribute = rhs.secondAttribute ∧
    lhs.relation = rhs.relation ∧ lhs.priority = rhs.priority ∧ lhs.multiplier = rhs.multiplier

/-- The attribute for which a constant is read. -/
def LayoutConstraint.updateAttribute {Item : Type*} (layoutConstraint : LayoutConstraint Item) :
    LayoutAttribute :=
  if layoutConstraint.secondAttribute = .notAnAttribute then layoutConstraint.firstAttribute
  else layoutConstraint.secondAttribute

namespace Constraint

variable {Item : Type*} (views : ViewHierarchy Item) (constraint : Constraint Item)

def setActive (isActive : Bool) : Constraint Item :=
  { constraint with
    layoutConstraints := constraint.layoutConstraints.map fun lc => { lc with isActive } }

def isActive : Bool := constraint.layoutConstraints.any (·.isActive)

def constantFor (layoutConstraint : LayoutConstraint Item) : ℚ :=
  constraint.constant.constraintConstantTargetValueFor views.interfaceLayoutDirection
    layoutConstraint.updateAttribute

/-- Called when the constant or the priority was set. -/
def updateConstantAndPriorityIfNeeded : Constraint Item :=
  { constraint with
    layoutConstraints := constraint.layoutConstraints.map fun lc =>
      { lc with
        constant := constraint.constantFor views lc
        priority :=
          if lc.priority < 1000 ∧ constraint.priority ≠ 1000 then constraint.priority
          else lc.priority } }

def updateOffset (offset : ℚ) : Constraint Item :=
  { constraint with constant := .number offset }.updateConstantAndPriorityIfNeeded views

def updateInset (inset : ConstraintInsetTarget) : Constraint Item :=
  { constraint with
    constant := .insets inset.constraintInsetTargetValue }.updateConstantAndPriorityIfNeeded views

def updatePriority (priority : ℚ) : Constraint Item :=
  { constraint with priority }.updateConstantAndPriorityIfNeeded views

end Constraint

/-- All constraints made so far, and the set of each item. An object is known by its place. -/
structure ConstraintStore (Item : Type*) where
  constraints : List (Constraint Item) := []
  constraintsSet : Item → List Nat := fun _ => []

namespace ConstraintStore

variable {Item : Type*} [DecidableEq Item] (views : ViewHierarchy Item)
  (store : ConstraintStore Item)

/-- What a method of the object `r` does to it. -/
def change (r : Nat) (f : Constraint Item → Constraint Item) : ConstraintStore Item :=
  { store with constraints := store.constraints.modify r f }

def layoutConstraintsOf (r : Nat) : List (LayoutConstraint Item) :=
  (store.constraints[r]?.map (·.layoutConstraints)).getD []

/-- `from.layoutConstraintItem` of the object `r`. -/
def itemOf (r : Nat) : Option Item := store.constraints[r]?.bind (·.fromItem.target)

def add (item : Item) (r : Nat) : ConstraintStore Item :=
  { store with
    constraintsSet := Function.update store.constraintsSet item
      (if r ∈ store.constraintsSet item then store.constraintsSet item
        else store.constraintsSet item ++ [r]) }

def remove (item : Item) (r : Nat) : ConstraintStore Item :=
  { store with
    constraintsSet := Function.update store.constraintsSet item
      ((store.constraintsSet item).filter (· ≠ r)) }

/-- Without an item this is a no-op. -/
def activateIfNeeded (r : Nat) : ConstraintStore Item :=
  match store.itemOf r with
  | none => store
  | some item => (store.change r (·.setActive true)).add item r

def deactivateIfNeeded (r : Nat) : ConstraintStore Item :=
  match store.itemOf r with
  | none => store
  | some item => (store.change r (·.setActive false)).remove item r

/-! ## Updating what exists -/

/-- Where the layout constraints of the objects are. -/
def places (allObjects : List Nat) : List (Nat × Nat) :=
  allObjects.flatMap fun r => (List.range (store.layoutConstraintsOf r).length).map (r, ·)

def layoutConstraintAt (place : Nat × Nat) : Option (LayoutConstraint Item) :=
  (store.layoutConstraintsOf place.1)[place.2]?

def setConstant (place : Nat × Nat) (constant : ℚ) : ConstraintStore Item :=
  store.change place.1 fun constraint =>
    { constraint with
      layoutConstraints := constraint.layoutConstraints.modify place.2 fun lc =>
        { lc with constant } }

/-- One turn of the loop of `activateIfNeeded(updatingExisting: true)`. `none` is a
`fatalError`. -/
def updateExisting (allObjects : List Nat) (constraint : Constraint Item)
    (store : ConstraintStore Item) (layoutConstraint : LayoutConstraint Item) :
    Option (ConstraintStore Item) :=
  ((store.places allObjects).find? fun place =>
    (store.layoutConstraintAt place).any fun existing => existing.same layoutConstraint).bind
      fun place => (store.layoutConstraintAt place).map fun existing =>
        store.setConstant place (constraint.constantFor views existing)

/-- `activateIfNeeded(updatingExisting: true)`. The objects are those of the item's set. -/
def activateUpdatingExisting (allObjects : List Nat) (store : ConstraintStore Item)
    (constraint : Constraint Item) : Option (ConstraintStore Item) :=
  constraint.layoutConstraints.foldlM (updateExisting views allObjects constraint) store

/-! ## The maker's functions -/

/-- The constraints are made and not yet installed. -/
def insert (constraints : List (Constraint Item)) : ConstraintStore Item :=
  { store with constraints := store.constraints ++ constraints }

/-- The places of constraints that are about to be inserted. -/
def newObjects (constraints : List (Constraint Item)) : List Nat :=
  List.range' store.constraints.length constraints.length

def install (constraints : List (Constraint Item)) : ConstraintStore Item :=
  (store.newObjects constraints).foldl activateIfNeeded (store.insert constraints)

def makeConstraints (item : Item) (calls : List (MakerCall Item)) :
    Option (ConstraintStore Item) := do
  let constraints ← ConstraintMaker.prepareConstraints views item calls
  some (store.install constraints)

def removeConstraints (item : Item) : ConstraintStore Item :=
  (store.constraintsSet item).foldl deactivateIfNeeded store

def remakeConstraints (item : Item) (calls : List (MakerCall Item)) :
    Option (ConstraintStore Item) :=
  (store.removeConstraints item).makeConstraints views item calls

/-- The set gives its objects in the order `allObjects`. -/
def updateConstraints (item : Item) (calls : List (MakerCall Item)) (allObjects : List Nat) :
    Option (ConstraintStore Item) :=
  if (store.constraintsSet item).length > 0 then do
    let constraints ← ConstraintMaker.prepareConstraints views item calls
    constraints.foldlM (activateUpdatingExisting views allObjects) (store.insert constraints)
  else
    store.makeConstraints views item calls

end ConstraintStore

/-! ## Runs -/

inductive ConstraintAction (Item : Type*) where
  | makeConstraints (item : Item) (calls : List (MakerCall Item))
  | remakeConstraints (item : Item) (calls : List (MakerCall Item))
  /-- With the order in which the item's set gives its objects. -/
  | updateConstraints (item : Item) (calls : List (MakerCall Item)) (allObjects : List Nat)
  | removeConstraints (item : Item)
  | activate (r : Nat)
  | deactivate (r : Nat)
  | updateOffset (r : Nat) (offset : ℚ)
  | updateInset (r : Nat) (inset : ConstraintInsetTarget)
  | updatePriority (r : Nat) (priority : ℚ)

/-- An action on an object that there is. -/
def ConstraintAction.IsPossible {Item : Type*} (store : ConstraintStore Item) :
    ConstraintAction Item → Prop
  | .updateConstraints item _ allObjects => allObjects.Perm (store.constraintsSet item)
  | .activate r | .deactivate r | .updateOffset r _ | .updateInset r _ | .updatePriority r _ =>
    r < store.constraints.length
  | _ => True

instance {Item : Type*} (store : ConstraintStore Item) (action : ConstraintAction Item) :
    Decidable (action.IsPossible store) :=
  match action with
  | .updateConstraints item _ allObjects =>
    inferInstanceAs (Decidable (allObjects.Perm (store.constraintsSet item)))
  | .activate r | .deactivate r | .updateOffset r _ | .updateInset r _ | .updatePriority r _ =>
    inferInstanceAs (Decidable (r < store.constraints.length))
  | .makeConstraints _ _ | .remakeConstraints _ _ | .removeConstraints _ =>
    inferInstanceAs (Decidable True)

/-- `none` is a trap, or an action that cannot be taken. -/
def constraintStep {Item : Type*} [DecidableEq Item] (views : ViewHierarchy Item)
    (store : ConstraintStore Item) (action : ConstraintAction Item) :
    Option (ConstraintStore Item × Unit) :=
  if action.IsPossible store then
    match action with
    | .makeConstraints item calls => (store.makeConstraints views item calls).map (·, ())
    | .remakeConstraints item calls => (store.remakeConstraints views item calls).map (·, ())
    | .updateConstraints item calls allObjects =>
      (store.updateConstraints views item calls allObjects).map (·, ())
    | .removeConstraints item => some (store.removeConstraints item, ())
    | .activate r => some (store.activateIfNeeded r, ())
    | .deactivate r => some (store.deactivateIfNeeded r, ())
    | .updateOffset r offset => some (store.change r (·.updateOffset views offset), ())
    | .updateInset r inset => some (store.change r (·.updateInset views inset), ())
    | .updatePriority r priority => some (store.change r (·.updatePriority views priority), ())
  else
    none

/-- The constraints of an app, changed only through SnapKit. -/
def constraintMachine {Item : Type*} [DecidableEq Item] (views : ViewHierarchy Item) :
    Machine (ConstraintStore Item) (ConstraintAction Item) Unit where
  step := constraintStep views

end FinanceApp
