import Mathlib.Order.Defs.LinearOrder

/-!
# Picking a range by its ends

One value after the other is tapped. The first is the start and a later one the end, unless
it is not behind the start and becomes the start itself. A tap after that begins anew.
-/

/-- What is picked so far. The ends of a range are in order. -/
inductive RangeSelection (α : Type*) [LT α] where
  | empty
  | start (a : α)
  | range (a b : α) (h : a < b)

namespace RangeSelection

variable {α : Type*} [LT α]

def lower : RangeSelection α → Option α
  | .empty => none
  | .start a | .range a _ _ => some a

def upper : RangeSelection α → Option α
  | .range _ b _ => some b
  | _ => none

def tap [DecidableRel (α := α) (· < ·)] (selection : RangeSelection α) (x : α) :
    RangeSelection α :=
  match selection with
  | .start a => if h : a < x then .range a x h else .start x
  | .empty | .range _ _ _ => .start x

def IsEnd (selection : RangeSelection α) (x : α) : Prop :=
  selection.lower = some x ∨ selection.upper = some x

/-- Both ends are there, and the value is one of them or between them. -/
def Covers : RangeSelection α → α → Prop
  | .range a b _, x => (a < x ∨ x = a) ∧ (x < b ∨ x = b)
  | _, _ => False

end RangeSelection
