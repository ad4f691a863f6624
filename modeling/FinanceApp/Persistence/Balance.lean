import FinanceApp.Persistence.FinanceAsset
import Mathlib.Data.List.Induction

/-!
# What a persistence store contains

`append` keeps what is there and `remove` takes one object away, so the store counts the
objects of an identifier: it contains one while more were appended than removed.
-/

namespace FinanceApp

section Counted

variable {T : Type} [ATCPersistable T] [CanonicalForm]

inductive StoreOperation (T : Type) where
  | append (object : T)
  | remove (object : T)

namespace StoreOperation

def object : StoreOperation T → T
  | append object => object
  | remove object => object

/-- The effect on the number of stored objects with the identifier of `x`. -/
def count (x : T) (n : Nat) : StoreOperation T → Nat
  | append object => if sameIdentifier x object then n + 1 else n
  | remove object => if sameIdentifier x object then n - 1 else n

/-- How many more objects with the identifier of `x` were appended than removed. -/
def balance (x : T) (operations : List (StoreOperation T)) : Nat := operations.foldl (count x) 0

/-- The last operation on the identifier of `x`, if there is one, is an `append`. -/
def lastIsAppend (x : T) (operations : List (StoreOperation T)) : Bool :=
  match (operations.filter fun operation => sameIdentifier x operation.object).getLast? with
  | some (append _) => true
  | _ => false

end StoreOperation

open StoreOperation

/-! ## Identifiers -/

theorem sameIdentifier_iff (x y : T) :
    sameIdentifier x y = true ↔
      canonicalForm (diffIdentifier y) = canonicalForm (diffIdentifier x) :=
  stringEq_iff _ _

theorem sameIdentifier_self (x : T) : sameIdentifier x x = true := (sameIdentifier_iff x x).mpr rfl

theorem sameIdentifier_comm (x y : T) : sameIdentifier x y = sameIdentifier y x :=
  Bool.eq_iff_iff.mpr (by rw [sameIdentifier_iff, sameIdentifier_iff, eq_comm])

theorem sameIdentifier_congr {x y : T} (h : sameIdentifier x y = true) :
    sameIdentifier y = sameIdentifier x := by
  rw [sameIdentifier_iff] at h
  funext z
  unfold sameIdentifier stringEq
  rw [h]

theorem sameIdentifier_disjoint {x y : T} (h : sameIdentifier x y = false) (z : T)
    (hz : sameIdentifier x z = true) : sameIdentifier y z = false := by
  rw [← Bool.not_eq_true, sameIdentifier_iff] at h ⊢
  rw [sameIdentifier_iff] at hz
  rw [hz]
  exact fun heq => h heq.symm

theorem countP_eraseLast_sameIdentifier (x y : T) (l : List T) :
    (EraseLast.eraseLast (sameIdentifier y) l).countP (sameIdentifier x) =
      if sameIdentifier x y then l.countP (sameIdentifier x) - 1
      else l.countP (sameIdentifier x) := by
  split
  · next hsame => rw [sameIdentifier_congr hsame, EraseLast.countP_eraseLast]
  · next hother =>
    rw [Bool.not_eq_true] at hother
    rw [List.countP_eq_length_filter, List.countP_eq_length_filter,
      EraseLast.filter_eraseLast (sameIdentifier_disjoint hother)]

namespace ATCDiskPersistenceStore

variable (store : ATCDiskPersistenceStore)

def apply (defaults : UserDefaults) : StoreOperation T → UserDefaults
  | .append object => store.append defaults object
  | .remove object => store.remove defaults object

def applyAll (defaults : UserDefaults) (operations : List (StoreOperation T)) : UserDefaults :=
  operations.foldl store.apply defaults

/-! ## Counting -/

theorem contains_iff_countP (defaults : UserDefaults) (x : T) :
    store.contains defaults x = true ↔
      0 < (store.objects defaults T).countP (sameIdentifier x) := by
  rw [contains_eq, List.any_eq_true, List.countP_pos_iff]

theorem countP_apply (defaults : UserDefaults) (x : T) (operation : StoreOperation T) :
    (store.objects (store.apply defaults operation) T).countP (sameIdentifier x) =
      count x ((store.objects defaults T).countP (sameIdentifier x)) operation := by
  rcases operation with y | y
  · simp only [apply, objects_append, List.countP_append, List.countP_singleton, count]
    split <;> rfl
  · simp only [apply, objects_remove, count]
    exact countP_eraseLast_sameIdentifier x y _

theorem countP_applyAll {defaults : UserDefaults} (hempty : store.objects defaults T = [])
    (x : T) (operations : List (StoreOperation T)) :
    (store.objects (store.applyAll defaults operations) T).countP (sameIdentifier x) =
      balance x operations := by
  induction operations using List.reverseRecOn with
  | nil => simp [applyAll, hempty, balance]
  | append_singleton operations operation ih =>
    unfold applyAll balance at *
    rw [List.foldl_append, List.foldl_append, List.foldl_cons, List.foldl_nil, countP_apply, ih]
    rfl

/-! ## The last operation -/

/-- No object is appended while one with its identifier is stored, for that of `x`. -/
def AppendsNew (defaults : UserDefaults) (x : T) (operations : List (StoreOperation T)) : Prop :=
  ∀ before y after, operations = before ++ .append y :: after → sameIdentifier x y = true →
    store.contains (store.applyAll defaults before) x = false

theorem lastIsAppend_append (x y : T) (operations : List (StoreOperation T)) :
    lastIsAppend x (operations ++ [.append y]) =
      (sameIdentifier x y || lastIsAppend x operations) := by
  unfold lastIsAppend
  rcases Bool.eq_false_or_eq_true (sameIdentifier x y) with h | h
  · simp [StoreOperation.object, h]
  · simp [StoreOperation.object, h]

theorem lastIsAppend_remove (x y : T) (operations : List (StoreOperation T)) :
    lastIsAppend x (operations ++ [.remove y]) =
      (!sameIdentifier x y && lastIsAppend x operations) := by
  unfold lastIsAppend
  rcases Bool.eq_false_or_eq_true (sameIdentifier x y) with h | h
  · simp [StoreOperation.object, h]
  · simp [StoreOperation.object, h]

theorem balance_append (x y : T) (operations : List (StoreOperation T)) :
    balance x (operations ++ [.append y]) =
      if sameIdentifier x y then balance x operations + 1 else balance x operations := by
  unfold balance
  rw [List.foldl_append]
  rfl

theorem balance_remove (x y : T) (operations : List (StoreOperation T)) :
    balance x (operations ++ [.remove y]) =
      if sameIdentifier x y then balance x operations - 1 else balance x operations := by
  unfold balance
  rw [List.foldl_append]
  rfl

theorem balance_pos_of_lastIsAppend {x : T} {operations : List (StoreOperation T)}
    (h : lastIsAppend x operations = true) : 0 < balance x operations := by
  induction operations using List.reverseRecOn with
  | nil => cases h
  | append_singleton operations operation ih =>
    rcases operation with y | y
    · rw [lastIsAppend_append, Bool.or_eq_true] at h
      rw [balance_append]
      split
      · exact Nat.succ_pos _
      · next hother => exact ih (h.resolve_left hother)
    · rw [lastIsAppend_remove, Bool.and_eq_true, Bool.not_eq_true'] at h
      rw [balance_remove, if_neg (by simp [h.1])]
      exact ih h.2

theorem balance_of_appendsNew {defaults : UserDefaults} (hempty : store.objects defaults T = [])
    {x : T} {operations : List (StoreOperation T)}
    (h : store.AppendsNew defaults x operations) :
    balance x operations = (lastIsAppend x operations).toNat := by
  induction operations using List.reverseRecOn with
  | nil => rfl
  | append_singleton operations operation ih =>
    have hbefore : store.AppendsNew defaults x operations := by
      rintro before y after rfl hsame
      exact h before y (after ++ [operation]) (by simp) hsame
    have hlast := ih hbefore
    rcases operation with y | y
    · rw [lastIsAppend_append, balance_append]
      split
      · next hsame =>
        have hnew := h operations y [] rfl hsame
        rw [← Bool.not_eq_true, contains_iff_countP, store.countP_applyAll hempty] at hnew
        simp only [hsame, Bool.true_or, Bool.toNat_true]
        omega
      · next hother => simp [hother, hlast]
    · rw [lastIsAppend_remove, balance_remove]
      have hbound := Bool.toNat_le (lastIsAppend x operations)
      split
      · next hsame =>
        simp only [hsame, Bool.not_true, Bool.false_and, Bool.toNat_false]
        omega
      · next hother => simp [hother, hlast]

/-- **The store contains what has a positive balance**: `x` after an `append` of its
identifier, until as many `remove`s follow. The last operation decides when no `append` is
on top of another, and one `remove` is enough when the balance is at most 1. -/
theorem contains_iff_balance {defaults : UserDefaults} (hempty : store.objects defaults T = [])
    (operations : List (StoreOperation T)) (x : T) :
    (store.contains (store.applyAll defaults operations) x = true ↔ 0 < balance x operations) ∧
    (lastIsAppend x operations = true →
      store.contains (store.applyAll defaults operations) x = true) ∧
    (store.AppendsNew defaults x operations →
      (store.contains (store.applyAll defaults operations) x = true ↔
        lastIsAppend x operations = true)) ∧
    (store.contains (store.applyAll defaults (operations ++ [.remove x])) x = false ↔
      balance x operations ≤ 1) := by
  have hcontains : ∀ operations, store.contains (store.applyAll defaults operations) x = true ↔
      0 < balance x operations := by
    intro operations
    rw [contains_iff_countP, store.countP_applyAll hempty]
  refine ⟨hcontains operations, ?_, ?_, ?_⟩
  · intro hlast
    exact (hcontains operations).mpr (balance_pos_of_lastIsAppend hlast)
  · intro hnew
    rw [hcontains, store.balance_of_appendsNew hempty hnew]
    cases lastIsAppend x operations <;> simp
  · have hremove : balance x (operations ++ [.remove x]) = balance x operations - 1 := by
      rw [balance_remove, if_pos (sameIdentifier_self x)]
    rw [← Bool.not_eq_true, hcontains, hremove]
    omega

end ATCDiskPersistenceStore

end Counted

open scoped ASCII

def sampleAsset (ticker : String) : ATCFinanceAsset where
  title := ticker
  ticker := ticker
  priceChange := "+1.5%"
  isPositive := true
  price := "$10.00"
  color := "#000000"
  logoURL := ""

theorem contained_after_remove :
    ¬ ∀ (operations : List (StoreOperation ATCFinanceAsset)) (x : ATCFinanceAsset),
      (ATCDiskPersistenceStore.mk "key").contains
          ((ATCDiskPersistenceStore.mk "key").applyAll (fun _ => none) operations) x = true ↔
        StoreOperation.lastIsAppend x operations = true := by
  -- Two `append`s of one object, of which `remove` takes back one.
  intro hall
  have hcontains := hall [.append (sampleAsset "A"), .append (sampleAsset "A"),
    .remove (sampleAsset "A")] (sampleAsset "A")
  exact absurd hcontains (by decide)

theorem contains_iff_balance_removed :
    (ATCDiskPersistenceStore.mk "key").contains
        ((ATCDiskPersistenceStore.mk "key").applyAll (fun _ => none)
          [.append (sampleAsset "A"), .append (sampleAsset "B"), .remove (sampleAsset "A")])
        (sampleAsset "A") = false := by
  have hempty :
      (ATCDiskPersistenceStore.mk "key").objects (fun _ => none) ATCFinanceAsset = [] := rfl
  have hbalance := (ATCDiskPersistenceStore.contains_iff_balance _ hempty
    [.append (sampleAsset "A"), .append (sampleAsset "B")] (sampleAsset "A")).2.2.2
  exact hbalance.mpr (by decide)

end FinanceApp
