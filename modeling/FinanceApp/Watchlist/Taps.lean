import FinanceApp.Lib.Machine
import FinanceApp.Persistence.Balance

/-!
# Taps on the watchlist button

A tap removes the asset of the screen from the stored watchlist or appends it. Over any
sequence of taps the list stays a set of tickers, and each tap flips one of them.
-/

namespace FinanceApp

section Taps

variable [CanonicalForm]

def watchlistStore : ATCDiskPersistenceStore := ⟨"asset_watchlist"⟩

def watchlist (defaults : UserDefaults) : List ATCFinanceAsset :=
  watchlistStore.objects defaults ATCFinanceAsset

def iconString (defaults : UserDefaults) (asset : ATCFinanceAsset) : String :=
  if watchlistStore.contains defaults asset then "add-filled-icon" else "add-empty-icon"

/-- The tap on the screen of `asset`, with the icon it leaves there. -/
def didTapWatchlistButton (defaults : UserDefaults) (asset : ATCFinanceAsset) :
    UserDefaults × String :=
  let defaults :=
    if watchlistStore.contains defaults asset then watchlistStore.remove defaults asset
    else watchlistStore.append defaults asset
  (defaults, iconString defaults asset)

def tapMachine : Machine UserDefaults ATCFinanceAsset String :=
  ⟨fun defaults asset => some (didTapWatchlistButton defaults asset)⟩

/-! ## Lists of distinct identifiers -/

section Toggle

variable {T : Type} [ATCPersistable T]

def Distinct (l : List T) : Prop := l.Pairwise fun x y => sameIdentifier x y = false

def toggle (x : T) (l : List T) : List T :=
  if l.any (sameIdentifier x) then EraseLast.eraseLast (sameIdentifier x) l else l ++ [x]

theorem countP_le_one {l : List T} (h : Distinct l) (y : T) : l.countP (sameIdentifier y) ≤ 1 := by
  induction l with
  | nil => simp
  | cons z l ih =>
    obtain ⟨hz, hl⟩ := List.pairwise_cons.mp h
    rw [List.countP_cons]
    split
    · next hsame =>
      have hzero : l.countP (sameIdentifier y) = 0 := by
        rw [List.countP_eq_zero]
        intro w hw
        rw [← sameIdentifier_congr hsame, hz w hw]
        exact Bool.false_ne_true
      omega
    · exact ih hl

theorem distinct_toggle {l : List T} (h : Distinct l) (x : T) : Distinct (toggle x l) := by
  unfold toggle
  split
  · exact h.sublist (EraseLast.eraseLast_sublist _ _)
  · next hnot =>
    rw [List.any_eq_true, not_exists] at hnot
    refine List.pairwise_append.mpr ⟨h, List.pairwise_singleton _ _, ?_⟩
    intro y hy z hz
    rw [List.mem_singleton.mp hz, ← Bool.not_eq_true]
    rw [sameIdentifier_comm]
    exact fun hsame => hnot y ⟨hy, hsame⟩

theorem countP_toggle {l : List T} (h : Distinct l) (x y : T) :
    (toggle x l).countP (sameIdentifier y) =
      if sameIdentifier y x then 1 - l.countP (sameIdentifier y)
      else l.countP (sameIdentifier y) := by
  have hone := countP_le_one h y
  unfold toggle
  split
  · next hany =>
    rw [countP_eraseLast_sameIdentifier]
    split
    · next hsame =>
      rw [sameIdentifier_congr hsame, List.any_eq_true, ← List.countP_pos_iff] at hany
      omega
    · rfl
  · next hany =>
    rw [List.countP_append, List.countP_singleton]
    split
    · next hsame =>
      rw [sameIdentifier_congr hsame, List.any_eq_true, ← List.countP_pos_iff] at hany
      omega
    · rfl

theorem filter_toggle (x : T) (l : List T) :
    (toggle x l).filter (fun y => !sameIdentifier x y) = l.filter fun y => !sameIdentifier x y := by
  unfold toggle
  split
  · exact EraseLast.filter_eraseLast (by simp) l
  · simp [sameIdentifier_self]

end Toggle

/-! ## Steps and runs -/

theorem watchlist_didTap (defaults : UserDefaults) (asset : ATCFinanceAsset) :
    watchlist (didTapWatchlistButton defaults asset).1 = toggle asset (watchlist defaults) := by
  have hcontains := watchlistStore.contains_eq defaults asset
  unfold watchlist toggle didTapWatchlistButton
  simp only [← hcontains]
  split
  · exact watchlistStore.objects_remove defaults asset
  · exact watchlistStore.objects_append defaults asset

/-- A tap flips whether its ticker is stored, keeps the assets of the other tickers as they
are and in their order, and shows the filled icon when the asset is then stored. -/
structure Flips (defaults : UserDefaults) (asset : ATCFinanceAsset) (defaults' : UserDefaults)
    (icon : String) : Prop where
  contained : ∀ other : ATCFinanceAsset, watchlistStore.contains defaults' other =
    if stringEq other.ticker asset.ticker then !watchlistStore.contains defaults other
    else watchlistStore.contains defaults other
  others : (watchlist defaults').filter (fun other => !stringEq other.ticker asset.ticker) =
    (watchlist defaults).filter fun other => !stringEq other.ticker asset.ticker
  icon : icon = "add-filled-icon" ↔ watchlistStore.contains defaults' asset = true

theorem contains_eq_decide (defaults : UserDefaults) (asset : ATCFinanceAsset) :
    watchlistStore.contains defaults asset =
      decide (0 < (watchlist defaults).countP (sameIdentifier asset)) := by
  rw [Bool.eq_iff_iff, watchlistStore.contains_iff_countP, decide_eq_true_eq]
  rfl

theorem didTap_flips {defaults : UserDefaults} (h : Distinct (watchlist defaults))
    (asset : ATCFinanceAsset) :
    Flips defaults asset (didTapWatchlistButton defaults asset).1
      (didTapWatchlistButton defaults asset).2 := by
  constructor
  · intro other
    have hone := countP_le_one h other
    have hsame : stringEq other.ticker asset.ticker = sameIdentifier other asset :=
      sameIdentifier_comm asset other
    rw [contains_eq_decide, contains_eq_decide, watchlist_didTap, countP_toggle h, hsame]
    split
    · rw [← decide_not, decide_eq_decide]
      omega
    · rfl
  · rw [watchlist_didTap]
    exact filter_toggle asset (watchlist defaults)
  · unfold didTapWatchlistButton iconString
    simp only
    split <;> simp_all

theorem tapMachine_step {defaults defaults' : UserDefaults} {asset : ATCFinanceAsset}
    {icon : String} (h : tapMachine.step defaults asset = some (defaults', icon)) :
    (defaults', icon) = didTapWatchlistButton defaults asset :=
  (Option.some.inj h).symm

theorem step_distinct {defaults defaults' : UserDefaults} {asset : ATCFinanceAsset}
    {icon : String} (hs : Distinct (watchlist defaults))
    (h : tapMachine.step defaults asset = some (defaults', icon)) :
    Distinct (watchlist defaults') := by
  have hdefaults : defaults' = (didTapWatchlistButton defaults asset).1 :=
    congrArg Prod.fst (tapMachine_step h)
  rw [hdefaults, watchlist_didTap]
  exact distinct_toggle hs asset

/-- **Each tap flips its ticker**, over any taps on the screens of any assets from an empty
watchlist. The tickers stored stay distinct, and a second tap undoes the first. -/
theorem taps_flip {defaults defaults' : UserDefaults} {taps : List ATCFinanceAsset}
    {icons : List String} (hempty : watchlist defaults = [])
    (hrun : tapMachine.run defaults taps = some (defaults', icons)) :
    ((watchlist defaults').Pairwise fun x y => stringEq y.ticker x.ticker = false) ∧
    tapMachine.Always Flips defaults taps ∧
    ∀ asset other : ATCFinanceAsset,
      watchlistStore.contains
          (didTapWatchlistButton (didTapWatchlistButton defaults' asset).1 asset).1 other =
        watchlistStore.contains defaults' other := by
  have hstart : Distinct (watchlist defaults) := by
    rw [hempty]
    exact List.Pairwise.nil
  have hdistinct := tapMachine.run_invariant step_distinct hstart hrun
  refine ⟨hdistinct, ?_, ?_⟩
  · refine tapMachine.always_of_step (G := fun _ => True) hstart (fun _ _ => trivial)
      (fun _ => step_distinct) ?_
    intro s asset s' icon _ hs hstep
    have hflips := didTap_flips hs asset
    rw [← tapMachine_step hstep] at hflips
    exact hflips
  · intro asset other
    have hfirst := (didTap_flips hdistinct asset).contained other
    have hdistinct' : Distinct (watchlist (didTapWatchlistButton defaults' asset).1) := by
      rw [watchlist_didTap]
      exact distinct_toggle hdistinct asset
    rw [(didTap_flips hdistinct' asset).contained other, hfirst]
    split <;> simp

end Taps

open scoped ASCII

theorem taps_flip_twice :
    ∃ defaults icons, tapMachine.run (fun _ => none)
        [sampleAsset "A", sampleAsset "B", sampleAsset "A"] = some (defaults, icons) ∧
      watchlist defaults = [sampleAsset "B"] ∧
      (watchlist defaults).Pairwise fun x y => stringEq y.ticker x.ticker = false := by
  have hrun : (tapMachine.run (fun _ => none)
      [sampleAsset "A", sampleAsset "B", sampleAsset "A"]).map (fun r => watchlist r.1) =
        some [sampleAsset "B"] := by decide
  obtain ⟨⟨defaults, icons⟩, h, hlist⟩ := Option.map_eq_some_iff.mp hrun
  exact ⟨defaults, icons, h, hlist, (taps_flip rfl h).1⟩

end FinanceApp
