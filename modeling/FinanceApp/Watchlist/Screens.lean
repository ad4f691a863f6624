import FinanceApp.Watchlist.Taps
import Mathlib.Algebra.Group.Nat.Even

/-!
# Screens that show the watchlist

A `WatchlistViewController` reads the store when it is made, an
`AssetDetailsViewController` when it is loaded and at its own taps. Screens that stay on a
navigation stack meanwhile are shown again as they were.
-/

namespace FinanceApp

section Screens

variable [CanonicalForm]

inductive Screen where
  | watchlist (items : List ATCFinanceAsset)
  | assetDetails (asset : ATCFinanceAsset) (icon : String)
  | other

/-- A screen on a stack, and the assets tapped since it last read the store, which the app
does not keep. -/
structure LiveScreen where
  screen : Screen
  missed : List ATCFinanceAsset := []

/-- The stack of each tab, its top first and without the root, which shows no watchlist. -/
structure AppScreens where
  defaults : UserDefaults
  tabs : Nat → List LiveScreen := fun _ => []
  selected : Nat := 0

inductive NavigationStep where
  | openWatchlist
  | openAssetDetails (asset : ATCFinanceAsset)
  | openOther
  | back (count : Nat)
  | selectTab (tab : Nat)
  | tapWatchlistButton
  | relaunch

def LiveScreen.miss (asset : ATCFinanceAsset) (live : LiveScreen) : LiveScreen :=
  { live with missed := live.missed ++ [asset] }

namespace AppScreens

variable (s : AppScreens)

def visible : Option LiveScreen := (s.tabs s.selected).head?

def setStack (stack : List LiveScreen) : AppScreens :=
  { s with tabs := Function.update s.tabs s.selected stack }

def push (screen : Screen) : AppScreens := s.setStack ({ screen } :: s.tabs s.selected)

/-- `back count` leaves `count` screens more than the one in front. A relaunch keeps the
user defaults only. -/
def step : NavigationStep → Option (AppScreens × Unit)
  | .openWatchlist => some (s.push (.watchlist (FinanceApp.watchlist s.defaults)), ())
  | .openAssetDetails asset => some (s.push (.assetDetails asset (iconString s.defaults asset)), ())
  | .openOther => some (s.push .other, ())
  | .back count =>
    if count < (s.tabs s.selected).length then
      some (s.setStack ((s.tabs s.selected).drop (count + 1)), ())
    else none
  | .selectTab tab => some ({ s with selected := tab }, ())
  | .tapWatchlistButton =>
    match s.tabs s.selected with
    | ⟨.assetDetails asset _, _⟩ :: below =>
      let (defaults, icon) := didTapWatchlistButton s.defaults asset
      let others : AppScreens :=
        { s with defaults := defaults, tabs := fun tab => (s.tabs tab).map (·.miss asset) }
      some
        (others.setStack ({ screen := .assetDetails asset icon } :: below.map (·.miss asset)), ())
    | _ => none
  | .relaunch => some ({ defaults := s.defaults }, ())

def machine : Machine AppScreens NavigationStep Unit := ⟨step⟩

end AppScreens

/-! ## What is shown -/

def ShowsStore (defaults : UserDefaults) : Screen → Prop
  | .watchlist items => items = watchlist defaults
  | .assetDetails asset icon =>
    icon = "add-filled-icon" ↔ watchlistStore.contains defaults asset = true
  | .other => True

def VisibleAgrees (_ : AppScreens) (_ : NavigationStep) (s' : AppScreens) (_ : Unit) : Prop :=
  ∀ live, s'.visible = some live → ShowsStore s'.defaults live.screen

/-- The taps that the screen missed undo each other: those on the ticker of its asset are
even in number, those on its list lead back to it. -/
def LiveScreen.UpToDate (live : LiveScreen) : Prop :=
  match live.screen with
  | .watchlist items => live.missed.foldl (fun l asset => toggle asset l) items = items
  | .assetDetails asset _ => Even (live.missed.countP (sameIdentifier asset))
  | .other => True

/-- The screen already loaded that a step comes back to. -/
def AppScreens.revealed (s : AppScreens) : NavigationStep → Option LiveScreen
  | .back count => ((s.tabs s.selected).drop (count + 1)).head?
  | .selectTab tab => (s.tabs tab).head?
  | _ => none

def RevealsUpToDate (s : AppScreens) (a : NavigationStep) (_ : AppScreens) (_ : Unit) : Prop :=
  ∀ live, s.revealed a = some live → live.UpToDate

/-! ## The missed taps -/

/-- The store is what the screen shows, changed by the taps that it missed. -/
def LiveScreen.InSync (defaults : UserDefaults) (live : LiveScreen) : Prop :=
  match live.screen with
  | .watchlist items => watchlist defaults = live.missed.foldl (fun l asset => toggle asset l) items
  | .assetDetails asset icon =>
    watchlistStore.contains defaults asset = true ↔
      (icon = "add-filled-icon" ↔ Even (live.missed.countP (sameIdentifier asset)))
  | .other => True

theorem LiveScreen.InSync.showsStore_iff {defaults : UserDefaults} {live : LiveScreen}
    (h : live.InSync defaults) : ShowsStore defaults live.screen ↔ live.UpToDate := by
  unfold InSync at h
  unfold UpToDate ShowsStore
  rcases live with ⟨items | ⟨asset, icon⟩ | _, missed⟩
  · simp only at h ⊢
    rw [h, eq_comm]
  · simp only at h ⊢
    rw [h]
    tauto
  · rfl

theorem iconString_filled_iff (defaults : UserDefaults) (asset : ATCFinanceAsset) :
    iconString defaults asset = "add-filled-icon" ↔
      watchlistStore.contains defaults asset = true := by
  unfold iconString
  split
  · next h => simp [h]
  · next h => simp [h]

theorem LiveScreen.InSync.miss {defaults : UserDefaults} {live : LiveScreen}
    (hdistinct : Distinct (watchlist defaults)) (h : live.InSync defaults)
    (asset : ATCFinanceAsset) :
    (live.miss asset).InSync (didTapWatchlistButton defaults asset).1 := by
  unfold InSync at h ⊢
  unfold LiveScreen.miss
  rcases live with ⟨items | ⟨shown, icon⟩ | _, missed⟩
  · simp only at h ⊢
    rw [watchlist_didTap, h, List.foldl_append]
    rfl
  · simp only at h ⊢
    have hflip := (didTap_flips hdistinct asset).contained shown
    have hsame : stringEq shown.ticker asset.ticker = sameIdentifier shown asset :=
      sameIdentifier_comm asset shown
    rw [hflip, hsame, List.countP_append, List.countP_singleton]
    split
    · rw [Nat.even_add_one, Bool.not_eq_true', ← Bool.not_eq_true, h]
      tauto
    · exact h
  · trivial

theorem LiveScreen.inSync_watchlist (defaults : UserDefaults) :
    InSync defaults { screen := .watchlist (watchlist defaults) } := rfl

theorem LiveScreen.inSync_assetDetails (defaults : UserDefaults) (asset : ATCFinanceAsset) :
    InSync defaults { screen := .assetDetails asset (iconString defaults asset) } := by
  simp [InSync, iconString_filled_iff]

/-! ## Steps -/

namespace AppScreens

/-- Every screen of every tab is in sync with a list of distinct tickers. -/
structure Tracked (s : AppScreens) : Prop where
  distinct : Distinct (FinanceApp.watchlist s.defaults)
  inSync : ∀ tab, ∀ live ∈ s.tabs tab, live.InSync s.defaults

theorem Tracked.setStack {s : AppScreens} (hs : s.Tracked) {stack : List LiveScreen}
    (hstack : ∀ live ∈ stack, live.InSync s.defaults) : (s.setStack stack).Tracked := by
  refine ⟨hs.distinct, fun tab live hlive => ?_⟩
  simp only [AppScreens.setStack] at hlive ⊢
  rcases eq_or_ne tab s.selected with rfl | hne
  · rw [Function.update_self] at hlive
    exact hstack live hlive
  · rw [Function.update_of_ne hne] at hlive
    exact hs.inSync tab live hlive

theorem Tracked.push {s : AppScreens} (hs : s.Tracked) {screen : Screen}
    (hscreen : LiveScreen.InSync s.defaults { screen }) : (s.push screen).Tracked := by
  refine hs.setStack fun live hlive => ?_
  rcases List.mem_cons.mp hlive with rfl | hbelow
  · exact hscreen
  · exact hs.inSync _ live hbelow

theorem Tracked.miss {s : AppScreens} (hs : s.Tracked) (asset : ATCFinanceAsset) :
    Tracked { s with
      defaults := (didTapWatchlistButton s.defaults asset).1
      tabs := fun tab => (s.tabs tab).map (·.miss asset) } := by
  refine ⟨?_, fun tab live hlive => ?_⟩
  · simp only [watchlist_didTap]
    exact distinct_toggle hs.distinct asset
  · obtain ⟨before, hbefore, rfl⟩ := List.mem_map.mp hlive
    exact (hs.inSync tab before hbefore).miss hs.distinct asset

omit [CanonicalForm] in
@[simp] theorem visible_setStack (s : AppScreens) (stack : List LiveScreen) :
    (s.setStack stack).visible = stack.head? := by
  simp [visible, setStack]

theorem upToDate_fresh (screen : Screen) : LiveScreen.UpToDate { screen } := by
  rcases screen with items | ⟨asset, icon⟩ | _ <;> simp [LiveScreen.UpToDate]

theorem step_spec {s s' : AppScreens} {a : NavigationStep} {e : Unit} (hs : s.Tracked)
    (h : machine.step s a = some (s', e)) : s'.Tracked ∧
      (s'.visible = s.revealed a ∨
        s.revealed a = none ∧ ∀ live, s'.visible = some live → live.UpToDate) := by
  -- A step keeps the screens in sync. It comes back to a screen, or what is in front has just read
  -- the store.
  have hpush : ∀ screen, LiveScreen.InSync s.defaults { screen } → s' = s.push screen →
      s.revealed a = none → s'.Tracked ∧ (s'.visible = s.revealed a ∨
        s.revealed a = none ∧ ∀ live, s'.visible = some live → live.UpToDate) := by
    rintro screen hscreen rfl hrevealed
    refine ⟨hs.push hscreen, .inr ⟨hrevealed, ?_⟩⟩
    intro live hlive
    simp only [push, visible_setStack, List.head?_cons, Option.some.injEq] at hlive
    rw [← hlive]
    exact upToDate_fresh screen
  rcases a with _ | asset | _ | count | tab | _ | _
  · obtain ⟨rfl, _⟩ := Prod.mk.inj (Option.some.inj h)
    exact hpush _ (LiveScreen.inSync_watchlist s.defaults) rfl rfl
  · obtain ⟨rfl, _⟩ := Prod.mk.inj (Option.some.inj h)
    exact hpush _ (LiveScreen.inSync_assetDetails s.defaults asset) rfl rfl
  · obtain ⟨rfl, _⟩ := Prod.mk.inj (Option.some.inj h)
    exact hpush .other trivial rfl rfl
  · simp only [machine, step] at h
    split at h
    · obtain ⟨rfl, _⟩ := Prod.mk.inj (Option.some.inj h)
      refine ⟨hs.setStack fun live hlive => ?_, .inl (visible_setStack _ _)⟩
      exact hs.inSync _ live (List.mem_of_mem_drop hlive)
    · cases h
  · obtain ⟨rfl, _⟩ := Prod.mk.inj (Option.some.inj h)
    exact ⟨⟨hs.distinct, hs.inSync⟩, .inl rfl⟩
  · simp only [machine, step] at h
    split at h
    · next asset icon missed below hstack =>
      obtain ⟨rfl, _⟩ := Prod.mk.inj (Option.some.inj h)
      refine ⟨(hs.miss asset).setStack fun live hlive => ?_, .inr ⟨rfl, fun live hlive => ?_⟩⟩
      · rcases List.mem_cons.mp hlive with rfl | hbelow
        · exact LiveScreen.inSync_assetDetails _ asset
        · refine (hs.miss asset).inSync s.selected live ?_
          simp only [hstack, List.map_cons, List.mem_cons]
          exact .inr hbelow
      · simp only [visible_setStack, List.head?_cons, Option.some.injEq] at hlive
        rw [← hlive]
        exact upToDate_fresh _
    · cases h
  · obtain ⟨rfl, _⟩ := Prod.mk.inj (Option.some.inj h)
    exact ⟨⟨hs.distinct, by simp⟩, .inl rfl⟩

theorem step_agrees_iff {s s' : AppScreens} {a : NavigationStep} {e : Unit} (hs : s.Tracked)
    (h : machine.step s a = some (s', e)) : VisibleAgrees s a s' e ↔ RevealsUpToDate s a s' e := by
  obtain ⟨hs', hvisible⟩ := step_spec hs h
  have hshows : ∀ live, s'.visible = some live →
      (ShowsStore s'.defaults live.screen ↔ live.UpToDate) := by
    intro live hlive
    exact (hs'.inSync s'.selected live (List.mem_of_head? hlive)).showsStore_iff
  unfold VisibleAgrees RevealsUpToDate
  rcases hvisible with hsame | ⟨hnone, hfresh⟩
  · rw [← hsame]
    exact forall₂_congr hshows
  · refine iff_of_true (fun live hlive => (hshows live hlive).mpr (hfresh live hlive)) ?_
    rw [hnone]
    rintro _ ⟨⟩

/-- **The screen in front agrees with the store exactly as long as going back finds the
missed taps undone**, over any navigation and taps from an empty watchlist. -/
theorem screens_agree_iff {defaults : UserDefaults}
    (hempty : FinanceApp.watchlist defaults = []) (steps : List NavigationStep) :
    machine.Always VisibleAgrees { defaults } steps ↔
      machine.Always RevealsUpToDate { defaults } steps := by
  have hstart : Tracked { defaults } := by
    refine ⟨?_, by simp⟩
    simp only [hempty]
    exact List.Pairwise.nil
  exact machine.always_congr hstart (fun hs h => (step_spec hs h).1) step_agrees_iff

end AppScreens

end Screens

open scoped ASCII

theorem screens_agree_opening :
    AppScreens.machine.Always VisibleAgrees { defaults := fun _ => none }
      [.openWatchlist, .openAssetDetails (sampleAsset "A"), .tapWatchlistButton] := by
  have hempty : watchlist (fun _ => none) = [] := rfl
  refine (AppScreens.screens_agree_iff hempty _).mpr ?_
  intro before a after s es s' e hsteps _ _
  have ha : a ∈ ([.openWatchlist, .openAssetDetails (sampleAsset "A"), .tapWatchlistButton] :
      List NavigationStep) := by
    rw [hsteps]
    simp
  simp only [List.mem_cons, List.not_mem_nil, or_false] at ha
  rcases ha with rfl | rfl | rfl <;> rintro _ ⟨⟩

def savedAsset : List NavigationStep :=
  [.openAssetDetails (sampleAsset "A"), .tapWatchlistButton, .back 0, .openWatchlist,
    .openAssetDetails (sampleAsset "A"), .tapWatchlistButton]

def LiveScreen.items (live : LiveScreen) : List ATCFinanceAsset :=
  match live.screen with
  | .watchlist items => items
  | _ => []

theorem removed_asset_listed :
    ¬ ∀ steps, AppScreens.machine.Always VisibleAgrees { defaults := fun _ => none } steps := by
  -- The asset is taken off the list on its own screen, and is still on the list behind.
  intro hall
  have hrun : (AppScreens.machine.run { defaults := fun _ => none } (savedAsset ++ [.back 0])).map
      (fun r => (watchlist r.1.defaults, r.1.visible.map (·.items))) =
        some ([], some [sampleAsset "A"]) := by decide
  obtain ⟨⟨s', log⟩, h, hs⟩ := Option.map_eq_some_iff.mp hrun
  obtain ⟨s, es, e, _, rfl, hagrees⟩ := AppScreens.machine.always_last (hall _) h
  obtain ⟨hstored, hvisible⟩ := Prod.mk.inj hs
  obtain ⟨live, hlive, hitems⟩ := Option.map_eq_some_iff.mp hvisible
  have hshows := hagrees live hlive
  unfold ShowsStore at hshows
  unfold LiveScreen.items at hitems
  split at hshows
  · next items hscreen =>
    rw [hscreen] at hitems
    exact absurd (hitems.symm.trans (hshows.trans hstored)) (by decide)
  · next hscreen => simp [hscreen] at hitems
  · next hscreen => simp [hscreen] at hitems

end FinanceApp
