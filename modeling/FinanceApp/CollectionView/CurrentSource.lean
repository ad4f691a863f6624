import FinanceApp.CollectionView.Rows

/-!
# Calls from a source that was replaced

A source keeps its delegate when the controller gets another one, and the delegate
methods do not look at which source calls. When a call leaves the rows in step with the
current source, and when it does not.
-/

namespace FinanceApp

namespace ListScreen

variable {T : Type}

/-- A call of a source that is not the current one inserts no rows and changes none; each
update leaves as many rows as the current source has objects, and only updates change rows. -/
structure ShowsCurrent (s : ListScreen T) (_ : ScreenAction T) (s' : ListScreen T)
    (e : ScreenEvent T) : Prop where
  replaced : ∀ id call, e.received = some (id, call) → s.controller.genericDataSource ≠ some id →
    (∀ rows, e.update = some (.insertItems rows) → rows = []) ∧
      s'.controller.rows = s.controller.rows
  updated : e.update ≠ none → s'.controller.rows = s'.numberOfItemsInSection
  untouched : e.update = none → s'.controller.rows = s.controller.rows

/-- The call comes while the rows match the current source, unless it makes that source
reload; and a replaced source has nothing to insert. -/
def CallInTurn (s : ListScreen T) (id : Nat) (call : DelegateCall T) : Prop :=
  (s.controller.genericDataSource ≠ some id ∨ (∃ objects, call = .didLoadBottom objects) →
    s.controller.rows = s.numberOfItemsInSection) ∧
  (s.controller.genericDataSource ≠ some id → ∀ objects, call = .didLoadBottom objects →
    objects = [])

def CallsInTurn (s : ListScreen T) (_ : ScreenAction T) (_ : ListScreen T) (e : ScreenEvent T) :
    Prop :=
  ∀ id call, e.received = some (id, call) → CallInTurn s id call

/-! ## One call -/

theorem receive_current {s : ListScreen T} {id : Nat} {source : DataSource T}
    {call : DelegateCall T} (current : s.controller.genericDataSource = some id)
    (hmatch : DataSource.CallMatches (s.sources id) source (some call)) :
    ((s.setSource id source).receive id call).1.controller.rows =
        ((s.setSource id source).receive id call).1.numberOfItemsInSection ↔
      ((∃ objects, call = .didLoadBottom objects) →
        s.controller.rows = s.numberOfItemsInSection) := by
  rw [receive_numberOfItems]
  rcases (s.setSource id source).receive_rows id call with
    ⟨objects, rfl, hrows, _⟩ | ⟨hne, hrows, _⟩
  · have happend : source.objects = (s.sources id).objects ++ objects := hmatch
    have hcount : s.numberOfItemsInSection = (s.sources id).objects.length := by
      simp [numberOfItemsInSection, current]
    have hkept : (s.setSource id source).controller.rows = s.controller.rows := rfl
    rw [hrows, hkept, setSource_numberOfItems_self _ current, happend, List.length_append, hcount]
    constructor
    · intro h _; omega
    · intro h; rw [h ⟨objects, rfl⟩]
  · rw [hrows]
    simp [hne]

theorem receive_replaced {s : ListScreen T} {id : Nat} (source : DataSource T)
    (call : DelegateCall T) (hother : s.controller.genericDataSource ≠ some id) :
    ((∀ rows, ((s.setSource id source).receive id call).2 = .insertItems rows → rows = []) ∧
        ((s.setSource id source).receive id call).1.controller.rows = s.controller.rows ∧
        ((s.setSource id source).receive id call).1.controller.rows =
          ((s.setSource id source).receive id call).1.numberOfItemsInSection) ↔
      s.controller.rows = s.numberOfItemsInSection ∧
        ∀ objects, call = .didLoadBottom objects → objects = [] := by
  have hkept : (s.setSource id source).controller.rows = s.controller.rows := rfl
  rw [receive_numberOfItems, setSource_numberOfItems_other source hother]
  rcases (s.setSource id source).receive_rows id call with
    ⟨objects, rfl, hrows, hupdate⟩ | ⟨hne, hrows, hupdate⟩
  · rw [hrows, hkept, hupdate]
    constructor
    · rintro ⟨_, hlength, hcount⟩
      have hnil : objects = [] := List.length_eq_zero_iff.mp (by omega)
      refine ⟨by omega, ?_⟩
      rintro _ ⟨⟩
      exact hnil
    · rintro ⟨hcount, hnil⟩
      obtain rfl := hnil objects rfl
      refine ⟨?_, rfl, hcount⟩
      rintro _ ⟨⟩
      rfl
  · rw [hrows, setSource_numberOfItems_other source hother, hupdate]
    constructor
    · rintro ⟨_, hcount, _⟩
      exact ⟨hcount.symm, fun objects heq => absurd heq (hne objects)⟩
    · rintro ⟨hcount, _⟩
      exact ⟨by rintro _ ⟨⟩, hcount.symm, rfl⟩

/-! ## Steps and runs -/

variable [CanonicalForm] [ATCGenericBaseModel T]

theorem callSource_showsCurrent {s s' : ListScreen T} {id : Nat} {action : DataSourceAction T}
    {a : ScreenAction T} {e : ScreenEvent T} (h : s.callSource id action = some (s', e)) :
    ShowsCurrent s a s' e ↔ CallsInTurn s a s' e := by
  obtain ⟨source, call, hstep, hcases⟩ := callSource_cases h
  rcases hcases with ⟨_, rfl, rfl⟩ | ⟨c, rfl, _, rfl, rfl⟩
  · -- No call reaches the controller.
    constructor
    · rintro _ _ _ ⟨⟩
    · intro _
      exact ⟨by rintro _ _ ⟨⟩, fun hne => absurd rfl hne, fun _ => rfl⟩
  · have hmatch := DataSource.step_callMatches hstep
    by_cases hcurrent : s.controller.genericDataSource = some id
    · have hshown := receive_current hcurrent hmatch
      constructor
      · rintro hs _ _ ⟨⟩
        refine ⟨?_, fun hne => absurd hcurrent hne⟩
        rintro (hne | hbottom)
        · exact absurd hcurrent hne
        · exact hshown.mp (hs.updated (by simp)) hbottom
      · intro hs
        have hrows := (hs id c rfl).1
        refine ⟨?_, fun _ => hshown.mpr fun hbottom => hrows (.inr hbottom), by rintro ⟨⟩⟩
        rintro _ _ ⟨⟩ hne
        exact absurd hcurrent hne
    · have hshown := receive_replaced source c hcurrent
      constructor
      · rintro hs _ _ ⟨⟩
        obtain ⟨hinserts, hkept⟩ := hs.replaced id c rfl hcurrent
        have hboth := hshown.mp
          ⟨fun rows hrows => hinserts rows (by rw [hrows]), hkept, hs.updated (by simp)⟩
        exact ⟨fun _ => hboth.1, fun _ => hboth.2⟩
      · intro hs
        obtain ⟨hrows, hnil⟩ := hs id c rfl
        obtain ⟨hinserts, hkept, hcount⟩ := hshown.mpr ⟨hrows (.inl hcurrent), hnil hcurrent⟩
        refine ⟨?_, fun _ => hcount, by rintro ⟨⟩⟩
        rintro _ _ ⟨⟩ _
        exact ⟨fun rows heq => hinserts rows (Option.some.inj heq), hkept⟩

theorem step_showsCurrent {s s' : ListScreen T} {a : ScreenAction T} {e : ScreenEvent T}
    (h : machine.step s a = some (s', e)) : ShowsCurrent s a s' e ↔ CallsInTurn s a s' e := by
  rcases step_cases h with
    ⟨source, rfl, rfl, rfl⟩ | ⟨rfl, rfl, rfl⟩ | ⟨x, y, rfl, rfl, _⟩ | ⟨x, y, id, action, hcall, _⟩
  · exact iff_of_true ⟨by rintro _ _ ⟨⟩, fun hne => absurd rfl hne, fun _ => rfl⟩ (by rintro _ _ ⟨⟩)
  · exact iff_of_true ⟨by rintro _ _ ⟨⟩, fun _ => rfl, by rintro ⟨⟩⟩ (by rintro _ _ ⟨⟩)
  · exact iff_of_true ⟨by rintro _ _ ⟨⟩, fun hne => absurd rfl hne, fun _ => rfl⟩ (by rintro _ _ ⟨⟩)
  · -- The spinners are no part of what either side says.
    have hspinners := callSource_showsCurrent (a := a) hcall
    constructor
    · intro hs
      exact hspinners.mp ⟨hs.replaced, hs.updated, hs.untouched⟩
    · intro hs
      have hshown := hspinners.mpr hs
      exact ⟨hshown.replaced, hshown.updated, hshown.untouched⟩

/-- **A run shows the current source as long as the calls come in turn**: however sources
are assigned and their requests complete, up to the first call that does not. -/
theorem shows_current_iff (s : ListScreen T) (as : List (ScreenAction T)) :
    machine.Always ShowsCurrent s as ↔ machine.Always CallsInTurn s as :=
  machine.always_congr (I := fun _ => True) trivial (fun _ _ => trivial) fun _ => step_showsCurrent

end ListScreen

open scoped ASCII

def replacedScreen : ListScreen ATCImage where
  controller := { pullToRefreshEnabled := false }
  sources id :=
    if id = 0 then .rest (.initial sampleConfiguration) else .hetero ⟨[⟨some "z", false⟩]⟩

def replacingRun : List (ScreenAction ATCImage) :=
  [.setDataSource (some 0), .viewDidLoad,
    .source 0 (.complete 0 ⟨some [⟨some "a", false⟩], .success⟩), .willDisplay 0,
    .setDataSource (some 1), .source 1 (.load .loadFirst)]

theorem replaced_source_inserts :
    ¬ ∀ as, ListScreen.machine.Always ListScreen.ShowsCurrent replacedScreen as := by
  -- The bottom request is in flight when the source is replaced, and its object is inserted next
  -- to the row of the new source.
  intro hall
  have hrun : (ListScreen.machine.run replacedScreen
      (replacingRun ++ [.source 0 (.complete 0 ⟨some [⟨some "b", false⟩], .success⟩)])).map
      (fun r => (r.1.controller.rows, r.1.numberOfItemsInSection, r.2.getLast?.map (·.update))) =
        some (2, 1, some (some (.insertItems [1]))) := by decide
  obtain ⟨⟨s', log⟩, h, hs⟩ := Option.map_eq_some_iff.mp hrun
  obtain ⟨s, es, e, _, rfl, hshown⟩ := ListScreen.machine.always_last (hall _) h
  simp only [List.getLast?_append, List.getLast?_singleton, Option.some_or, Option.map_some,
    Prod.mk.injEq, Option.some.injEq] at hs
  obtain ⟨hrows, hcount, hupdate⟩ := hs
  have heq := hshown.updated (by simp [hupdate])
  omega

end FinanceApp
