import FinanceApp.DataSources
import FinanceApp.Users.User

/-!
# Fetching friends

`fetchFriends` asks for the document of each friend and completes when it has as many
friends as there are friendships. A friendship without a friend to fetch, or a friend
without a document, keeps it from completing at all.
-/

namespace FinanceApp

/-- The two arguments of the completion of `getDocument`. -/
inductive DocumentAnswer where
  | found (data : JSONDict)
  | missing
  | failed (error : String)

/-- `document?.data()`. -/
def DocumentAnswer.data : DocumentAnswer → Option JSONDict
  | found data => some data
  | missing => none
  | failed _ => none

/-- The variables that the closures of one call share, the documents asked for, and what
`completion` was called with. -/
structure FriendsFetch where
  documentsCount : Nat := 0
  friends : List ATCUser := []
  inFlight : List String := []
  completions : List (List ATCUser) := []

inductive FriendsAction where
  | answer (i : Nat) (answer : DocumentAnswer)

structure FriendsEvent where
  user2 : String
  answer : DocumentAnswer

def user2 (document : JSONDict) : Option String := (document.lookup "user2").bind JSON.asString

namespace FriendsFetch

/-- The completion of the query for the friendships. -/
def queryCompletion (answer : QueryAnswer) : FriendsFetch :=
  match answer.error, answer.documents with
  | some _, _ => {}
  | none, none => {}
  | none, some documents =>
    if documents.length = 0 then { completions := [[]] }
    else { documentsCount := documents.length, inFlight := documents.filterMap user2 }

/-- `query` is the query for the documents whose `user1` is the given uid. -/
def fetchFriends (query : String → QueryAnswer) (user : ATCUser) : FriendsFetch :=
  match user.uid with
  | none => {}
  | some uid => queryCompletion (query uid)

def documentCompletion (s : FriendsFetch) (answer : DocumentAnswer) : FriendsFetch :=
  match answer.data with
  | some userDict =>
    let friends := s.friends ++ [ATCUser.initRepresentation userDict]
    let s := { s with friends := friends }
    if friends.length = s.documentsCount then { s with completions := s.completions ++ [friends] }
    else s
  | none => s

def step (s : FriendsFetch) : FriendsAction → Option (FriendsFetch × FriendsEvent)
  | .answer i answer =>
    s.inFlight[i]?.map fun user2 =>
      (documentCompletion { s with inFlight := s.inFlight.eraseIdx i } answer, ⟨user2, answer⟩)

def machine : Machine FriendsFetch FriendsAction FriendsEvent := ⟨step⟩

/-- The friends whose documents were found, in the order of the answers. -/
def foundFriends (log : List FriendsEvent) : List ATCUser :=
  log.filterMap fun e => e.answer.data.map ATCUser.initRepresentation

/-! ## The count -/

/-- Each friendship that names a friend is either in flight or answered, and `completion` was
called if there are as many friends as friendships. -/
structure Counts (documents : List JSONDict) (log : List FriendsEvent) (s : FriendsFetch) :
    Prop where
  friends : s.friends = foundFriends log
  documentsCount : documents ≠ [] → s.documentsCount = documents.length
  asked : log.length + s.inFlight.length = (documents.filterMap user2).length
  completions : s.completions =
    if s.friends.length = documents.length then [s.friends] else []

theorem foundFriends_concat (log : List FriendsEvent) (e : FriendsEvent) :
    foundFriends (log ++ [e]) =
      foundFriends log ++ (e.answer.data.map ATCUser.initRepresentation).toList := by
  rw [foundFriends, List.filterMap_append]
  cases h : e.answer.data <;> simp [foundFriends, h]

theorem queryCompletion_counts (documents : List JSONDict) :
    Counts documents [] (queryCompletion ⟨some documents, none⟩) := by
  cases documents with
  | nil => exact ⟨rfl, fun hne => absurd rfl hne, rfl, rfl⟩
  | cons document documents =>
    refine ⟨rfl, fun _ => rfl, ?_, ?_⟩
    · simp [queryCompletion]
    · simp [queryCompletion]

theorem step_counts {documents : List JSONDict} {log : List FriendsEvent} {s s' : FriendsFetch}
    {a : FriendsAction} {e : FriendsEvent} (hs : Counts documents log s)
    (h : machine.step s a = some (s', e)) : Counts documents (log ++ [e]) s' := by
  obtain ⟨i, answer⟩ := a
  obtain ⟨id, hid, heq⟩ := Option.map_eq_some_iff.mp h
  obtain ⟨rfl, rfl⟩ := Prod.mk.inj heq
  obtain ⟨hfriends, hcount, hasked, hcompletions⟩ := hs
  have hi := (List.getElem?_eq_some_iff.mp hid).1
  have hleft := List.length_eraseIdx_of_lt hi
  have hnamed : (documents.filterMap user2).length ≤ documents.length :=
    List.length_filterMap_le _ _
  have hfound : (foundFriends log).length ≤ log.length := List.length_filterMap_le _ _
  -- A friend is still to come, so there are fewer than friendships.
  have hfewer : s.friends.length < documents.length := by
    rw [hfriends]; omega
  rw [if_neg (Nat.ne_of_lt hfewer)] at hcompletions
  have hasked' : (log ++ [(⟨id, answer⟩ : FriendsEvent)]).length + (s.inFlight.eraseIdx i).length =
      (documents.filterMap user2).length := by
    rw [List.length_append, List.length_singleton]
    omega
  have hfriends' := foundFriends_concat log ⟨id, answer⟩
  cases hdata : answer.data with
  | none =>
    simp only [hdata, Option.map_none, Option.toList_none, List.append_nil] at hfriends'
    simp only [documentCompletion, hdata]
    refine ⟨hfriends.trans hfriends'.symm, hcount, hasked', ?_⟩
    rw [if_neg (Nat.ne_of_lt hfewer)]
    exact hcompletions
  | some userDict =>
    simp only [hdata, Option.map_some, Option.toList_some] at hfriends'
    rw [← hfriends] at hfriends'
    have hne : documents ≠ [] := by
      rintro rfl
      simp at hfewer
    simp only [documentCompletion, hdata, hcount hne, hcompletions]
    split
    · next hlast => exact ⟨hfriends'.symm, fun _ => rfl, hasked', (if_pos hlast).symm⟩
    · next hmore => exact ⟨hfriends'.symm, fun _ => rfl, hasked', (if_neg hmore).symm⟩

/-- **The completion is called once, with the friends found, exactly when** every
friendship names a friend and every document fetched is there. -/
theorem fetchFriends_completes_iff {query : String → QueryAnswer} {user : ATCUser} {uid : String}
    {documents : List JSONDict} {as : List FriendsAction} {s : FriendsFetch}
    {log : List FriendsEvent} (huid : user.uid = some uid)
    (hquery : query uid = ⟨some documents, none⟩)
    (hrun : machine.run (fetchFriends query user) as = some (s, log))
    (hanswered : s.inFlight = []) :
    (∃ friends, s.completions = [friends] ∧ friends.Perm (foundFriends log)) ↔
      (∀ document ∈ documents, (user2 document).isSome) ∧ ∀ e ∈ log, e.answer.data.isSome := by
  have hstart : fetchFriends query user = queryCompletion ⟨some documents, none⟩ := by
    rw [fetchFriends, huid, ← hquery]
  rw [hstart] at hrun
  obtain ⟨hfriends, _, hasked, hcompletions⟩ := machine.run_induction (P := Counts documents)
    (queryCompletion_counts documents) step_counts hrun
  rw [hanswered, List.length_nil, Nat.add_zero] at hasked
  have hnamed : (documents.filterMap user2).length ≤ documents.length :=
    List.length_filterMap_le _ _
  have hfound : (foundFriends log).length ≤ log.length := List.length_filterMap_le _ _
  have hcomplete : s.friends.length = documents.length ↔
      (documents.filterMap user2).length = documents.length ∧
        (foundFriends log).length = log.length := by
    rw [hfriends]
    omega
  have hall : (foundFriends log).length = log.length ↔ ∀ e ∈ log, e.answer.data.isSome := by
    rw [foundFriends, List.filterMap_length_eq_length]
    simp
  rw [List.filterMap_length_eq_length, hall] at hcomplete
  rw [← hcomplete, hcompletions, ← hfriends]
  split
  · next hlast => exact iff_of_true ⟨s.friends, rfl, .refl _⟩ hlast
  · next hmore =>
    refine iff_of_false ?_ hmore
    rintro ⟨_, ⟨⟩, _⟩

end FriendsFetch

def friendship (uid : String) : JSONDict := [("user1", .string "neo"), ("user2", .string uid)]

theorem fetchFriends_completes_iff_both :
    ∃ s log, FriendsFetch.machine.run
        (.fetchFriends (fun _ => ⟨some [friendship "a", friendship "b"], none⟩)
          { uid := some "neo" })
        [.answer 1 (.found []), .answer 0 (.found [])] = some (s, log) ∧
      ((∃ friends, s.completions = [friends] ∧ friends.Perm (FriendsFetch.foundFriends log)) ↔
        (∀ document ∈ [friendship "a", friendship "b"], (user2 document).isSome) ∧
          ∀ e ∈ log, e.answer.data.isSome) := by
  have hrun : (FriendsFetch.machine.run
      (.fetchFriends (fun _ => ⟨some [friendship "a", friendship "b"], none⟩) { uid := some "neo" })
      [.answer 1 (.found []), .answer 0 (.found [])]).map (·.1.inFlight) = some [] := rfl
  obtain ⟨⟨s, log⟩, h, hanswered⟩ := Option.map_eq_some_iff.mp hrun
  have huid : ({ uid := some "neo" } : ATCUser).uid = some "neo" := rfl
  exact ⟨s, log, h, FriendsFetch.fetchFriends_completes_iff huid rfl h hanswered⟩

theorem missing_friend_blocks :
    ¬ ∀ (query : String → QueryAnswer) (user : ATCUser) (uid : String) (documents : List JSONDict)
      (as : List FriendsAction) (s : FriendsFetch) (log : List FriendsEvent),
      user.uid = some uid → query uid = ⟨some documents, none⟩ →
        FriendsFetch.machine.run (.fetchFriends query user) as = some (s, log) →
        s.inFlight = [] →
        ∃ friends, s.completions = [friends] ∧ friends.Perm (FriendsFetch.foundFriends log) := by
  -- The one friend has no document any more, and the completion is never called.
  intro hall
  obtain ⟨friends, hcompletions, _⟩ := hall (fun _ => ⟨some [friendship "a"], none⟩)
    { uid := some "neo" } "neo" _ [.answer 0 .missing] _ _ rfl rfl rfl rfl
  cases hcompletions

end FinanceApp
