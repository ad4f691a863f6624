import FinanceApp.Users.User
import Mathlib.Tactic.SplitIfs

/-!
# Logout and its event

Selecting a row records "User Logout" by its number, on every list. What logs the user
out is the object in the row, on the profile screen and on the menu.
-/

namespace FinanceApp

def ATCUser.fullName (self : ATCUser) : String :=
  match self.firstName, self.lastName with
  | some firstName, some lastName => firstName ++ " " ++ lastName
  | _, _ => self.firstName.getD ""

/-- The objects that a selection tells apart. -/
inductive ListObject where
  | image (urlString : Option String)
  | text (text : String)
  | profileItem (title : String)
  | profileButtonItem (title : String)
  | navigationItem (type : ATCNavigationMenuItemType)
  | keyboardKey
  | cardFooter
  | expenseCategory (title : String)
  | financeAccount
  | financeInstitution
  | financeAsset
  | financeNews (isURL : Bool)
  | other (stringClass : String)
  deriving DecidableEq, Repr

def ListObject.isButton : ListObject → Bool
  | profileButtonItem _ => true
  | _ => false

def ListObject.isLogoutItem : ListObject → Bool
  | navigationItem .logout => true
  | _ => false

inductive SelectionEffect where
  | recordEvent (name : String) (props : List (String × String))
  | post (name : String)
  | push (viewController : String)
  | navigateTo
  | dismiss
  | tapKey
  deriving DecidableEq, Repr

def kLogoutNotificationName : String := "kLogoutNotificationName"

abbrev SelectionBlock := ListObject → List SelectionEffect

/-! ## The selection blocks -/

/-- The block of the host. `user` is the one of the data source provider. -/
def profileBlock (user : Option ATCUser) : SelectionBlock
  | .profileButtonItem _ => [.post kLogoutNotificationName]
  | .profileItem title =>
    if title = "Settings" ∧ user.isSome then [.push "SettingsViewController"]
    else if title = "Account Details" ∧ user.isSome then
      [.push "FinanceAccountDetailsViewController"]
    else []
  | _ => []

/-- The lists other than the profile and the menu. -/
inductive OtherList where
  | keyboard
  | expenseCategories
  | assetDetails
  | bankAccounts
  | addInstitution
  | stocks
  | liabilities
  | crypto
  | notifications
  | stocksHome
  | newsPreview
  | investments
  | watchlist
  | news
  | cryptoPreview
  | stocksPreview
  | cash
  | assetSearch
  | withoutBlock
  deriving DecidableEq, Repr

def assetBlock (events : List SelectionEffect) : SelectionBlock
  | .financeAsset => .push "AssetDetailsViewController" :: events
  | _ => []

/-- A card of accounts records which card it is. -/
def accountBlock (event : String) (props : List (String × String)) : SelectionBlock
  | .financeAccount => [.push "TransactionsViewController", .recordEvent event props]
  | _ => []

def newsBlock (events : List SelectionEffect) : SelectionBlock
  | .financeNews isURL => if isURL then .push "ATCWebViewController" :: events else []
  | _ => []

/-- The footer of a card opens a screen, the other rows are the block's. -/
def footerBlock (viewController : String) (block : SelectionBlock) : SelectionBlock
  | .cardFooter => [.push viewController]
  | object => block object

def OtherList.selectionBlock : OtherList → Option SelectionBlock
  | keyboard => some fun
    | .keyboardKey => [.tapKey]
    | _ => []
  | expenseCategories => some <| footerBlock "ExpenseCategoriesViewController" fun
    | .expenseCategory title =>
      [.push "TransactionsViewController", .recordEvent "Expense Viewed" [("Page viewed", title)]]
    | _ => []
  | assetDetails | news => some <| newsBlock []
  | bankAccounts => some fun
    | .financeAccount => [.push "BankAccountViewController"]
    | _ => []
  | addInstitution => some fun
    | .financeInstitution => [.dismiss]
    | _ => []
  | stocks | crypto | watchlist | assetSearch => some <| assetBlock []
  | liabilities => some <| accountBlock "Home page viewed" [("page viewed", "Liablities")]
  | investments => some <| accountBlock "Investments" [("page viewed", "Investments")]
  | cash => some <| accountBlock "Home Page viewed" [("Page Viewed", "Cash")]
  | notifications => some fun _ => []
  | stocksHome => some <| footerBlock "WatchlistViewController" fun _ => []
  | newsPreview => some <| footerBlock "NewsViewController" <|
    newsBlock [.recordEvent "Portfolio" [("page viewed", "News")]]
  | cryptoPreview => some <| footerBlock "CryptoHomeViewController" <|
    assetBlock [.recordEvent "Portfolio Viewed" [("page Viewed", "cryptocurrency")]]
  | stocksPreview => some <| footerBlock "StocksHomeViewController" <|
    assetBlock [.recordEvent "Portfolio Viewed" [("page viewed", "stocks")]]
  | withoutBlock => none

/-! ## Selecting a row -/

def select : Option SelectionBlock → Option ListObject → List SelectionEffect
  | some selectionBlock, some object => selectionBlock object
  | _, _ => []

/-- `didSelectItemAt` of every list but the menu. -/
def didSelectItemAt (selectionBlock : Option SelectionBlock) (objects : List ListObject)
    (row : Nat) : List SelectionEffect :=
  (if row = 5 then [.recordEvent "User Logout" []] else []) ++ select selectionBlock objects[row]?

def menuDidSelectItemAt (objects : List ListObject) (row : Nat) : List SelectionEffect :=
  match objects[row]? with
  | some (.navigationItem .logout) => [.post kLogoutNotificationName]
  | some (.navigationItem .viewController) => [.navigateTo]
  | _ => []

/-- The rows above the items of the profile. -/
def profileHeader : Option ATCUser → List ListObject
  | some user => [.image user.profilePictureURL, .text (user.email.getD ""), .text user.fullName]
  | none => []

/-- The objects that `update` gives the data source of the profile. -/
def profileObjects (user : Option ATCUser) (items : List ListObject) : List ListObject :=
  profileHeader user ++ items ++ [.profileButtonItem "Logout"]

inductive SelectionScreen where
  | profile (user providerUser : Option ATCUser) (items : List ListObject)
  | menu (objects : List ListObject)
  | list (kind : OtherList) (objects : List ListObject)

namespace SelectionScreen

def objects : SelectionScreen → List ListObject
  | profile user _ items => profileObjects user items
  | menu objects => objects
  | list _ objects => objects

def didSelect : SelectionScreen → Nat → List SelectionEffect
  | profile user providerUser items =>
    didSelectItemAt (some (profileBlock providerUser)) (profileObjects user items)
  | menu objects => menuDidSelectItemAt objects
  | list kind objects => didSelectItemAt kind.selectionBlock objects

end SelectionScreen

def recordsLogout (effects : List SelectionEffect) : Prop :=
  ∃ props, .recordEvent "User Logout" props ∈ effects

def postsLogout (effects : List SelectionEffect) : Prop :=
  .post kLogoutNotificationName ∈ effects

/-- The event, the object and the notification agree about a selection. -/
structure LogoutRecorded (screen : SelectionScreen) (row : Nat) : Prop where
  button : recordsLogout (screen.didSelect row) ↔ (screen.objects[row]?).any ListObject.isButton
  posts : recordsLogout (screen.didSelect row) ↔ postsLogout (screen.didSelect row)

/-! ## When the event is right -/

section Blocks

theorem recordsLogout_append (effects effects' : List SelectionEffect) :
    recordsLogout (effects ++ effects') ↔ recordsLogout effects ∨ recordsLogout effects' := by
  simp only [recordsLogout, List.mem_append, exists_or]

theorem postsLogout_append (effects effects' : List SelectionEffect) :
    postsLogout (effects ++ effects') ↔ postsLogout effects ∨ postsLogout effects' :=
  List.mem_append

@[simp] theorem not_recordsLogout_nil : ¬recordsLogout [] := by simp [recordsLogout]

@[simp] theorem not_postsLogout_nil : ¬postsLogout [] := List.not_mem_nil

theorem not_recordsLogout_profileBlock (user : Option ATCUser) (object : ListObject) :
    ¬recordsLogout (profileBlock user object) := by
  cases object with
  | profileItem title =>
    simp only [profileBlock]
    split_ifs <;> simp [recordsLogout]
  | profileButtonItem title => simp [profileBlock, recordsLogout]
  | _ => simp [profileBlock]

theorem postsLogout_profileBlock (user : Option ATCUser) (object : ListObject) :
    postsLogout (profileBlock user object) ↔ object.isButton := by
  cases object with
  | profileItem title =>
    simp only [profileBlock]
    split_ifs <;> simp [postsLogout, ListObject.isButton]
  | profileButtonItem title => simp [profileBlock, postsLogout, ListObject.isButton]
  | _ => simp [profileBlock, ListObject.isButton]

/-- A block that neither posts the notification nor records the event. -/
def Silent (block : SelectionBlock) : Prop :=
  ∀ object, ¬recordsLogout (block object) ∧ ¬postsLogout (block object)

theorem silent_nothing : Silent fun _ => [] :=
  fun _ => ⟨not_recordsLogout_nil, not_postsLogout_nil⟩

theorem silent_assetBlock {events : List SelectionEffect}
    (h : ¬recordsLogout events ∧ ¬postsLogout events) : Silent (assetBlock events) := by
  intro object
  cases object with
  | financeAsset => simpa [assetBlock, recordsLogout, postsLogout] using h
  | _ => simp [assetBlock]

theorem silent_accountBlock {event : String} {props : List (String × String)}
    (h : event ≠ "User Logout") : Silent (accountBlock event props) := by
  intro object
  cases object with
  | financeAccount => simp [accountBlock, recordsLogout, postsLogout, h.symm]
  | _ => simp [accountBlock]

theorem silent_newsBlock {events : List SelectionEffect}
    (h : ¬recordsLogout events ∧ ¬postsLogout events) : Silent (newsBlock events) := by
  intro object
  cases object with
  | financeNews isURL =>
    cases isURL with
    | false => simp [newsBlock]
    | true => simpa [newsBlock, recordsLogout, postsLogout] using h
  | _ => simp [newsBlock]

theorem silent_footerBlock {viewController : String} {block : SelectionBlock}
    (h : Silent block) : Silent (footerBlock viewController block) := by
  intro object
  cases object with
  | cardFooter => simp [footerBlock, recordsLogout, postsLogout]
  | _ => exact h _

theorem quiet_event {event : String} {props : List (String × String)} (h : event ≠ "User Logout") :
    ¬recordsLogout [.recordEvent event props] ∧ ¬postsLogout [.recordEvent event props] := by
  simp [recordsLogout, postsLogout, h.symm]

theorem selectionBlock_silent {kind : OtherList} {block : SelectionBlock}
    (h : kind.selectionBlock = some block) : Silent block := by
  cases kind <;> cases h
  case keyboard => intro object; cases object <;> simp [recordsLogout, postsLogout]
  case expenseCategories =>
    apply silent_footerBlock
    intro object
    cases object <;> simp [recordsLogout, postsLogout]
  case bankAccounts => intro object; cases object <;> simp [recordsLogout, postsLogout]
  case addInstitution => intro object; cases object <;> simp [recordsLogout, postsLogout]
  case assetDetails | news =>
    exact silent_newsBlock ⟨not_recordsLogout_nil, not_postsLogout_nil⟩
  case stocks | crypto | watchlist | assetSearch =>
    exact silent_assetBlock ⟨not_recordsLogout_nil, not_postsLogout_nil⟩
  case liabilities | investments | cash => exact silent_accountBlock (by decide)
  case notifications => exact silent_nothing
  case stocksHome => exact silent_footerBlock silent_nothing
  case newsPreview => exact silent_footerBlock (silent_newsBlock (quiet_event (by decide)))
  case cryptoPreview | stocksPreview =>
    exact silent_footerBlock (silent_assetBlock (quiet_event (by decide)))

end Blocks

section Selection

variable {selectionBlock : Option SelectionBlock} {objects : List ListObject} {row : Nat}

theorem recordsLogout_didSelectItemAt
    (hblock : ∀ block object, selectionBlock = some block → ¬recordsLogout (block object)) :
    recordsLogout (didSelectItemAt selectionBlock objects row) ↔ row = 5 := by
  have hselect : ¬recordsLogout (select selectionBlock objects[row]?) := by
    unfold select
    split
    · exact hblock _ _ rfl
    · exact not_recordsLogout_nil
  rw [didSelectItemAt, recordsLogout_append, or_iff_left hselect]
  split
  · next hrow => simpa [recordsLogout] using hrow
  · next hrow => simpa using hrow

theorem postsLogout_didSelectItemAt :
    postsLogout (didSelectItemAt selectionBlock objects row) ↔
      postsLogout (select selectionBlock objects[row]?) := by
  have hevent : ¬postsLogout (if row = 5 then [.recordEvent "User Logout" []] else []) := by
    split <;> simp [postsLogout]
  rw [didSelectItemAt, postsLogout_append, or_iff_right hevent]

theorem not_recordsLogout_menu : ¬recordsLogout (menuDidSelectItemAt objects row) := by
  unfold menuDidSelectItemAt
  split <;> simp [recordsLogout]

theorem postsLogout_menu :
    postsLogout (menuDidSelectItemAt objects row) ↔
      (objects[row]?).any ListObject.isLogoutItem := by
  unfold menuDidSelectItemAt
  cases objects[row]? with
  | none => simp
  | some object =>
    cases object with
    | navigationItem type => cases type <;> simp [postsLogout, ListObject.isLogoutItem]
    | _ => simp [ListObject.isLogoutItem]

end Selection

/-- The rows of the profile that hold a button: the last one, and those of the items. -/
def ButtonRow (user : Option ATCUser) (items : List ListObject) (row : Nat) : Prop :=
  row = (profileHeader user).length + items.length ∨
    (profileHeader user).length ≤ row ∧
      (items[row - (profileHeader user).length]?).any ListObject.isButton

theorem profileHeader_not_isButton (user : Option ATCUser) :
    ∀ object ∈ profileHeader user, object.isButton = false := by
  cases user with
  | none => simp [profileHeader]
  | some user => simp [profileHeader, ListObject.isButton]

theorem profileObjects_isButton_iff (user : Option ATCUser) (items : List ListObject) (row : Nat) :
    ((profileObjects user items)[row]?).any ListObject.isButton ↔ ButtonRow user items row := by
  rw [profileObjects, ButtonRow, List.append_assoc]
  rcases Nat.lt_or_ge row (profileHeader user).length with habove | hbelow
  · have hheader := profileHeader_not_isButton user _ (List.getElem_mem habove)
    rw [List.getElem?_append_left habove, List.getElem?_eq_getElem habove, Option.any_some, hheader]
    simp only [Bool.false_eq_true, false_iff]
    omega
  · rw [List.getElem?_append_right hbelow]
    rcases Nat.lt_or_ge (row - (profileHeader user).length) items.length with hitem | hlast
    · rw [List.getElem?_append_left hitem]
      have hne : row ≠ (profileHeader user).length + items.length := by omega
      simp only [hne, false_or, hbelow, true_and]
    · rw [List.getElem?_append_right hlast, List.getElem?_eq_none hlast]
      rcases eq_or_ne row ((profileHeader user).length + items.length) with heq | hne
      · simp [heq, ListObject.isButton]
      · have hafter : [ListObject.profileButtonItem "Logout"].length ≤
            row - (profileHeader user).length - items.length := by
          rw [List.length_singleton]
          omega
        rw [List.getElem?_eq_none hafter]
        simp [hne]

/-- On the profile row 5 is the row of a button, and no other is. Other lists have no
button, and nothing in row 5; the menu has no button and no logout item. -/
def RecordedRight : SelectionScreen → Nat → Prop
  | .profile user _ items, row => row = 5 ↔ ButtonRow user items row
  | .menu objects, row =>
    ¬(objects[row]?).any ListObject.isButton ∧ ¬(objects[row]?).any ListObject.isLogoutItem
  | .list _ objects, row => row ≠ 5 ∧ ¬(objects[row]?).any ListObject.isButton

/-- **The event is right on a row of the profile exactly if it is both row 5 and the row of a
button or neither, and on a row of another list exactly if it is neither.** -/
theorem logout_recorded_iff (screen : SelectionScreen) (row : Nat) :
    LogoutRecorded screen row ↔ RecordedRight screen row := by
  have hrecorded : LogoutRecorded screen row ↔
      (recordsLogout (screen.didSelect row) ↔ (screen.objects[row]?).any ListObject.isButton) ∧
        (recordsLogout (screen.didSelect row) ↔ postsLogout (screen.didSelect row)) :=
    ⟨fun h => ⟨h.button, h.posts⟩, fun h => ⟨h.1, h.2⟩⟩
  rw [hrecorded]
  cases screen with
  | profile user providerUser items =>
    have hrecords :
        recordsLogout ((SelectionScreen.profile user providerUser items).didSelect row) ↔ row = 5 :=
      recordsLogout_didSelectItemAt fun block object hblock => by
        cases hblock
        exact not_recordsLogout_profileBlock providerUser object
    have hposts : postsLogout ((SelectionScreen.profile user providerUser items).didSelect row) ↔
        ((profileObjects user items)[row]?).any ListObject.isButton := by
      rw [SelectionScreen.didSelect, postsLogout_didSelectItemAt]
      cases (profileObjects user items)[row]? with
      | none => simp [select]
      | some object => exact postsLogout_profileBlock providerUser object
    rw [hrecords, hposts, SelectionScreen.objects, profileObjects_isButton_iff, RecordedRight,
      and_self]
  | menu objects =>
    rw [SelectionScreen.didSelect, SelectionScreen.objects, iff_false_intro not_recordsLogout_menu,
      postsLogout_menu, false_iff, false_iff, RecordedRight]
  | list kind objects =>
    have hrecords : recordsLogout ((SelectionScreen.list kind objects).didSelect row) ↔ row = 5 :=
      recordsLogout_didSelectItemAt fun block object hblock =>
        (selectionBlock_silent hblock object).1
    have hposts : ¬postsLogout ((SelectionScreen.list kind objects).didSelect row) := by
      rw [SelectionScreen.didSelect, postsLogout_didSelectItemAt]
      unfold select
      split
      · next hblock _ => exact (selectionBlock_silent hblock _).2
      · exact not_postsLogout_nil
    rw [hrecords, iff_false_intro hposts, iff_false, SelectionScreen.objects, RecordedRight]
    refine ⟨fun h => ⟨h.2, fun hbutton => h.2 (h.1.mpr hbutton)⟩, fun h => ⟨?_, h.1⟩⟩
    exact iff_of_false h.1 h.2

/-- The items that the host gives the profile. -/
def selfProfileItems : List ListObject :=
  [.profileItem "Account Details", .profileItem "Settings", .profileItem "Contact Us"]

theorem contact_us_records_logout :
    ¬∀ (screen : SelectionScreen) (row : Nat), LogoutRecorded screen row := by
  -- With a user, "Contact Us" records a logout.
  intro hall
  have hposts := (hall (.profile (some {}) (some {}) selfProfileItems) 5).posts
  have hrecorded := hposts.mp ⟨[], List.mem_cons_self⟩
  simp [postsLogout, SelectionScreen.didSelect, didSelectItemAt, select, profileObjects,
    profileHeader, selfProfileItems, profileBlock] at hrecorded

end FinanceApp
