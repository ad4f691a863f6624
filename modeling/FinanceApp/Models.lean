import FinanceApp.Swift

/-!
# The models that lists show

The protocols a listed object conforms to, and the smallest model of the core that
does.
-/

namespace FinanceApp

inductive JSON where
  | null
  | bool (value : Bool)
  | number (value : Rat)
  | string (value : String)
  | array (items : List JSON)
  | object (fields : List (String × JSON))

abbrev JSONDict := List (String × JSON)

class ATCGenericJSONParsable (T : Type) where
  initJsonDict : JSONDict → T

class ATCGenericBaseModel (T : Type) extends ATCGenericJSONParsable T where
  description : T → String

export ATCGenericBaseModel (description)

/-- An image of a list. Its `localImage` is read by the cells only. -/
structure ATCImage where
  urlString : Option String := none
  isActionable : Bool := false
  deriving DecidableEq, Repr

instance : ATCGenericBaseModel ATCImage where
  initJsonDict _ := {}
  description image := image.urlString.getD ""

inductive ATCNavigationMenuItemType where
  | viewController
  | logout
  deriving DecidableEq, Repr

/-- An entry of the menu, or a tab. Its view controller and images are not read here. -/
structure ATCNavigationItem where
  title : String
  type : ATCNavigationMenuItemType
  deriving DecidableEq, Repr

end FinanceApp
