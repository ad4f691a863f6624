import FinanceApp.Models

/-!
# The network layer

What `ATCNetworkingManager` and `ATCAPIManager` hand to a completion. Alamofire is not
part of the app: its result is the input here.
-/

namespace FinanceApp

inductive ATCNetworkResponseStatus where
  | success
  | error (string : Option String)
  deriving DecidableEq, Repr

/-- `response.result` of Alamofire: the value, or the text of the error. -/
structure AlamofireResult where
  value : Option JSON
  localizedDescription : Option String

def getJSONResponse (result : AlamofireResult) : Option JSON × ATCNetworkResponseStatus :=
  match result.value with
  | some json => (some json, .success)
  | none => (none, .error result.localizedDescription)

def JSON.asObject : JSON → Option JSONDict
  | .object fields => some fields
  | _ => none

def JSON.asArrayOfObjects : JSON → Option (List JSONDict)
  | .array items => items.mapM JSON.asObject
  | _ => none

/-- The two arguments of the completion of `retrieveListFromJSON`. -/
structure ListResponse (T : Type) where
  objects : Option (List T)
  status : ATCNetworkResponseStatus

def retrieveListFromJSON {T : Type} [ATCGenericJSONParsable T] (result : AlamofireResult) :
    ListResponse T :=
  match getJSONResponse result with
  | (jsonData, status) =>
    match jsonData.bind JSON.asArrayOfObjects with
    | some jsonArray => ⟨some (jsonArray.map ATCGenericJSONParsable.initJsonDict), status⟩
    | none => ⟨none, status⟩

/-- A request that was answered with JSON succeeds, also where the JSON is not a list of
objects; one that was not answered fails and brings no objects. -/
theorem retrieveListFromJSON_eq {T : Type} [ATCGenericJSONParsable T] (result : AlamofireResult) :
    retrieveListFromJSON (T := T) result =
      ⟨(result.value.bind JSON.asArrayOfObjects).map (List.map ATCGenericJSONParsable.initJsonDict),
        if result.value.isSome then .success else .error result.localizedDescription⟩ := by
  rw [retrieveListFromJSON, getJSONResponse]
  cases result.value with
  | none => rfl
  | some json =>
    simp only [Option.bind_some, Option.isSome_some, if_true]
    cases json.asArrayOfObjects <;> rfl

end FinanceApp
