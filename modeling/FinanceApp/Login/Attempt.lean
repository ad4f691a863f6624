import FinanceApp.DataSources
import FinanceApp.Users.SaveUser

/-!
# Login and sign-up attempts

What `ATCLoginScreenManager` and `ATCSignUpScreenManager` do with a tap and with each
answer of the servers: send the next request, call the completion delegate, or show the
error alert. A chain of callbacks is a chain of requests here, each with what its closure
captured.
-/

namespace FinanceApp

structure ATCOnboardingServerConfiguration where
  isFirebaseAuthEnabled : Bool
  appIdentifier : String

/-- The user manager has no state of its own. -/
structure ATCSocialFirebaseUserManager where

/-- What the login and the sign-up manager are made with. -/
structure OnboardingManagers where
  serverConfig : ATCOnboardingServerConfiguration
  userManager : Option ATCSocialFirebaseUserManager

/-- The user of an e-mail login, for when the server has no document about it. -/
def FirebaseUser.loginUser (user : FirebaseUser) : ATCUser :=
  .init user.uid (user.displayName.getD "") "" (user.photoURL.getD "") (user.email.getD "")
    none (some []) false

/-! ## Requests and answers -/

inductive AttemptRequest where
  | signIn (email password : String)
  | fetchUser (user : FirebaseUser)
  | facebookLogIn
  | facebookSignIn (accessToken : String)
  | facebookGraphMe (accessToken : String)
  | createUser (email password : String)

/-- The result of the Facebook dialog has a token in the first case only, which is when
`AccessToken.current` is looked at. -/
inductive FacebookDialogResult where
  | loggedIn (currentAccessToken : Option String)
  | cancelled
  | failed (error : String)

inductive AttemptAnswer where
  | auth (user : Option FirebaseUser)
  | created (user : Option FirebaseUser) (nameText : Option String)
  | query (answer : QueryAnswer)
  | facebookDialog (result : FacebookDialogResult)
  | graph (error : Option String)

/-- A query for the documents whose `userID` is the given one brings such documents. -/
def QueryAnswer.isAbout (userID : String) (answer : QueryAnswer) : Bool :=
  (answer.documents.getD []).all fun document =>
    (document.lookup "userID").bind JSON.asString == some userID

/-- `fetchUser`: what it hands to its completion, when it calls it. -/
def fetchUserCompletion (answer : QueryAnswer) : Option (Option ATCUser) :=
  match answer.error, answer.documents with
  | some _, _ => none
  | none, none => none
  | none, some (document :: _) => some (some (.initRepresentation document))
  | none, some [] => some none

/-! ## The managers -/

inductive AttemptOutcome where
  | completed (user : Option ATCUser)
  | alert (title : String)

structure Reaction where
  saved : Option ATCUser := none
  request : Option AttemptRequest := none
  outcome : Option AttemptOutcome := none

def showLoginError : Reaction where
  outcome := some (.alert "The login credentials are invalid. Please try again")

def showSignUpError : Reaction where
  outcome := some (.alert
    "There was an error during the registration process. Please check all the fields and try again.")

/-- A tap, with what the text fields hold. -/
inductive Attempt where
  | login (contactPoint password : Option String)
  | facebook
  | signUp (email password : Option String)

namespace OnboardingManagers

variable (managers : OnboardingManagers)

def didTapLoginButton (contactPoint password : Option String) : Reaction :=
  if managers.serverConfig.isFirebaseAuthEnabled then
    match contactPoint, password with
    | some email, some password => { request := some (.signIn email password) }
    | _, _ => showLoginError
  else { outcome := some (.completed none) }

def didTapFacebookButton : Reaction := { request := some .facebookLogIn }

def didTapSignUpButton (email password : Option String) : Reaction :=
  if managers.serverConfig.isFirebaseAuthEnabled then
    match email, password with
    | some email, some password => { request := some (.createUser email password) }
    | _, _ => showSignUpError
  else { outcome := some (.completed none) }

def didTap : Attempt → Reaction
  | .login contactPoint password => managers.didTapLoginButton contactPoint password
  | .facebook => didTapFacebookButton
  | .signUp email password => managers.didTapSignUpButton email password

def didLoginWithFacebook (currentAccessToken : Option String) : Reaction :=
  match currentAccessToken with
  | some accessToken =>
    if managers.serverConfig.isFirebaseAuthEnabled then
      { request := some (.facebookSignIn accessToken) }
    else { request := some (.facebookGraphMe accessToken) }
  | none => showLoginError

/-- The callback of a request; `none` where the answer is not one to this request.
`requestFacebookUser` never calls its completion: that part of it is commented out. -/
def respond : AttemptRequest → AttemptAnswer → Option Reaction
  | .signIn _ _, .auth (some user) =>
    match managers.userManager with
    | some _ => some { request := some (.fetchUser user) }
    | none => some {}
  | .signIn _ _, .auth none => some showLoginError
  | .fetchUser user, .query answer =>
    if answer.isAbout user.uid then
      match fetchUserCompletion answer with
      | some fetched => some { outcome := some (.completed (some (fetched.getD user.loginUser))) }
      | none => some {}
    else none
  | .facebookLogIn, .facebookDialog (.loggedIn currentAccessToken) =>
    some (managers.didLoginWithFacebook currentAccessToken)
  | .facebookLogIn, .facebookDialog .cancelled => some {}
  | .facebookLogIn, .facebookDialog (.failed _) => some {}
  | .facebookSignIn _, .auth firebaseUser =>
    match atcUser firebaseUser with
    | some user => some { saved := some user, outcome := some (.completed (some user)) }
    | none => some showLoginError
  | .facebookGraphMe _, .graph _ => some {}
  | .createUser _ _, .created (some user) nameText =>
    let atcUser := user.signedUpUser nameText
    some { saved := some atcUser, outcome := some (.completed (some atcUser)) }
  | .createUser _ _, .created none _ => some showSignUpError
  | _, _ => none

end OnboardingManagers

end FinanceApp
