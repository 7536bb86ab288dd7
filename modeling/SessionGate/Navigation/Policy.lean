import SessionGate.Navigation.Intent

/- Which pages a visitor may open: signed out, the listed ones; signed in, all but the login page. -/
namespace SessionGate.Navigation

def homePage : String := "/"

def defaultLoginPage : String := "/pages/login"

/-- Pages that need no token, compared as whole paths. -/
structure AllowList where
  paths : List String
  deriving DecidableEq, Repr

namespace AllowList

def insert (allowed : AllowList) (path : String) : AllowList :=
  ⟨path :: allowed.paths⟩

def contains (allowed : AllowList) (key : String) : Bool :=
  allowed.paths.contains key

def defaultPaths : List String := [
  "/pages/login",
  "/pages/register",
  "/pages/common/webview/index",
  "/pages/common/agreement/index",
  "/pages/common/privacy/index"]

def default : AllowList := ⟨defaultPaths⟩

end AllowList

inductive Visitor where
  | authenticated
  | anonymous
  deriving DecidableEq, Repr

def Visitor.ofToken (token : String) : Visitor :=
  if token = "" then .anonymous else .authenticated

def Visitor.name : Visitor → String
  | .authenticated => "authenticated"
  | .anonymous => "anonymous"

inductive Decision where
  | allow
  | redirect (target : String)
  deriving DecidableEq, Repr

def Decision.proceeds : Decision → Bool
  | .allow => true
  | .redirect _ => false

def Decision.target? : Decision → Option String
  | .allow => none
  | .redirect target => some target

/-- A policy, by the list and the login page that it is made of. -/
structure Policy where
  listed : AllowList
  loginPage : String
  deriving DecidableEq, Repr

namespace Policy

/-- The pages for those signed out: to the list that was given, making a policy adds the login page. -/
def allowed (policy : Policy) : AllowList := policy.listed.insert policy.loginPage

def opens (policy : Policy) (key : String) : Bool := policy.allowed.contains key

def decide (policy : Policy) (visitor : Visitor) (intent : Intent) : Decision :=
  match visitor with
  | .authenticated => if intent.key = policy.loginPage then .redirect homePage else .allow
  | .anonymous => if policy.opens intent.key then .allow else .redirect policy.loginPage

end Policy

end SessionGate.Navigation
