import SessionGate.Navigation.Policy
import SessionGate.Session.Avatar
import SessionGate.Text.Blank
import SessionGate.Text.Quoted
import SessionGate.Text.Utf8

/- Settings from environment variables. A variable whose value is not UTF-8 counts as not set. -/
namespace SessionGate

/-- Environment variables, the first of equal names counting. -/
abbrev Environment := List (String × Text.Bytes)

def Environment.text? (env : Environment) (name : String) : Option String :=
  (env.find? fun entry => entry.1 = name).bind fun entry => Text.decode? entry.2

structure Settings where
  baseUrl : String
  storagePath : String
  defaultAvatar : String
  loginPage : String
  requestSeconds : Nat
  connectSeconds : Nat
  deriving DecidableEq, Repr

namespace Settings

inductive Error where
  | invalidValue (key : String) (value : String)
  deriving DecidableEq, Repr

def Error.message : Error → String
  | .invalidValue key value => "invalid value for " ++ key ++ ": " ++ Text.quote value

def Error.inspect : Error → String
  | .invalidValue key value =>
    Text.showRecord "InvalidValue" [("key", Text.quote key), ("value", Text.quote value)]

def default : Settings where
  baseUrl := "http://localhost:9099"
  storagePath := ".session/storage.json"
  defaultAvatar := "/static/images/profile.jpg"
  loginPage := Navigation.defaultLoginPage
  requestSeconds := 10
  connectSeconds := 5

def avatar (settings : Settings) : AvatarSettings :=
  ⟨settings.baseUrl, settings.defaultAvatar⟩

def digits? : List Char → Option Nat
  | [] => none
  | cs =>
    if cs.all Char.isDigit then some (cs.foldl (fun n c => n * 10 + (c.toNat - 48)) 0) else none

/-- A positive number of seconds below 2^64, blanks around it and a plus before it allowed. -/
def seconds? (s : String) : Option Nat :=
  let digits := match Text.trimBlanks s.toList with
    | '+' :: cs => cs
    | cs => cs
  (digits? digits).filter fun n => 0 < n && n < 0x10000000000000000

def readSeconds (env : Environment) (key : String) (unset : Nat) : Except Error Nat :=
  match env.text? key with
  | none => .ok unset
  | some raw =>
    match seconds? raw with
    | some n => .ok n
    | none => .error (.invalidValue key raw)

def ofEnvironment (env : Environment) : Except Error Settings := do
  let text (key unset : String) : String := (env.text? key).getD unset
  let requestSeconds ← readSeconds env "SESSION_REQUEST_TIMEOUT_SECS" default.requestSeconds
  let connectSeconds ← readSeconds env "SESSION_CONNECT_TIMEOUT_SECS" default.connectSeconds
  return {
    baseUrl := Text.trimSlashes (text "SESSION_BASE_URL" default.baseUrl)
    storagePath := text "SESSION_STORAGE_PATH" default.storagePath
    defaultAvatar := text "SESSION_DEFAULT_AVATAR" default.defaultAvatar
    loginPage := text "SESSION_LOGIN_PAGE" default.loginPage
    requestSeconds := requestSeconds
    connectSeconds := connectSeconds }

end Settings

end SessionGate
