import SessionGate.Address.Host
import SessionGate.Address.Route

/- Addresses of services: a scheme, perhaps a host with a user and a port, a way, a query and a
   fragment, each in its written form. -/
namespace SessionGate

open Address (Family Host Route)

structure Address where
  scheme : String
  user : String
  password : Option String
  host : Option Host
  port : Option Nat
  route : Route
  query : Option String
  fragment : Option String
  deriving DecidableEq, Repr

namespace Address

def hasHost (address : Address) : Bool :=
  match address.host with
  | none => false
  | some host => host ≠ .empty

def credentialsText (address : Address) : String :=
  let user := address.user ++ ((address.password.map (":" ++ ·)).getD "")
  if user = "" then "" else user ++ "@"

def portText (address : Address) : String :=
  ((address.port.map fun n => ":" ++ toString n).getD "")

/-- What stands between the scheme and the way. Where there is no host, a way that begins with two
slashes is kept apart from one. -/
def hostText (address : Address) : String :=
  match address.host, address.route with
  | some host, _ => "//" ++ address.credentialsText ++ host.text ++ address.portText
  | none, .segments ("" :: _ :: _) => "/."
  | none, _ => ""

def target (address : Address) : String :=
  address.route.written ++ ((address.query.map ("?" ++ ·)).getD "")

def text (address : Address) : String :=
  address.scheme ++ ":" ++ address.hostText ++ address.target ++
    ((address.fragment.map ("#" ++ ·)).getD "")

def hasReadableUser (address : Address) : Bool :=
  match Text.decode? (Text.Percent.decode address.user.toList) with
  | some _ => true
  | none => false

def hasReadablePassword (address : Address) : Bool :=
  match address.password.bind fun password => Text.decode? (Text.Percent.decode password.toList) with
  | some _ => true
  | none => false

def withoutCredentials (address : Address) : Address :=
  if address.hasReadableUser ∧ (address.user ≠ "" ∨ address.hasReadablePassword) then
    { address with user := "", password := none }
  else address

end Address

end SessionGate
