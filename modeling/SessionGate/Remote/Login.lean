import SessionGate.Json.Shape
import SessionGate.Json.Skip
import SessionGate.Json.Printer

/- Signing in: what the visitor hands in and the token that the service grants. -/
namespace SessionGate.Remote

open Json (Input Value)

structure Credentials where
  username : String
  password : String
  /-- The answer to the picture puzzle, empty where none is asked. -/
  code : String
  uuid : String
  deriving DecidableEq, Repr

def redacted : String := Text.quote "<redacted>"

namespace Credentials

def fields (c : Credentials) : List (String × String) :=
  [("username", c.username), ("password", c.password), ("code", c.code), ("uuid", c.uuid)]

def toValue (c : Credentials) : Value :=
  .object (c.fields.map fun field => (field.1, .text field.2))

def inspect (c : Credentials) : String :=
  Text.showRecord "LoginRequest" [("username", Text.quote c.username), ("password", redacted),
    ("code", Text.quote c.code), ("uuid", Text.quote c.uuid)]

end Credentials

structure Grant where
  token : String
  deriving DecidableEq, Repr

namespace Grant

def record : String := "LoginResponse"

def toValue (g : Grant) : Value :=
  .object [("token", .text g.token)]

def inspect (_ : Grant) : String :=
  Text.showRecord record [("token", redacted)]

def member (fuel : Nat) (token : Option String) (name : String) (text : Input) :
    Except Json.Error (Option String × Input) := do
  if name = "token" then
    Json.once token name
    let (token, rest) ← Json.readText (← Json.readColon text)
    return (some token, rest)
  else
    let rest ← Json.skipValue fuel (← Json.readColon text)
    return (token, rest)

def finish (token : Option String) : Except Json.Error Grant :=
  match token with
  | some token => .ok ⟨token⟩
  | none => .error (.missing "token")

/-- A grant that is given as the list of its one field. -/
def readList (text : Input) : Except Json.Error (Grant × Input) := do
  match ← Json.nextItem true text with
  | .closed _ => .error (.tooShort 0 record 1)
  | .more text =>
    let (token, rest) ← Json.readText text
    return (⟨token⟩, ← Json.readListEnd rest)

def readAt (fuel : Nat) (text : Input) : Except Json.Error (Grant × Input) :=
  match Json.skipSpaces text with
  | .char '[' :: rest => readList rest
  | text => do
    let (token, rest) ← Json.readObject (.record record) (member fuel) none fuel text
    return (← finish token, rest)

def read (text : Input) : Except Json.Error Grant :=
  Json.readEntire readAt text

def ofValue : Value → Except Json.Error Grant
  | .object members =>
    match Json.Members.get? members "token" with
    | some (.text token) => .ok ⟨token⟩
    | some other => .error (.mismatch other.found .text)
    | none => .error (.missing "token")
  | .array [] => .error (.tooShort 0 record 1)
  | .array [.text token] => .ok ⟨token⟩
  | .array (.text _ :: rest) => .error (.tooLong (rest.length + 1))
  | .array (other :: _) => .error (.mismatch other.found .text)
  | other => .error (.mismatch other.found (.record record))

end Grant

end SessionGate.Remote
