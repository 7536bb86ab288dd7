import SessionGate.Json.Printer
import SessionGate.Text.Quoted

/- What a session knows of its user. Nobody is signed in while the token is empty. -/
namespace SessionGate

open Json (Value Members)

structure Record where
  token : String
  userId : String
  userName : String
  avatarUrl : String
  roles : List String
  permissions : List String
  deriving DecidableEq, Repr

namespace Record

def signedOut : Record := ⟨"", "", "", "", [], []⟩

def isAuthenticated (record : Record) : Bool := record.token ≠ ""

def members (record : Record) : Members := [
  ("user_id", .text record.userId),
  ("user_name", .text record.userName),
  ("avatar_url", .text record.avatarUrl),
  ("roles", Json.texts record.roles),
  ("permissions", Json.texts record.permissions)]

def toValue (record : Record) : Value := .object record.members

/-- The written form in the order of names, with whether somebody is signed in. -/
def overview (record : Record) : Value :=
  .object (Members.ofList (record.members ++ [("authenticated", .boolean record.isAuthenticated)]))

def inspect (record : Record) : String :=
  let token := if record.token = "" then "" else "<redacted>"
  Text.showRecord "SessionRecord" [
    ("token", Text.quote token),
    ("user_id", Text.quote record.userId),
    ("user_name", Text.quote record.userName),
    ("avatar_url", Text.quote record.avatarUrl),
    ("roles", Text.quoteList record.roles),
    ("permissions", Text.quoteList record.permissions)]

end Record

end SessionGate
