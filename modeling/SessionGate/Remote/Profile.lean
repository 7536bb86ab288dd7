import SessionGate.Json.Shape
import SessionGate.Json.Printer

/- The profile of the signed-in user. Members that the library does not know are kept as they
   are, so that a profile can be handed on whole. -/
namespace SessionGate.Remote

open Json (Input Value Members)

structure User where
  id : Option String
  name : Option String
  avatar : Option String
  extra : Members

structure Profile where
  user : Option User
  roles : List String
  permissions : List String
  extra : Members

def optionalText : Option String → Value
  | some s => .text s
  | none => .null

namespace User

def record : String := "ProfileUser"

def toValue (u : User) : Value :=
  .object (("userId", optionalText u.id) :: ("userName", optionalText u.name) ::
    ("avatar", optionalText u.avatar) :: u.extra)

structure Draft where
  id : Option (Option String)
  name : Option (Option String)
  avatar : Option (Option String)
  extra : Members

def Draft.empty : Draft := ⟨none, none, none, []⟩

def Draft.finish (draft : Draft) : User :=
  ⟨draft.id.join, draft.name.join, draft.avatar.join, draft.extra⟩

/-- A text, the text of a number, or nothing. -/
def idOfValue : Value → Except Json.Error (Option String)
  | .null => .ok none
  | .text s => .ok (some s)
  | .number n => .ok (some n.text)
  | other => .error (.notTextOrNumber other.compact)

def textOfValue : Value → Except Json.Error (Option String)
  | .null => .ok none
  | .text s => .ok (some s)
  | other => .error (.mismatch other.found .text)

/-- Takes one member of a text whose values may nest the given number of levels. -/
def Draft.member (fuel levels : Nat) (draft : Draft) (name : String) (text : Input) :
    Except Json.Error (Draft × Input) := do
  if name = "userId" then
    Json.once draft.id name
    let (value, rest) ← Json.readValue fuel levels (← Json.readColon text)
    return ({ draft with id := some (← idOfValue value) }, rest)
  else if name = "userName" then
    Json.once draft.name name
    let (s, rest) ← Json.readOptional Json.readText (← Json.readColon text)
    return ({ draft with name := some s }, rest)
  else if name = "avatar" then
    Json.once draft.avatar name
    let (s, rest) ← Json.readOptional Json.readText (← Json.readColon text)
    return ({ draft with avatar := some s }, rest)
  else
    let (value, rest) ← Json.readValue fuel levels (← Json.readColon text)
    return ({ draft with extra := Members.insert draft.extra name value }, rest)

def Draft.put (draft : Draft) (name : String) (value : Value) : Except Json.Error Draft := do
  if name = "userId" then return { draft with id := some (← idOfValue value) }
  else if name = "userName" then return { draft with name := some (← textOfValue value) }
  else if name = "avatar" then return { draft with avatar := some (← textOfValue value) }
  else return { draft with extra := Members.insert draft.extra name value }

def readAt (fuel levels : Nat) (text : Input) : Except Json.Error (User × Input) := do
  let (draft, rest) ← Json.readObject (.record record) (Draft.member fuel levels) .empty fuel text
  return (draft.finish, rest)

def ofValue : Value → Except Json.Error User
  | .object members => do
    let draft ← members.foldlM (fun draft member => Draft.put draft member.1 member.2) .empty
    return draft.finish
  | other => .error (.mismatch other.found (.record record))

end User

namespace Profile

def record : String := "ProfileResult"

def toValue (p : Profile) : Value :=
  .object (("user", (p.user.map User.toValue).getD .null) :: ("roles", Json.texts p.roles) ::
    ("permissions", Json.texts p.permissions) :: p.extra)

structure Draft where
  user : Option (Option User)
  roles : Option (List String)
  permissions : Option (List String)
  extra : Members

def Draft.empty : Draft := ⟨none, none, none, []⟩

def Draft.finish (draft : Draft) : Profile :=
  ⟨draft.user.join, draft.roles.getD [], draft.permissions.getD [], draft.extra⟩

/-- Takes one member; a list that is null is empty. -/
def Draft.member (fuel : Nat) (draft : Draft) (name : String) (text : Input) :
    Except Json.Error (Draft × Input) := do
  if name = "user" then
    Json.once draft.user name
    let (user, rest) ←
      Json.readOptional (User.readAt fuel (Json.maxLevels - 2)) (← Json.readColon text)
    return ({ draft with user := some user }, rest)
  else if name = "roles" then
    Json.once draft.roles name
    let (roles, rest) ← Json.readOptional (Json.readTexts fuel) (← Json.readColon text)
    return ({ draft with roles := some (roles.getD []) }, rest)
  else if name = "permissions" then
    Json.once draft.permissions name
    let (permissions, rest) ← Json.readOptional (Json.readTexts fuel) (← Json.readColon text)
    return ({ draft with permissions := some (permissions.getD []) }, rest)
  else
    let (value, rest) ← Json.readValue fuel (Json.maxLevels - 1) (← Json.readColon text)
    return ({ draft with extra := Members.insert draft.extra name value }, rest)

def userOfValue : Value → Except Json.Error (Option User)
  | .null => .ok none
  | value => some <$> User.ofValue value

def textsOfValue : Value → Except Json.Error (List String)
  | .null => .ok []
  | .array items => items.mapM fun
    | .text s => .ok s
    | other => .error (.mismatch other.found .text)
  | other => .error (.mismatch other.found .sequence)

def Draft.put (draft : Draft) (name : String) (value : Value) : Except Json.Error Draft := do
  if name = "user" then return { draft with user := some (← userOfValue value) }
  else if name = "roles" then return { draft with roles := some (← textsOfValue value) }
  else if name = "permissions" then return { draft with permissions := some (← textsOfValue value) }
  else return { draft with extra := Members.insert draft.extra name value }

def readAt (fuel : Nat) (text : Input) : Except Json.Error (Profile × Input) := do
  let (draft, rest) ← Json.readObject (.record record) (Draft.member fuel) .empty fuel text
  return (draft.finish, rest)

def read (text : Input) : Except Json.Error Profile :=
  Json.readEntire readAt text

def ofValue : Value → Except Json.Error Profile
  | .object members => do
    let draft ← members.foldlM (fun draft member => Draft.put draft member.1 member.2) .empty
    return draft.finish
  | other => .error (.mismatch other.found (.record record))

end Profile

end SessionGate.Remote
