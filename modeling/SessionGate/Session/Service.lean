import SessionGate.Remote.Client
import SessionGate.Session.Avatar
import SessionGate.Session.Record
import SessionGate.Storage.FieldStore
import SessionGate.Storage.TokenStore

/- A session over a backend. A remote call has two halves: what is asked, taken from the session at
   its start, and what its answer does to the session, in one go, when it arrives. -/
namespace SessionGate

open Storage

structure Session (β : Type) where
  record : Record
  store : β

namespace Session

inductive Error where
  | remote (cause : Remote.Error)
  | storage (cause : Storage.Error)
  deriving DecidableEq

def Error.message : Error → String
  | .remote cause => cause.message
  | .storage cause => cause.message

def Error.inspect : Error → String
  | .remote cause => "Remote(" ++ cause.inspect ++ ")"
  | .storage cause => "Storage(" ++ cause.inspect ++ ")"

inductive Call where
  | login (credentials : Remote.Credentials)
  | profile
  | logout (token : String)
  deriving DecidableEq, Repr

inductive Answer where
  | login (answer : Except Remote.Error Remote.Grant)
  | profile (answer : Except Remote.Error Remote.Profile)
  | logout (answer : Except Remote.Error Unit)

def defaultRole : String := "ROLE_DEFAULT"

inductive Update where
  | userId (s : String)
  | userName (s : String)
  | avatar (s : String)
  | roles (items : List String)
  | permissions (items : List String)
  deriving DecidableEq, Repr

namespace Update

def field : Update → Field
  | .userId _ => .userId
  | .userName _ => .userName
  | .avatar _ => .avatar
  | .roles _ => .roles
  | .permissions _ => .permissions

def value : Update → Json.Value
  | .userId s | .userName s | .avatar s => .text s
  | .roles items | .permissions items => Json.texts items

def apply (record : Record) : Update → Record
  | .userId s => { record with userId := s }
  | .userName s => { record with userName := s }
  | .avatar s => { record with avatarUrl := s }
  | .roles items => { record with roles := items }
  | .permissions items => { record with permissions := items }

end Update

/-- What a profile changes, in the order in which it is stored. A user without roles gets the
default role and keeps the permissions. -/
def updatesOf (settings : AvatarSettings) (record : Record) (profile : Remote.Profile) :
    List Update :=
  let id := (profile.user.bind (·.id)).getD ""
  let name := (profile.user.bind (·.name)).getD ""
  let avatar := settings.resolve ((profile.user.bind (·.avatar)).getD "")
  let (roles, permissions) :=
    if profile.roles = [] then ([defaultRole], record.permissions)
    else (profile.roles, profile.permissions)
  [.userId id, .userName name, .avatar avatar, .roles roles, .permissions permissions]

variable {β : Type} [Backend β]

def resume (store : β) : Session β :=
  let (token, store) := TokenStore.get.run store
  let (userId, store) := (FieldStore.getText .userId).run store
  let (userName, store) := (FieldStore.getText .userName).run store
  let (avatarUrl, store) := (FieldStore.getText .avatar).run store
  let (roles, store) := (FieldStore.getList .roles).run store
  let (permissions, store) := (FieldStore.getList .permissions).run store
  ⟨⟨token, userId, userName, avatarUrl, roles, permissions⟩, store⟩

def loginCall (username password code uuid : String) : Call :=
  .login ⟨Text.trim username, password, code, uuid⟩

def logoutCall (session : Session β) : Call := .logout session.record.token

/-- Stores one field, and only then takes it into the record. -/
def commit (update : Update) (session : Session β) : Except Error Unit × Session β :=
  match (FieldStore.put update.field update.value).run session.store with
  | (.error e, store) => (.error (.storage e), { session with store := store })
  | (.ok (), store) => (.ok (), ⟨update.apply session.record, store⟩)

def commitAll : List Update → Session β → Except Error Unit × Session β
  | [], session => (.ok (), session)
  | update :: rest, session =>
    match commit update session with
    | (.error e, session) => (.error e, session)
    | (.ok (), session) => commitAll rest session

def setAvatar (url : String) (session : Session β) : Except Error Unit × Session β :=
  commit (.avatar url) session

def finishLogin (answer : Except Remote.Error Remote.Grant) (session : Session β) :
    Except Error Unit × Session β :=
  match answer with
  | .error e => (.error (.remote e), session)
  | .ok grant =>
    match (TokenStore.set grant.token).run session.store with
    | (.error e, store) => (.error (.storage e), { session with store := store })
    | (.ok (), store) => (.ok (), ⟨{ session.record with token := grant.token }, store⟩)

def finishProfile (settings : AvatarSettings) (answer : Except Remote.Error Remote.Profile)
    (session : Session β) : Except Error Remote.Profile × Session β :=
  match answer with
  | .error e => (.error (.remote e), session)
  | .ok profile =>
    let (result, session) := commitAll (updatesOf settings session.record profile) session
    (result.map fun _ => profile, session)

/-- Once the service has accepted, the record is cleared and both removals are tried; the failure
of the first is reported before that of the second. -/
def finishLogout (answer : Except Remote.Error Unit) (session : Session β) :
    Except Error Unit × Session β :=
  match answer with
  | .error e => (.error (.remote e), session)
  | .ok () =>
    let (token, store) := TokenStore.remove.run session.store
    let (fields, store) := FieldStore.clear.run store
    ((token.bind fun _ => fields).mapError .storage, ⟨.signedOut, store⟩)

def finish (settings : AvatarSettings) (answer : Answer) (session : Session β) :
    Except Error (Option Remote.Profile) × Session β :=
  match answer with
  | .login answer =>
    let (result, session) := finishLogin answer session
    (result.map fun _ => none, session)
  | .profile answer =>
    let (result, session) := finishProfile settings answer session
    (result.map some, session)
  | .logout answer =>
    let (result, session) := finishLogout answer session
    (result.map fun _ => none, session)

/-- Makes a call over a network and waits for its answer. A profile call carries the token that the
backend holds. -/
def exchange (client : Remote.Client) (call : Call) (store : β) (network : Remote.Network) :
    Answer × β × Remote.Network :=
  match call with
  | .login credentials =>
    let (answer, network) := client.login credentials network
    (.login answer, store, network)
  | .profile =>
    let (token, store) := TokenStore.get.run store
    let (answer, network) := client.profile token network
    (.profile answer, store, network)
  | .logout token =>
    let (answer, network) := client.logout token network
    (.logout answer, store, network)

end Session

end SessionGate
