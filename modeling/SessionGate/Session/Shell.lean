import SessionGate.Navigation.Guard
import SessionGate.Session.Permission
import SessionGate.Session.Service

/- A shell: the sessions over one backend, the last of them in use, and the guard before its host.
   A call that was begun belongs to the session in which it was begun, also after a restart. -/
namespace SessionGate

open Navigation Storage

structure Waiting where
  id : String
  session : Nat
  call : Session.Call
  deriving DecidableEq, Repr

structure Shell (η β : Type) where
  policy : Policy
  avatar : AvatarSettings
  /-- The records of all sessions, in the order of their starts. -/
  records : List Record
  store : β
  host : η
  waiting : List Waiting

namespace Shell

variable {η β α : Type} [Host η] [Backend β]

def restart (shell : Shell η β) : Shell η β :=
  let session := Session.resume shell.store
  { shell with records := shell.records ++ [session.record], store := session.store }

def launch (policy : Policy) (avatar : AvatarSettings) (store : β) (host : η) : Shell η β :=
  restart ⟨policy, avatar, [], store, host, []⟩

def current (shell : Shell η β) : Nat := shell.records.length - 1

def recordOf (shell : Shell η β) (session : Nat) : Record :=
  shell.records.getD session .signedOut

def record (shell : Shell η β) : Record := shell.recordOf shell.current

def onSession (session : Nat) (work : Session β → α × Session β) (shell : Shell η β) :
    α × Shell η β :=
  let (a, after) := work ⟨shell.recordOf session, shell.store⟩
  (a, { shell with records := shell.records.set session after.record, store := after.store })

def onStore (calls : Calls α) (shell : Shell η β) : α × Shell η β :=
  let (a, store) := calls.run shell.store
  (a, { shell with store := store })

def setAvatar (url : String) (shell : Shell η β) : Except Session.Error Unit × Shell η β :=
  shell.onSession shell.current (Session.setAvatar url)

def complete (answer : Session.Answer) (shell : Shell η β) :
    Except Session.Error (Option Remote.Profile) × Shell η β :=
  shell.onSession shell.current (Session.finish shell.avatar answer)

def completeOver (client : Remote.Client) (call : Session.Call) (network : Remote.Network)
    (shell : Shell η β) :
    Except Session.Error (Option Remote.Profile) × Remote.Network × Shell η β :=
  let (answer, store, network) := Session.exchange client call shell.store network
  let (result, shell) := complete answer { shell with store := store }
  (result, network, shell)

def logoutCall (shell : Shell η β) : Session.Call := .logout shell.record.token

/-- Begins a call, in place of any other under its name. -/
def begin (id : String) (call : Session.Call) (shell : Shell η β) : Shell η β :=
  { shell with
    waiting := shell.waiting.filter (fun w => w.id ≠ id) ++ [⟨id, shell.current, call⟩] }

def waiting? (id : String) (shell : Shell η β) : Option Waiting :=
  shell.waiting.find? fun w => w.id = id

def cancel (id : String) (shell : Shell η β) : Shell η β :=
  { shell with waiting := shell.waiting.filter fun w => w.id ≠ id }

/-- Delivers the answer to a call that was begun, to the session that began it. -/
def finish (waiting : Waiting) (answer : Session.Answer) (shell : Shell η β) :
    Except Session.Error (Option Remote.Profile) × Shell η β :=
  (shell.cancel waiting.id).onSession waiting.session (Session.finish shell.avatar answer)

def intercept (intent : Intent) (shell : Shell η β) : Bool × Shell η β :=
  let (proceeds, host) := Navigation.intercept shell.policy shell.record.token intent shell.host
  (proceeds, { shell with host := host })

def dispatch (primitive : Primitive) (url : String) (shell : Shell η β) : Bool × Shell η β :=
  let (done, host) := Navigation.dispatch shell.policy shell.record.token primitive url shell.host
  (done, { shell with host := host })

end Shell

end SessionGate
