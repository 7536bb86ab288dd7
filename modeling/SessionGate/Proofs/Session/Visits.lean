import SessionGate.Proofs.Navigation.Guarded
import SessionGate.Session.Shell

/- Runs of a shell in which visits mix with the work of its sessions. Each visit is judged by the
   token of its own moment. -/
namespace SessionGate.Shell

open Navigation Storage

/-- What may happen in a shell. A call is answered at once, or begun now and answered later. -/
inductive Event where
  | visited (primitive : Primitive) (url : String)
  | completed (answer : Session.Answer)
  | avatarSet (url : String)
  | begun (id : String) (call : Session.Call)
  | answered (id : String) (answer : Session.Answer)
  | cancelled (id : String)
  | restarted

section Runs

variable {η β : Type} [Host η] [Backend β]

def Event.occur (shell : Shell η β) : Event → Shell η β
  | .visited primitive url => (shell.dispatch primitive url).2
  | .completed answer => (shell.complete answer).2
  | .avatarSet url => (shell.setAvatar url).2
  | .begun id call => shell.begin id call
  | .answered id answer =>
    match shell.waiting? id with
    | some waiting => (shell.finish waiting answer).2
    | none => shell
  | .cancelled id => shell.cancel id
  | .restarted => shell.restart

def after (events : List Event) (shell : Shell η β) : Shell η β :=
  events.foldl Event.occur shell

theorem occur_keeps_policy (event : Event) (shell : Shell η β) :
    (event.occur shell).policy = shell.policy := by
  cases event with
  | answered id answer =>
    simp only [Event.occur]
    split <;> rfl
  | _ => rfl

theorem after_keeps_policy (events : List Event) (shell : Shell η β) :
    (after events shell).policy = shell.policy := by
  induction events generalizing shell with
  | nil => rfl
  | cons event rest ih => exact (ih (event.occur shell)).trans (occur_keeps_policy event shell)

end Runs

/- Other visits may be among the earlier events, so this speaks of every visit of a run. -/
theorem visits_are_guarded {β : Type} [Backend β] (shell : Shell PageStack β)
    (earlier : List Event) (primitive : Primitive) (url : String) :
    Guarded shell.policy (after earlier shell).record.token url (after earlier shell).host
      (after (earlier ++ [.visited primitive url]) shell).host := by
  have visit : after (earlier ++ [.visited primitive url]) shell =
      ((after earlier shell).dispatch primitive url).2 := List.foldl_append ..
  have policy := after_keeps_policy earlier shell
  rw [visit, ← policy]
  exact dispatch_guarded _ _ primitive url _

end SessionGate.Shell
