import SessionGate.Proofs.Session.Restart
import SessionGate.Proofs.Session.Visits

/- The lives of a session. A restart ends the process, and with it every call that waits, so that of
   the session that was in use only what the backend holds is left. Begun calls change nothing until
   they are answered: what befalls the session in use is a list of turns. -/
namespace SessionGate

open Navigation Storage

namespace Session

/-- What may befall a session: something is done to it, or another process takes its place. -/
inductive Turn where
  | performed (operation : Operation)
  | resumed

namespace Turn

variable {β : Type} [Backend β]

def take (settings : AvatarSettings) (session : Session β) : Turn → Session β
  | .performed operation => (operation.perform settings session).2
  | .resumed => resume session.store

def answer? : Turn → Option Answer
  | .performed (.answered answer) => some answer
  | .performed (.avatarSet _) | .resumed => none

theorem first_answer {turn : Turn} {answer : Answer} (told : turn.answer? = some answer)
    (rest : List Turn) : answer ∈ (turn :: rest).filterMap answer? :=
  List.mem_filterMap.mpr ⟨turn, List.mem_cons_self, told⟩

theorem later_answer {rest : List Turn} {answer : Answer} (among : answer ∈ rest.filterMap answer?)
    (turn : Turn) : answer ∈ (turn :: rest).filterMap answer? := by
  obtain ⟨other, member, told⟩ := List.mem_filterMap.mp among
  exact List.mem_filterMap.mpr ⟨other, List.mem_cons_of_mem _ member, told⟩

end Turn

end Session

namespace Shell

variable {η β : Type}

def inUse (shell : Shell η β) : Session β := ⟨shell.record, shell.store⟩

structure Alive (shell : Shell η β) : Prop where
  started : shell.current < shell.records.length
  waiting : ∀ call ∈ shell.waiting, call.session = shell.current

section Using

variable {shell : Shell η β}

theorem current_onSession {α : Type} (session : Nat) (work : Session β → α × Session β) :
    (shell.onSession session work).2.current = shell.current := by
  simp [current, onSession]

theorem Alive.onSession {α : Type} (alive : Alive shell) (work : Session β → α × Session β) :
    Alive (shell.onSession shell.current work).2 := by
  refine ⟨?_, ?_⟩
  · rw [current_onSession]
    simpa [Shell.onSession] using alive.started
  · rw [current_onSession]
    exact alive.waiting

theorem Alive.inUse_onSession {α : Type} (alive : Alive shell)
    (work : Session β → α × Session β) :
    (shell.onSession shell.current work).2.inUse = (work shell.inUse).2 := by
  simp only [inUse, record, current_onSession]
  simp [Shell.onSession, recordOf, alive.started]

theorem Alive.cancel (alive : Alive shell) (id : String) : Alive (shell.cancel id) :=
  ⟨alive.started, fun call member => alive.waiting call (List.mem_filter.mp member).1⟩

theorem Alive.begin (alive : Alive shell) (id : String) (call : Session.Call) :
    Alive (shell.begin id call) := by
  refine ⟨alive.started, fun other member => ?_⟩
  rcases List.mem_append.mp member with earlier | now
  · exact alive.waiting other (List.mem_filter.mp earlier).1
  · rw [List.mem_singleton.mp now]
    rfl

theorem Alive.found (alive : Alive shell) {id : String} {waiting : Waiting}
    (found : shell.waiting? id = some waiting) : waiting.session = shell.current :=
  alive.waiting waiting (List.mem_of_find?_eq_some found)

end Using

variable [Backend β]

def renew (shell : Shell η β) : Shell η β := { shell.restart with waiting := [] }

def Event.settled (shell : Shell η β) :
    Event → Option (Session.Answer × Except Session.Error (Option Remote.Profile))
  | .completed answer => some (answer, (shell.complete answer).1)
  | .answered id answer =>
    (shell.waiting? id).map fun waiting => (answer, (shell.finish waiting answer).1)
  | _ => none

/-- What an event is to the session in use; most are nothing to it. -/
def Event.turn? (shell : Shell η β) : Event → Option Session.Turn
  | .completed answer => some (.performed (.answered answer))
  | .avatarSet url => some (.performed (.avatarSet url))
  | .answered id answer => (shell.waiting? id).map fun _ => .performed (.answered answer)
  | .restarted => some .resumed
  | .visited _ _ | .begun _ _ | .cancelled _ => none

section Steps

variable {shell : Shell η β}

theorem launch_alive (policy : Policy) (avatar : AvatarSettings) (store : β) (host : η) :
    Alive (launch policy avatar store host) :=
  ⟨by simp [launch, restart, current], nofun⟩

theorem renew_alive (shell : Shell η β) : Alive shell.renew :=
  ⟨by simp [renew, restart, current], nofun⟩

theorem inUse_renew (shell : Shell η β) : shell.renew.inUse = Session.resume shell.store := by
  simp [inUse, record, recordOf, current, renew, restart]

theorem Alive.inUse_complete (alive : Alive shell) (answer : Session.Answer) :
    (shell.complete answer).2.inUse = (Session.finish shell.avatar answer shell.inUse).2 :=
  alive.inUse_onSession _

theorem Alive.finish (alive : Alive shell) {id : String} {waiting : Waiting}
    (found : shell.waiting? id = some waiting) (answer : Session.Answer) :
    shell.finish waiting answer = (shell.cancel waiting.id).complete answer := by
  rw [Shell.finish, Shell.complete, alive.found found]
  rfl

theorem answer_of_turn (event : Event) (shell : Shell η β) :
    (event.settled shell).map Prod.fst = (event.turn? shell).bind Session.Turn.answer? := by
  cases event with
  | answered id answer =>
    simp only [Event.settled, Event.turn?]
    cases shell.waiting? id <;> rfl
  | _ => rfl

end Steps

variable [Host η]

def Event.happen (shell : Shell η β) : Event → Shell η β
  | .restarted => shell.renew
  | event => event.occur shell

def lived (events : List Event) (shell : Shell η β) : Shell η β :=
  events.foldl Event.happen shell

def answers : List Event → Shell η β → List Session.Answer
  | [], _ => []
  | event :: rest, shell =>
    ((event.settled shell).map Prod.fst).toList ++ answers rest (event.happen shell)

def turns : List Event → Shell η β → List Session.Turn
  | [], _ => []
  | event :: rest, shell => (event.turn? shell).toList ++ turns rest (event.happen shell)

section Runs

variable {shell : Shell η β}

/-- What an event makes of the session in use, told by its turn. -/
structure Turned (event : Event) (shell : Shell η β) : Prop where
  alive : Alive (event.happen shell)
  avatar : (event.happen shell).avatar = shell.avatar
  inUse : (event.happen shell).inUse =
    (event.turn? shell).toList.foldl (Session.Turn.take shell.avatar) shell.inUse

theorem Alive.turned (alive : Alive shell) (event : Event) : Turned event shell := by
  cases event with
  | visited primitive url => exact ⟨⟨alive.started, alive.waiting⟩, rfl, rfl⟩
  | begun id call => exact ⟨alive.begin id call, rfl, rfl⟩
  | cancelled id => exact ⟨alive.cancel id, rfl, rfl⟩
  | restarted => exact ⟨renew_alive shell, rfl, inUse_renew shell⟩
  | completed answer => exact ⟨alive.onSession _, rfl, alive.inUse_complete answer⟩
  | avatarSet url =>
    exact ⟨alive.onSession _, rfl, alive.inUse_onSession (Session.setAvatar url)⟩
  | answered id answer =>
    cases found : shell.waiting? id with
    | none =>
      have lost : Event.happen shell (.answered id answer) = shell := by
        simp only [Event.happen, Event.occur, found]
      refine ⟨by rw [lost]; exact alive, by rw [lost], ?_⟩
      simp only [lost, Event.turn?, found]
      rfl
    | some waiting =>
      have finished : Event.happen shell (.answered id answer) =
          ((shell.cancel waiting.id).complete answer).2 := by
        simp only [Event.happen, Event.occur, found, alive.finish found]
      have cancelled := alive.cancel waiting.id
      refine ⟨?_, ?_, ?_⟩
      · rw [finished]
        exact cancelled.onSession _
      · rw [finished]
        rfl
      · rw [finished]
        simp only [Event.turn?, found]
        exact cancelled.inUse_complete answer

theorem Alive.settled (alive : Alive shell) {event : Event} {answer : Session.Answer}
    {result : Except Session.Error (Option Remote.Profile)}
    (settled : event.settled shell = some (answer, result)) :
    (event.happen shell).inUse = (Session.finish shell.avatar answer shell.inUse).2 ∧
      (Session.finish shell.avatar answer shell.inUse).1 = result := by
  cases event with
  | completed other =>
    obtain ⟨rfl, rfl⟩ := Prod.mk.inj (Option.some.inj settled)
    exact ⟨alive.inUse_complete other, rfl⟩
  | answered id other =>
    obtain ⟨waiting, found, same⟩ := Option.map_eq_some_iff.mp settled
    obtain ⟨rfl, rfl⟩ := Prod.mk.inj same
    rw [alive.finish found]
    refine ⟨?_, rfl⟩
    rw [(alive.turned (.answered id other)).inUse]
    simp only [Event.turn?, found]
    rfl
  | _ => cases settled

theorem Alive.lived (alive : Alive shell) (events : List Event) :
    Alive (lived events shell) ∧ (lived events shell).avatar = shell.avatar ∧
      (Shell.lived events shell).inUse =
        (turns events shell).foldl (Session.Turn.take shell.avatar) shell.inUse := by
  induction events generalizing shell with
  | nil => exact ⟨alive, rfl, rfl⟩
  | cons event rest ih =>
    have turned := alive.turned event
    obtain ⟨last, avatar, inUse⟩ := ih turned.alive
    refine ⟨last, avatar.trans turned.avatar, ?_⟩
    rw [turns, List.foldl_append, ← turned.inUse, ← turned.avatar]
    exact inUse

theorem answers_of_turns (events : List Event) (shell : Shell η β) :
    answers events shell = (turns events shell).filterMap Session.Turn.answer? := by
  induction events generalizing shell with
  | nil => rfl
  | cons event rest ih =>
    rw [answers, turns, List.filterMap_append, ih, answer_of_turn]
    cases event.turn? shell <;> rfl

theorem turns_resumed {events : List Event} {shell : Shell η β}
    (resumed : .resumed ∈ turns events shell) : .restarted ∈ events := by
  induction events generalizing shell with
  | nil => cases resumed
  | cons event rest ih =>
    rcases List.mem_append.mp resumed with now | later
    · cases event with
      | restarted => exact List.mem_cons_self
      | answered id answer =>
        simp only [Event.turn?] at now
        cases found : shell.waiting? id <;> simp [found] at now
      | _ => simp [Event.turn?] at now
    · exact List.mem_cons_of_mem _ (ih later)

end Runs

end Shell

end SessionGate
