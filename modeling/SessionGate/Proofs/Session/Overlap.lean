import SessionGate.Session.Shell
import SessionGate.Storage.Fault

/- Calls that overlap. Whatever the order of the starts, calls take effect as if each were made, start
   to finish, when its answer arrives. What a call asks is settled at its start: a logout signs out
   the token of that moment, which another order of calls may have replaced. -/
namespace SessionGate.Shell

open Navigation Storage

inductive Request where
  | login (username password code uuid : String) (answer : Except Remote.Error Remote.Grant)
  | profile (answer : Except Remote.Error Remote.Profile)
  | logout (answer : Except Remote.Error Unit)

namespace Request

def callWith (token : String) : Request → Session.Call
  | .login username password code uuid _ => Session.loginCall username password code uuid
  | .profile _ => .profile
  | .logout _ => .logout token

def answer : Request → Session.Answer
  | .login _ _ _ _ answer => .login answer
  | .profile answer => .profile answer
  | .logout answer => .logout answer

theorem callWith_agrees (request : Request) (first second : String) :
    request.callWith first = request.callWith second ∨
      request.callWith first = .logout first ∧ request.callWith second = .logout second := by
  cases request with
  | login username password code uuid answer => exact Or.inl rfl
  | profile answer => exact Or.inl rfl
  | logout answer => exact Or.inr ⟨rfl, rfl⟩

end Request

/-- A request with what the backend is going to do to the calls that its answer causes. -/
structure Job (φ : Type) where
  request : Request
  plan : φ

inductive Move (φ : Type) where
  | started (id : String)
  | finished (id : String)
  | avatarSet (url : String) (plan : φ)

namespace Move

variable {φ : Type}

def settles : Move φ → Bool
  | .started _ => false
  | .finished _ | .avatarSet _ _ => true

def alone : Move φ → List (Move φ)
  | .started _ => []
  | .finished id => [.started id, .finished id]
  | .avatarSet url plan => [.avatarSet url plan]

end Move

/-- The same calls one at a time, in the order in which they finish. -/
def serial {φ : Type} (moves : List (Move φ)) : List (Move φ) :=
  moves.flatMap Move.alone

/-- No call finishes that was not started before; those of the list are under way. -/
def Ordered {φ : Type} : List String → List (Move φ) → Prop
  | _, [] => True
  | underWay, .started id :: rest => Ordered (id :: underWay) rest
  | underWay, .finished id :: rest => id ∈ underWay ∧ Ordered (underWay.filter (· ≠ id)) rest
  | underWay, .avatarSet _ _ :: rest => Ordered underWay rest

/-- A shell with what it has asked and with the results so far. -/
structure Progress (η φ β : Type) where
  shell : Shell η (Faulty φ β)
  asked : List (String × Session.Call)
  settled : List (Move φ × Except Session.Error (Option Remote.Profile))

section Lookup

variable {η β : Type}

theorem waiting_after_begin_same (id : String) (call : Session.Call) (shell : Shell η β) :
    (shell.begin id call).waiting? id = some ⟨id, shell.current, call⟩ := by
  have gone : (shell.waiting.filter fun w => w.id ≠ id).find? (fun w => w.id = id) = none := by
    rw [List.find?_eq_none]
    intro w member
    simpa using (List.mem_filter.mp member).2
  simp only [waiting?, begin, List.find?_append, gone]
  simp

theorem waiting_after_cancel_other {id other : String} (different : other ≠ id)
    (shell : Shell η β) : (shell.cancel id).waiting? other = shell.waiting? other := by
  simp only [waiting?, cancel, List.find?_filter]
  congr 1
  funext w
  by_cases same : w.id = other
  · simp [same, different]
  · simp [same]

theorem waiting_after_begin_other {id other : String} (different : other ≠ id)
    (call : Session.Call) (shell : Shell η β) :
    (shell.begin id call).waiting? other = shell.waiting? other := by
  have kept := waiting_after_cancel_other different shell
  simp only [waiting?, cancel] at kept
  simp only [waiting?, begin, List.find?_append, kept]
  simp [Ne.symm different]

end Lookup

section Runs

variable {η φ β : Type} [FaultPlan φ] [Backend β]

def underPlan (plan : φ) (shell : Shell η (Faulty φ β)) : Shell η (Faulty φ β) :=
  { shell with store := ⟨plan, shell.store.store⟩ }

def Progress.move (jobs : String → Job φ) (progress : Progress η φ β) :
    Move φ → Progress η φ β
  | .started id =>
    let call := (jobs id).request.callWith progress.shell.record.token
    { progress with
      shell := progress.shell.begin id call
      asked := progress.asked ++ [(id, call)] }
  | .finished id =>
    match progress.shell.waiting? id with
    | some waiting =>
      let (result, shell) :=
        (progress.shell.underPlan (jobs id).plan).finish waiting (jobs id).request.answer
      { progress with shell := shell, settled := progress.settled ++ [(.finished id, result)] }
    | none => progress
  | .avatarSet url plan =>
    let (result, shell) := (progress.shell.underPlan plan).setAvatar url
    { progress with
      shell := shell
      settled := progress.settled ++ [(.avatarSet url plan, result.map fun _ => none)] }

def Progress.moveAll (jobs : String → Job φ) (progress : Progress η φ β) (moves : List (Move φ)) :
    Progress η φ β :=
  moves.foldl (Progress.move jobs) progress

def still (shell : Shell η β) : Shell η β := { shell with waiting := [] }

def settle (job : Job φ) (shell : Shell η (Faulty φ β)) :
    Except Session.Error (Option Remote.Profile) × Shell η (Faulty φ β) :=
  (shell.underPlan job.plan).complete job.request.answer

theorem setAvatar_still (url : String) (plan : φ) (shell : Shell η (Faulty φ β)) :
    (shell.still.underPlan plan).setAvatar url =
      (((shell.underPlan plan).setAvatar url).1, ((shell.underPlan plan).setAvatar url).2.still) :=
  rfl

def Waits (shell : Shell η β) (id : String) : Prop :=
  ∃ call, shell.waiting? id = some ⟨id, shell.current, call⟩

theorem finished_settles (jobs : String → Job φ) (progress : Progress η φ β) {id : String}
    (waits : progress.shell.Waits id) :
    (progress.move jobs (.finished id)).shell.still =
        (settle (jobs id) progress.shell.still).2 ∧
      (progress.move jobs (.finished id)).settled = progress.settled ++
        [(.finished id, (settle (jobs id) progress.shell.still).1)] := by
  obtain ⟨call, found⟩ := waits
  simp only [Progress.move, found]
  exact ⟨rfl, rfl⟩

theorem start_keeps_waiting (jobs : String → Job φ) (progress : Progress η φ β) {id other : String}
    (waits : other = id ∨ progress.shell.Waits other) :
    (progress.move jobs (.started id)).shell.Waits other := by
  by_cases same : other = id
  · subst same
    exact ⟨_, waiting_after_begin_same other _ progress.shell⟩
  · obtain ⟨call, found⟩ := waits.resolve_left same
    exact ⟨call, (waiting_after_begin_other same _ progress.shell).trans found⟩

theorem finish_keeps_waiting (jobs : String → Job φ) (progress : Progress η φ β)
    {id other : String} (different : other ≠ id) (waits : progress.shell.Waits other) :
    (progress.move jobs (.finished id)).shell.Waits other := by
  obtain ⟨call, found⟩ := waits
  cases known : progress.shell.waiting? id with
  | none =>
    simp only [Progress.move, known]
    exact ⟨call, found⟩
  | some waiting =>
    have name : waiting.id = id := by simpa using List.find?_some known
    refine ⟨call, ?_⟩
    simp only [Progress.move, known]
    have current : (((progress.shell.underPlan (jobs id).plan).finish waiting
        (jobs id).request.answer).2).current = progress.shell.current :=
      congrArg (· - 1) (List.length_set ..)
    rw [current, ← found]
    rw [← name] at different
    exact waiting_after_cancel_other different progress.shell

def AllWait (underWay : List String) (progress : Progress η φ β) : Prop :=
  ∀ id ∈ underWay, progress.shell.Waits id

theorem started_waits (jobs : String → Job φ) (id : String) {underWay : List String}
    {progress : Progress η φ β} (waits : AllWait underWay progress) :
    AllWait (id :: underWay) (progress.move jobs (.started id)) := by
  intro other member
  exact start_keeps_waiting jobs progress ((List.mem_cons.mp member).imp_right (waits other))

theorem finished_waits (jobs : String → Job φ) (id : String) {underWay : List String}
    {progress : Progress η φ β} (waits : AllWait underWay progress) :
    AllWait (underWay.filter (· ≠ id)) (progress.move jobs (.finished id)) := by
  intro other member
  obtain ⟨among, different⟩ := List.mem_filter.mp member
  exact finish_keeps_waiting jobs progress (by simpa using different) (waits other among)

theorem avatar_waits (jobs : String → Job φ) (url : String) (plan : φ) {underWay : List String}
    {progress : Progress η φ β} (waits : AllWait underWay progress) :
    AllWait underWay (progress.move jobs (.avatarSet url plan)) := by
  intro id member
  obtain ⟨call, found⟩ := waits id member
  have current : (progress.move jobs (.avatarSet url plan)).shell.current =
      progress.shell.current := congrArg (· - 1) (List.length_set ..)
  refine ⟨call, ?_⟩
  rw [current]
  exact found

theorem results_in_order (jobs : String → Job φ) (moves : List (Move φ)) {underWay : List String}
    {progress : Progress η φ β} (ordered : Ordered underWay moves)
    (waits : AllWait underWay progress) :
    (progress.moveAll jobs moves).settled.map Prod.fst =
      progress.settled.map Prod.fst ++ moves.filter Move.settles := by
  induction moves generalizing underWay progress with
  | nil => exact (List.append_nil _).symm
  | cons move rest ih =>
    cases move with
    | started id => exact ih ordered (started_waits jobs id waits)
    | finished id =>
      have settled := (finished_settles jobs progress (waits id ordered.1)).2
      have later := ih ordered.2 (finished_waits jobs id waits)
      rw [settled, List.map_append, List.append_assoc] at later
      exact later
    | avatarSet url plan =>
      have later := ih ordered (avatar_waits jobs url plan waits)
      simp only [Progress.move, List.map_append, List.append_assoc] at later
      exact later

structure Alike (left right : Progress η φ β) : Prop where
  shell : left.shell.still = right.shell.still
  settled : left.settled = right.settled

theorem finished_alike (jobs : String → Job φ) {id : String} {left right : Progress η φ β}
    (alike : Alike left right) (waits : left.shell.Waits id) :
    Alike (left.move jobs (.finished id)) (right.moveAll jobs [.started id, .finished id]) := by
  obtain ⟨leftShell, leftSettled⟩ := finished_settles jobs left waits
  obtain ⟨rightShell, rightSettled⟩ := finished_settles jobs (right.move jobs (.started id))
    (start_keeps_waiting jobs right (Or.inl rfl))
  have begun : (right.move jobs (.started id)).shell.still = right.shell.still := rfl
  refine ⟨?_, ?_⟩
  · rw [leftShell, alike.shell, ← begun]
    exact rightShell.symm
  · rw [leftSettled, alike.shell, alike.settled, ← begun]
    exact rightSettled.symm

theorem avatar_alike (jobs : String → Job φ) (url : String) (plan : φ)
    {left right : Progress η φ β} (alike : Alike left right) :
    Alike (left.move jobs (.avatarSet url plan)) (right.move jobs (.avatarSet url plan)) := by
  have same := setAvatar_still url plan left.shell
  rw [alike.shell, setAvatar_still url plan right.shell] at same
  obtain ⟨result, shell⟩ := Prod.mk.inj same
  refine ⟨shell.symm, ?_⟩
  simp only [Progress.move, alike.settled, result]

theorem moveAll_alike (jobs : String → Job φ) (moves : List (Move φ)) {underWay : List String}
    {left right : Progress η φ β} (ordered : Ordered underWay moves)
    (waits : AllWait underWay left) (alike : Alike left right) :
    Alike (left.moveAll jobs moves) (right.moveAll jobs (serial moves)) := by
  induction moves generalizing underWay left right with
  | nil => exact alike
  | cons move rest ih =>
    have split : right.moveAll jobs (serial (move :: rest)) =
        (right.moveAll jobs move.alone).moveAll jobs (serial rest) := List.foldl_append ..
    rw [split]
    cases move with
    | started id => exact ih ordered (started_waits jobs id waits) ⟨alike.shell, alike.settled⟩
    | finished id =>
      exact ih ordered.2 (finished_waits jobs id waits)
        (finished_alike jobs alike (waits id ordered.1))
    | avatarSet url plan =>
      exact ih ordered (avatar_waits jobs url plan waits) (avatar_alike jobs url plan alike)

def AskedBy (jobs : String → Job φ) (progress : Progress η φ β) : Prop :=
  ∀ id call, (id, call) ∈ progress.asked → ∃ token, call = (jobs id).request.callWith token

theorem move_asks (jobs : String → Job φ) (move : Move φ) {progress : Progress η φ β}
    (asked : AskedBy jobs progress) : AskedBy jobs (progress.move jobs move) := by
  cases move with
  | started id =>
    intro other call member
    rcases List.mem_append.mp member with earlier | now
    · exact asked other call earlier
    · cases List.mem_singleton.mp now
      exact ⟨progress.shell.record.token, rfl⟩
  | finished id =>
    simp only [Progress.move]
    split
    · exact asked
    · exact asked
  | avatarSet url plan => exact asked

theorem moveAll_asks (jobs : String → Job φ) (moves : List (Move φ)) {progress : Progress η φ β}
    (asked : AskedBy jobs progress) : AskedBy jobs (progress.moveAll jobs moves) := by
  induction moves generalizing progress with
  | nil => exact asked
  | cons move rest ih => exact ih (move_asks jobs move asked)

def Progress.ofShell (shell : Shell η (Faulty φ β)) : Progress η φ β := ⟨shell, [], []⟩

/-- The same end, but for the tokens that logouts sent. -/
structure SameEnd (left right : Progress η φ β) : Prop where
  records : left.shell.records = right.shell.records
  store : left.shell.store = right.shell.store
  settled : left.settled = right.settled
  asked : ∀ id first second, (id, first) ∈ left.asked → (id, second) ∈ right.asked →
    first = second ∨ ∃ token other, first = .logout token ∧ second = .logout other

structure OnlyAsks (id : String) (request : Request) (before after : Progress η φ β) : Prop where
  records : after.shell.records = before.shell.records
  store : after.shell.store = before.shell.store
  settled : after.settled = before.settled
  asked : after.asked = before.asked ++ [(id, request.callWith before.shell.record.token)]

theorem calls_settle_in_finishing_order (jobs : String → Job φ) (moves : List (Move φ))
    (ordered : Ordered [] moves) (shell : Shell η (Faulty φ β)) :
    SameEnd ((Progress.ofShell shell).moveAll jobs moves)
        ((Progress.ofShell shell).moveAll jobs (serial moves)) ∧
      ((Progress.ofShell shell).moveAll jobs moves).settled.map Prod.fst =
        moves.filter Move.settles ∧
      ∀ earlier id, OnlyAsks id (jobs id).request ((Progress.ofShell shell).moveAll jobs earlier)
        ((Progress.ofShell shell).moveAll jobs (earlier ++ [.started id])) := by
  have none : AllWait [] (Progress.ofShell shell) := fun id member => absurd member List.not_mem_nil
  have alike := moveAll_alike jobs moves ordered none ⟨rfl, rfl⟩
  have unasked : AskedBy jobs (Progress.ofShell shell) :=
    fun id call member => absurd member List.not_mem_nil
  refine ⟨⟨?_, ?_, alike.settled, ?_⟩, results_in_order jobs moves ordered none, ?_⟩
  · have records := congrArg Shell.records alike.shell
    exact records
  · have store := congrArg Shell.store alike.shell
    exact store
  · intro id first second left right
    obtain ⟨token, rfl⟩ := moveAll_asks jobs moves unasked id first left
    obtain ⟨other, rfl⟩ := moveAll_asks jobs (serial moves) unasked id second right
    have agree := (jobs id).request.callWith_agrees token other
    exact agree.imp_right fun differ => ⟨token, other, differ⟩
  · intro earlier id
    have last : (Progress.ofShell shell).moveAll jobs (earlier ++ [.started id]) =
        ((Progress.ofShell shell).moveAll jobs earlier).move jobs (.started id) :=
      List.foldl_append ..
    rw [last]
    exact ⟨rfl, rfl, rfl, rfl⟩

end Runs

/- The logout is asked before anybody is signed in, and accepted after. -/
theorem early_logout_settles_last :
    Ordered (φ := List Fault) [] [.started "out", .started "in", .finished "in", .finished "out"] ∧
    SameEnd
      ((Progress.ofShell (⟨⟨.default, "/login"⟩, ⟨"", ""⟩, [.signedOut], ⟨[], .empty⟩, .empty, []⟩ :
        Shell PageStack (Faulty (List Fault) Memory))).moveAll
          (fun id => if id = "in" then ⟨.login "ann" "pw" "" "" (.ok ⟨"t"⟩), []⟩
            else ⟨.logout (.ok ()), []⟩)
          [.started "out", .started "in", .finished "in", .finished "out"])
      ((Progress.ofShell ⟨⟨.default, "/login"⟩, ⟨"", ""⟩, [.signedOut], ⟨[], .empty⟩, .empty, []⟩).moveAll
          (fun id => if id = "in" then ⟨.login "ann" "pw" "" "" (.ok ⟨"t"⟩), []⟩
            else ⟨.logout (.ok ()), []⟩)
          [.started "in", .finished "in", .started "out", .finished "out"]) :=
  have ordered : Ordered (φ := List Fault) []
      [.started "out", .started "in", .finished "in", .finished "out"] := by simp [Ordered]
  ⟨ordered, (calls_settle_in_finishing_order _ _ ordered _).1⟩

end SessionGate.Shell
