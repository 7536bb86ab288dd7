import SessionGate.Proofs.Session.Visits
import SessionGate.Proofs.Storage.Veiled
import SessionGate.Session.Permission

/- The text of a token is opaque. Whatever is done in a shell comes to the same when every token, in memory
   and in the store, is veiled, so that two shells that are the same once veiled cannot be told apart. -/
namespace SessionGate

open Json (Value Members)
open Navigation Storage

/-! Sessions -/

def Record.veiled (record : Record) : Record := { record with token := veil record.token }

namespace Session

def veiled (session : Session Memory) : Session Memory :=
  ⟨session.record.veiled, session.store.veiled⟩

def Answer.veiled : Answer → Answer
  | .login (.ok grant) => .login (.ok ⟨veil grant.token⟩)
  | answer => answer

def Call.veiled : Call → Call
  | .logout _ => .logout ""
  | call => call

theorem resume_veiled (store : Memory) : resume store.veiled = (resume store).veiled := by
  simp only [resume, token_get_veiled, text_get_veiled, list_get_veiled]
  rfl

theorem commit_veiled (update : Update) (session : Session Memory) :
    commit update session.veiled =
      ((commit update session).1, (commit update session).2.veiled) := by
  have applied : update.apply session.record.veiled = (update.apply session.record).veiled := by
    cases update <;> rfl
  simp only [commit, veiled, put_veiled, applied]
  obtain ⟨result, store⟩ := (FieldStore.put update.field update.value).run session.store
  cases result <;> rfl

theorem commitAll_veiled (updates : List Update) (session : Session Memory) :
    commitAll updates session.veiled =
      ((commitAll updates session).1, (commitAll updates session).2.veiled) := by
  induction updates generalizing session with
  | nil => rfl
  | cons update rest ih =>
    simp only [commitAll, commit_veiled]
    obtain ⟨result, next⟩ := commit update session
    cases result with
    | error e => rfl
    | ok done => exact ih next

theorem finish_veiled (settings : AvatarSettings) (answer : Answer) (session : Session Memory) :
    finish settings answer.veiled session.veiled =
      ((finish settings answer session).1, (finish settings answer session).2.veiled) := by
  match answer with
  | .login (.error e) => rfl
  | .login (.ok grant) =>
    simp only [Answer.veiled, finish, finishLogin, veiled, token_set_veiled]
    rfl
  | .profile (.error e) => rfl
  | .profile (.ok profile) =>
    have same : updatesOf settings session.veiled.record profile =
      updatesOf settings session.record profile := rfl
    simp only [Answer.veiled, finish, finishProfile, same, commitAll_veiled]
  | .logout (.error e) => rfl
  | .logout (.ok accepted) =>
    simp only [Answer.veiled, finish, finishLogout, veiled, TokenStore.remove, FieldStore.clear,
      Calls.run, delete_veiled]
    rfl

end Session

/-! Shells -/

theorem visitor_veiled (token : String) : Visitor.ofToken (veil token) = .ofToken token := by
  simp only [Visitor.ofToken, veil_empty_iff]

section Guarding

variable {η : Type} [Host η] (policy : Policy) (token : String)

theorem intercept_veiled (intent : Intent) (host : η) :
    Navigation.intercept policy (veil token) intent host =
      Navigation.intercept policy token intent host := by
  simp only [Navigation.intercept, visitor_veiled]

theorem dispatch_veiled (primitive : Primitive) (url : String) (host : η) :
    Navigation.dispatch policy (veil token) primitive url host =
      Navigation.dispatch policy token primitive url host := by
  simp only [Navigation.dispatch, intercept_veiled]

end Guarding

def Waiting.veiled (waiting : Waiting) : Waiting := { waiting with call := waiting.call.veiled }

namespace Shell

variable {η : Type}

def veiled (shell : Shell η Memory) : Shell η Memory :=
  { shell with
    records := shell.records.map Record.veiled
    store := shell.store.veiled
    waiting := shell.waiting.map Waiting.veiled }

section Looking

variable (shell : Shell η Memory)

theorem recordOf_veiled (session : Nat) :
    shell.veiled.recordOf session = (shell.recordOf session).veiled := by
  simp only [recordOf, veiled, List.getD_eq_getElem?_getD, List.getElem?_map]
  cases shell.records[session]? <;> rfl

theorem current_veiled : shell.veiled.current = shell.current := by
  simp [current, veiled]

theorem record_veiled : shell.veiled.record = shell.record.veiled := by
  rw [record, current_veiled, recordOf_veiled]
  rfl

theorem token_veiled : shell.veiled.record.token = veil shell.record.token :=
  congrArg Record.token (record_veiled shell)

theorem waiting_veiled (id : String) :
    shell.veiled.waiting? id = (shell.waiting? id).map Waiting.veiled :=
  List.find?_map

theorem cancel_veiled (id : String) : shell.veiled.cancel id = (shell.cancel id).veiled := by
  simp only [cancel, veiled, List.filter_map]
  rfl

theorem begin_veiled (id : String) (call : Session.Call) :
    shell.veiled.begin id call.veiled = (shell.begin id call).veiled := by
  simp only [begin, current_veiled]
  simp only [veiled, List.filter_map, List.map_append]
  rfl

theorem restart_veiled : shell.veiled.restart = shell.restart.veiled := by
  simp only [restart, veiled, Session.resume_veiled, List.map_append]
  rfl

theorem onSession_veiled {α : Type} (session : Nat)
    {work other : Session Memory → α × Session Memory}
    (same : ∀ before, other before.veiled = ((work before).1, (work before).2.veiled)) :
    shell.veiled.onSession session other =
      ((shell.onSession session work).1, (shell.onSession session work).2.veiled) := by
  have before : (⟨shell.veiled.recordOf session, shell.veiled.store⟩ : Session Memory) =
      Session.veiled ⟨shell.recordOf session, shell.store⟩ := by
    rw [recordOf_veiled]
    rfl
  simp only [onSession, before, same]
  simp only [veiled, List.map_set]
  rfl

theorem complete_veiled (answer : Session.Answer) : shell.veiled.complete answer.veiled =
    ((shell.complete answer).1, (shell.complete answer).2.veiled) := by
  rw [complete, current_veiled]
  exact onSession_veiled shell shell.current (Session.finish_veiled shell.avatar answer)

theorem finish_veiled (waiting : Waiting) (answer : Session.Answer) :
    shell.veiled.finish waiting.veiled answer.veiled =
      ((shell.finish waiting answer).1, (shell.finish waiting answer).2.veiled) := by
  have cancelled : shell.veiled.cancel waiting.veiled.id = (shell.cancel waiting.id).veiled :=
    cancel_veiled shell waiting.id
  rw [finish, cancelled]
  exact onSession_veiled _ waiting.session (Session.finish_veiled shell.avatar answer)

theorem setAvatar_veiled (url : String) : shell.veiled.setAvatar url =
    ((shell.setAvatar url).1, (shell.setAvatar url).2.veiled) := by
  rw [setAvatar, current_veiled]
  exact onSession_veiled shell shell.current (Session.commit_veiled (.avatar url))

theorem visit_veiled [Host η] (primitive : Primitive) (url : String) :
    shell.veiled.dispatch primitive url =
      ((shell.dispatch primitive url).1, (shell.dispatch primitive url).2.veiled) := by
  simp only [dispatch, token_veiled]
  rw [dispatch_veiled]
  rfl

theorem judge_veiled [Host η] (intent : Intent) : shell.veiled.intercept intent =
    ((shell.intercept intent).1, (shell.intercept intent).2.veiled) := by
  simp only [intercept, token_veiled]
  rw [intercept_veiled]
  rfl

end Looking

/-! Runs, and what is seen of them -/

/-- What is done before a shell: something happens in it, or an attempt is judged and not made. -/
inductive Act where
  | happened (event : Event)
  | judged (intent : Intent)

/-- What whoever acts gets to see at once. -/
inductive Sight where
  | nothing
  | proceeded (answer : Bool)
  | asked (call : Session.Call)
  | settled (granted : Option String) (result : Except Session.Error (Option Remote.Profile))
  | avatarSet (result : Except Session.Error Unit)

def Event.veiled : Event → Event
  | .completed answer => .completed answer.veiled
  | .begun id call => .begun id call.veiled
  | .answered id answer => .answered id answer.veiled
  | event => event

def Act.veiled : Act → Act
  | .happened event => .happened event.veiled
  | .judged intent => .judged intent

def granted : Session.Answer → Option String
  | .login (.ok grant) => some grant.inspect
  | _ => none

theorem granted_veiled (answer : Session.Answer) : granted answer.veiled = granted answer := by
  match answer with
  | .login (.error _) => rfl
  | .login (.ok _) => rfl
  | .profile _ => rfl
  | .logout _ => rfl

theorem call_veiled_twice (call : Session.Call) : call.veiled.veiled = call.veiled := by
  cases call <;> rfl

variable [Host η]

def Event.sight (shell : Shell η Memory) : Event → Sight
  | .visited primitive url => .proceeded (shell.dispatch primitive url).1
  | .completed answer => .settled (granted answer) (shell.complete answer).1
  | .avatarSet url => .avatarSet (shell.setAvatar url).1
  | .begun _ call => .asked call.veiled
  | .answered id answer =>
    match shell.waiting? id with
    | some waiting => .settled (granted answer) (shell.finish waiting answer).1
    | none => .nothing
  | .cancelled _ | .restarted => .nothing

def Act.perform (shell : Shell η Memory) : Act → Sight × Shell η Memory
  | .happened event => (event.sight shell, event.occur shell)
  | .judged intent =>
    let (proceeds, shell) := shell.intercept intent
    (.proceeded proceeds, shell)

/-- All that is seen while one thing after another is done. -/
def watch : List Act → Shell η Memory → List Sight × Shell η Memory
  | [], shell => ([], shell)
  | act :: rest, shell =>
    let (sight, shell) := act.perform shell
    let (sights, shell) := watch rest shell
    (sight :: sights, shell)

theorem event_veiled (event : Event) (shell : Shell η Memory) :
    event.veiled.sight shell.veiled = event.sight shell ∧
      event.veiled.occur shell.veiled = (event.occur shell).veiled := by
  cases event with
  | visited primitive url =>
    simp only [Event.veiled, Event.sight, Event.occur, visit_veiled, and_self]
  | completed answer =>
    simp only [Event.veiled, Event.sight, Event.occur, complete_veiled, granted_veiled, and_self]
  | avatarSet url =>
    simp only [Event.veiled, Event.sight, Event.occur, setAvatar_veiled, and_self]
  | begun id call =>
    simp only [Event.veiled, Event.sight, Event.occur, begin_veiled, call_veiled_twice, and_self]
  | answered id answer =>
    simp only [Event.veiled, Event.sight, Event.occur, waiting_veiled]
    cases shell.waiting? id with
    | none => exact ⟨rfl, rfl⟩
    | some waiting => simp only [Option.map_some, finish_veiled, granted_veiled, and_self]
  | cancelled id => exact ⟨rfl, cancel_veiled shell id⟩
  | restarted => exact ⟨rfl, restart_veiled shell⟩

theorem perform_veiled (act : Act) (shell : Shell η Memory) :
    act.veiled.perform shell.veiled = ((act.perform shell).1, (act.perform shell).2.veiled) := by
  cases act with
  | happened event =>
    obtain ⟨sight, after⟩ := event_veiled event shell
    exact Prod.ext sight after
  | judged intent =>
    simp only [Act.veiled, Act.perform, judge_veiled]

theorem watch_veiled (acts : List Act) (shell : Shell η Memory) :
    watch (acts.map Act.veiled) shell.veiled =
      ((watch acts shell).1, (watch acts shell).2.veiled) := by
  induction acts generalizing shell with
  | nil => rfl
  | cons act rest ih => simp only [List.map_cons, watch, perform_veiled, ih]

end Shell

/-! What can be looked up at any moment -/

/-- Two records that only their tokens can tell apart. -/
structure Record.LooksLike (left right : Record) : Prop where
  fields : { left with token := "" } = { right with token := "" }
  signedIn : left.isAuthenticated = right.isAuthenticated
  permission : left.hasPermission = right.hasPermission
  anyPermission : left.hasAnyPermission = right.hasAnyPermission
  allPermissions : left.hasAllPermissions = right.hasAllPermissions
  role : left.hasRole = right.hasRole
  anyRole : left.hasAnyRole = right.hasAnyRole
  allRoles : left.hasAllRoles = right.hasAllRoles
  written : left.toValue = right.toValue
  printed : left.overview.pretty = right.overview.pretty
  logged : left.inspect = right.inspect

theorem authenticated_veiled (record : Record) :
    record.veiled.isAuthenticated = record.isAuthenticated := by
  simp only [Record.isAuthenticated, Record.veiled, ne_eq, veil_empty_iff]

theorem inspect_veiled (record : Record) : record.veiled.inspect = record.inspect := by
  simp only [Record.inspect, Record.veiled, veil_empty_iff]

theorem overview_veiled (record : Record) : record.veiled.overview = record.overview := by
  rw [Record.overview, authenticated_veiled]
  rfl

theorem Record.looksLike_of_veiled {left right : Record} (same : left.veiled = right.veiled) :
    left.LooksLike right where
  fields := congrArg (fun record => { record with token := "" }) same
  signedIn := told_alike Record.veiled Record.isAuthenticated authenticated_veiled same
  permission := told_alike Record.veiled Record.hasPermission (fun _ => rfl) same
  anyPermission := told_alike Record.veiled Record.hasAnyPermission (fun _ => rfl) same
  allPermissions := told_alike Record.veiled Record.hasAllPermissions (fun _ => rfl) same
  role := told_alike Record.veiled Record.hasRole (fun _ => rfl) same
  anyRole := told_alike Record.veiled Record.hasAnyRole (fun _ => rfl) same
  allRoles := told_alike Record.veiled Record.hasAllRoles (fun _ => rfl) same
  written := told_alike Record.veiled Record.toValue (fun _ => rfl) same
  printed := congrArg Value.pretty (told_alike Record.veiled Record.overview overview_veiled same)
  logged := told_alike Record.veiled Record.inspect inspect_veiled same

namespace Shell

variable {η : Type}

/-- Two shells that only the tokens in them can tell apart. -/
structure LooksLike (left right : Shell η Memory) : Prop where
  host : left.host = right.host
  sessions : left.records.length = right.records.length
  records (session : Nat) : (left.recordOf session).LooksLike (right.recordOf session)
  decisions (intent : Intent) : left.policy.decide (.ofToken left.record.token) intent =
    right.policy.decide (.ofToken right.record.token) intent
  underWay : left.waiting.map Waiting.veiled = right.waiting.map Waiting.veiled
  values (name : String) : ((FieldStore.get name).run left.store).1 =
    ((FieldStore.get name).run right.store).1
  texts (field : Field) : ((FieldStore.getText field).run left.store).1 =
    ((FieldStore.getText field).run right.store).1
  lists (field : Field) : ((FieldStore.getList field).run left.store).1 =
    ((FieldStore.getList field).run right.store).1
  entries (key : String) (other : key ≠ TokenStore.key) :
    (Backend.read key left.store).1 = (Backend.read key right.store).1
  remembered : (TokenStore.get.run left.store).1 = "" ↔ (TokenStore.get.run right.store).1 = ""

theorem looksLike_of_veiled {left right : Shell η Memory} (same : left.veiled = right.veiled) :
    left.LooksLike right := by
  have policy : left.policy = right.policy := congrArg (·.policy) same
  have store : left.store.veiled = right.store.veiled := congrArg (·.store) same
  have record : left.record.veiled = right.record.veiled := by
    rw [← record_veiled, same, record_veiled]
  have avoids (name : String) : (FieldStore.get name).Avoids TokenStore.key :=
    get_avoids (Ne.symm token_key_outside) name
  have told {α : Type} {calls : Calls α} (avoids : calls.Avoids TokenStore.key) :
      (calls.run left.store).1 = (calls.run right.store).1 :=
    told_alike Memory.veiled (fun store => (calls.run store).1)
      (fun store => by rw [avoids.run_veiled store]) store
  refine ⟨congrArg (·.host) same, ?_, fun session => ?_, fun intent => ?_,
    congrArg (·.waiting) same, fun name => told (avoids name),
    fun field => told ((avoids field.key).map _), fun field => told ((avoids field.key).map _),
    fun key other => ?_, ?_⟩
  · have records := congrArg (fun shell => shell.records.length) same
    simpa [veiled] using records
  · apply Record.looksLike_of_veiled
    rw [← recordOf_veiled, same, recordOf_veiled]
  · rw [policy]
    exact told_alike Record.veiled (fun record => right.policy.decide (.ofToken record.token) intent)
      (fun record => congrArg (right.policy.decide · intent) (visitor_veiled record.token)) record
  · exact told_alike Memory.veiled (fun store => (Backend.read key store).1)
      (fun store => by rw [read_other other]) store
  · apply (veil_eq_iff _ _).mp
    have veils := token_get_veiled left.store
    rw [store, token_get_veiled] at veils
    exact (congrArg Prod.fst veils).symm

variable [Host η]

/- The acts are any, so that this speaks of every moment of the two runs. -/
theorem token_text_is_opaque {left right : Shell η Memory} (same : left.veiled = right.veiled)
    {acts others : List Act} (alike : acts.map Act.veiled = others.map Act.veiled) :
    (watch acts left).1 = (watch others right).1 ∧
      (watch acts left).2.LooksLike (watch others right).2 := by
  have runs := watch_veiled acts left
  rw [same, alike, watch_veiled others right] at runs
  obtain ⟨sights, shells⟩ := Prod.mk.inj runs
  exact ⟨sights.symm, looksLike_of_veiled shells.symm⟩

def signedInWith (token : String) : Shell PageStack Memory where
  policy := ⟨.default, "/login"⟩
  avatar := ⟨"http://api", "/default.jpg"⟩
  records := [⟨token, "7", "Ann", "", ["editor"], []⟩]
  store := ⟨[(TokenStore.key, .text token)]⟩
  host := .withRoot "/"
  waiting := []

def relogin (old new : String) : List Act := [
  .happened (.begun "out" (.logout old)),
  .happened (.completed (.login (.ok ⟨new⟩))),
  .happened (.visited .navigateTo "/pages/user"),
  .happened .restarted,
  .judged (.parse "/login"),
  .happened (.answered "out" (.logout (.ok ()))),
  .happened (.visited .switchTab "/pages/user")]

theorem relogins_look_alike :
    (signedInWith "a").veiled = (signedInWith "b").veiled ∧
      (relogin "a" "long").map Act.veiled = (relogin "b" "longer").map Act.veiled ∧
      (watch (relogin "a" "long") (signedInWith "a")).1 =
        (watch (relogin "b" "longer") (signedInWith "b")).1 ∧
      (watch (relogin "a" "long") (signedInWith "a")).2.LooksLike
        (watch (relogin "b" "longer") (signedInWith "b")).2 :=
  have same : (signedInWith "a").veiled = (signedInWith "b").veiled := rfl
  have alike : (relogin "a" "long").map Act.veiled = (relogin "b" "longer").map Act.veiled := rfl
  ⟨same, alike, token_text_is_opaque same alike⟩

end Shell

end SessionGate
