import SessionGate.Proofs.Session.Visits
import SessionGate.Proofs.Storage.Refusals

/- Work over a document that cannot be read. Every call of the store is refused before anything is
   written, so that the file keeps its bytes whatever is done, and no session comes to know a user. -/
namespace SessionGate.Session

open Storage

variable {β : Type} [Backend β] {e : Storage.Error} {store : β}

theorem resume_refused (refuses : Refuses e store) : resume store = ⟨.signedOut, store⟩ := by
  simp only [resume, refuses.run]
  rfl

theorem commit_refused (refuses : Refuses e store) (update : Update) (record : Record) :
    commit update ⟨record, store⟩ = (.error (.storage e), ⟨record, store⟩) := by
  have failed : (FieldStore.put update.field update.value).run store = (.error e, store) :=
    refuses.run _
  simp only [commit, failed]

theorem profile_refused (refuses : Refuses e store) (settings : AvatarSettings)
    (profile : Remote.Profile) (record : Record) :
    finishProfile settings (.ok profile) ⟨record, store⟩ = (.error (.storage e), ⟨record, store⟩) := by
  have first (update : Update) (rest : List Update) :
      commitAll (update :: rest) ⟨record, store⟩ = (.error (.storage e), ⟨record, store⟩) := by
    simp only [commitAll, commit_refused refuses]
  simp only [finishProfile, updatesOf, first]
  rfl

def Answer.refusal (e : Storage.Error) : Answer → Error
  | .login (.error cause) | .profile (.error cause) | .logout (.error cause) => .remote cause
  | _ => .storage e

theorem finish_refused (refuses : Refuses e store) (settings : AvatarSettings) (answer : Answer) :
    finish settings answer ⟨.signedOut, store⟩ =
      (.error (answer.refusal e), ⟨.signedOut, store⟩) := by
  match answer with
  | .login (.error cause) => rfl
  | .profile (.error cause) => rfl
  | .logout (.error cause) => rfl
  | .login (.ok grant) =>
    simp only [finish, finishLogin, refuses.run]
    rfl
  | .profile (.ok profile) =>
    simp only [finish, profile_refused refuses]
    rfl
  | .logout (.ok accepted) =>
    simp only [finish, finishLogout, refuses.run]
    rfl

end SessionGate.Session

namespace SessionGate.Shell

open Navigation Storage

/-- One piece of work on the store, or whatever else may happen in a shell. -/
inductive Deed where
  | worked (work : Work)
  | occurred (event : Event)

def Deed.refusal (e : Storage.Error) : Deed → Option Work.Reply
  | .worked work => some (work.refusal e)
  | .occurred _ => none

section Runs

variable {η β : Type}

structure Strange (store : β) (shell : Shell η β) : Prop where
  store : shell.store = store
  records : ∀ record ∈ shell.records, record = .signedOut

variable {e : Storage.Error} {store : β} {shell : Shell η β}

theorem Strange.recordOf (strange : Strange store shell) (session : Nat) :
    shell.recordOf session = .signedOut := by
  rw [Shell.recordOf, List.getD_eq_getElem?_getD]
  cases known : shell.records[session]? with
  | none => rfl
  | some record => exact strange.records record (List.mem_of_getElem? known)

theorem Strange.onSession {α : Type} (strange : Strange store shell) (session : Nat)
    {work : Session β → α × Session β} {a : α}
    (fails : work ⟨.signedOut, store⟩ = (a, ⟨.signedOut, store⟩)) :
    (shell.onSession session work).1 = a ∧ Strange store (shell.onSession session work).2 := by
  have same : work ⟨shell.recordOf session, shell.store⟩ = (a, ⟨.signedOut, store⟩) := by
    rw [strange.recordOf, strange.store]
    exact fails
  simp only [Shell.onSession, same, true_and]
  refine ⟨rfl, ?_⟩
  intro record member
  rcases List.mem_or_eq_of_mem_set member with old | new
  · exact strange.records record old
  · exact new

variable [Backend β]

theorem Strange.complete (refuses : Refuses e store) (strange : Strange store shell)
    (answer : Session.Answer) : (shell.complete answer).1 = .error (answer.refusal e) ∧
      Strange store (shell.complete answer).2 :=
  strange.onSession shell.current (Session.finish_refused refuses shell.avatar answer)

theorem Strange.setAvatar (refuses : Refuses e store) (strange : Strange store shell)
    (url : String) : (shell.setAvatar url).1 = .error (.storage e) ∧
      Strange store (shell.setAvatar url).2 :=
  strange.onSession shell.current (Session.commit_refused refuses (.avatar url) .signedOut)

theorem Strange.restart (refuses : Refuses e store) (strange : Strange store shell) :
    Strange store shell.restart := by
  have resumed := Session.resume_refused refuses
  simp only [Shell.restart, strange.store, resumed]
  refine ⟨rfl, ?_⟩
  intro record member
  rcases List.mem_append.mp member with old | new
  · exact strange.records record old
  · exact List.mem_singleton.mp new

variable [Host η]

def Deed.perform (shell : Shell η β) : Deed → Option Work.Reply × Shell η β
  | .worked work =>
    let (reply, shell) := shell.onStore work.calls
    (some reply, shell)
  | .occurred event => (none, event.occur shell)

def performAll : List Deed → Shell η β → List (Option Work.Reply) × Shell η β
  | [], shell => ([], shell)
  | deed :: rest, shell =>
    let (reply, shell) := deed.perform shell
    let (replies, shell) := performAll rest shell
    (reply :: replies, shell)

theorem Strange.occur (refuses : Refuses e store) (strange : Strange store shell) (event : Event) :
    Strange store (event.occur shell) := by
  cases event with
  | visited primitive url => exact ⟨strange.store, strange.records⟩
  | completed answer => exact (strange.complete refuses answer).2
  | avatarSet url => exact (strange.setAvatar refuses url).2
  | begun id call => exact ⟨strange.store, strange.records⟩
  | answered id answer =>
    simp only [Event.occur]
    split
    · rename_i waiting found
      have cancelled : Strange store (shell.cancel waiting.id) := ⟨strange.store, strange.records⟩
      exact (cancelled.onSession waiting.session
        (Session.finish_refused refuses shell.avatar answer)).2
    · exact strange
  | cancelled id => exact ⟨strange.store, strange.records⟩
  | restarted => exact strange.restart refuses

theorem Strange.perform (refuses : Refuses e store) (strange : Strange store shell) (deed : Deed) :
    (deed.perform shell).1 = deed.refusal e ∧ Strange store (deed.perform shell).2 := by
  cases deed with
  | occurred event => exact ⟨rfl, strange.occur refuses event⟩
  | worked work =>
    have same : work.calls.run shell.store = (work.refusal e, store) := by
      rw [strange.store, refuses.run, work.calls_refused]
    simp only [Deed.perform, Shell.onStore, same]
    exact ⟨rfl, rfl, strange.records⟩

theorem Strange.performAll (refuses : Refuses e store) (strange : Strange store shell)
    (deeds : List Deed) : (Shell.performAll deeds shell).1 = deeds.map (Deed.refusal e) ∧
      Strange store (Shell.performAll deeds shell).2 := by
  induction deeds generalizing shell with
  | nil => exact ⟨rfl, strange⟩
  | cons deed rest ih =>
    obtain ⟨reply, next⟩ := strange.perform refuses deed
    obtain ⟨replies, last⟩ := ih next
    refine ⟨?_, last⟩
    simp only [Shell.performAll, List.map_cons, reply, replies]

end Runs

/-- After work over a document that cannot be read for the given cause. -/
structure LeftAlone {η : Type} [Host η] (store : FileStore) (cause : Json.Error) (deeds : List Deed)
    (replies : List (Option Work.Reply)) (shell : Shell η FileStore) : Prop where
  replies : replies = deeds.map (Deed.refusal (.malformed cause))
  store : shell.store = store
  records : ∀ session, shell.recordOf session = .signedOut
  answers : ∀ answer, (shell.complete answer).1 = .error (answer.refusal (.malformed cause))
  avatars : ∀ url, (shell.setAvatar url).1 = .error (.storage (.malformed cause))

/- What is done up to some moment is a list of deeds as well, so this speaks of every moment. -/
theorem malformed_document_is_left_alone {η : Type} [Host η] (policy : Policy)
    (avatar : AvatarSettings) (host : η) {store : FileStore} {content : Text.Bytes}
    {cause : Json.Error} (found : FileTree.read store.path store.tree = .ok content)
    (visible : content.all isBlankByte = false)
    (unreadable : Json.readMap (Text.decode content) = .error cause) (deeds : List Deed) :
    LeftAlone store cause deeds (performAll deeds (launch policy avatar store host)).1
      (performAll deeds (launch policy avatar store host)).2 := by
  have refuses := FileStore.refuses_of_load (FileStore.load_unreadable found visible unreadable)
  have started : Strange store (⟨policy, avatar, [], store, host, []⟩ : Shell η FileStore) :=
    ⟨rfl, nofun⟩
  have launched : Strange store (launch policy avatar store host) := started.restart refuses
  obtain ⟨replies, last⟩ := launched.performAll refuses deeds
  exact ⟨replies, last.store, last.recordOf, fun answer => (last.complete refuses answer).1,
    fun url => (last.setAvatar refuses url).1⟩

def brokenOff : FileStore :=
  ⟨⟨["s.json"]⟩, ⟨.directory [("s.json", .file (Text.encode "\x7b\"App-Token\": \"t\","))], []⟩⟩

theorem broken_document_is_left_alone :
    (performAll [.worked .getToken, .occurred (.completed (.login (.ok ⟨"new"⟩))), .occurred .restarted,
        .worked (.write "k" .null), .worked (.set "other" .null)]
      (launch ⟨.default, defaultLoginPage⟩ ⟨"", ""⟩ brokenOff PageStack.empty)).1 =
      [some (.text ""), none, none, some (.done (.error (.malformed (.malformed .endInValue)))),
        some (.done (.ok ()))] ∧
    (performAll [.occurred (.completed (.login (.ok ⟨"new"⟩)))]
      (launch ⟨.default, defaultLoginPage⟩ ⟨"", ""⟩ brokenOff PageStack.empty)).2.store =
      brokenOff := by
  have found : FileTree.read brokenOff.path brokenOff.tree =
      .ok (Text.encode "\x7b\"App-Token\": \"t\",") := rfl
  have unreadable : Json.readMap (Text.decode (Text.encode "\x7b\"App-Token\": \"t\",")) =
      .error (.malformed .endInValue) := rfl
  have alone (deeds : List Deed) := malformed_document_is_left_alone
    ⟨.default, defaultLoginPage⟩ ⟨"", ""⟩ PageStack.empty found rfl unreadable deeds
  exact ⟨(alone _).replies, (alone _).store⟩

end SessionGate.Shell
