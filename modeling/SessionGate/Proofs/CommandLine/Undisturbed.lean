import SessionGate.Proofs.CommandLine.Processes
import SessionGate.Proofs.Session.Refound

/- Whether a file operation fails under processes that run one after another. This can be told from the files
   at the start: none of the commands changes what is stored, or documents can be saved. -/
namespace SessionGate

open Storage

namespace Session

/-! Operations of a session -/

inductive Answer.Accepts : Answer → Prop where
  | login (grant : Remote.Grant) : Accepts (.login (.ok grant))
  | profile (profile : Remote.Profile) : Accepts (.profile (.ok profile))
  | logout : Accepts (.logout (.ok ()))

section Changes

variable {store : FileStore} {entries : Json.Members} {change : Change}

theorem saves_of_made (done : (change.made store).1 = .ok ()) : store.Saves := by
  obtain ⟨entries, loaded, _⟩ := made_done done
  rw [change.made_eq, FileStore.change, loaded] at done
  exact FileStore.saves_of_save done

theorem made_outcome (loaded : store.load = .ok entries) (writable : change.Writable) :
    (¬ store.Saves ∧ ∃ cause, (change.made store).1 = .error (.path cause)) ∨
      (store.Saves ∧ (change.made store).1 = .ok () ∧ Serves (change.made store).2) := by
  by_cases able : store.Saves
  · have serves : Serves store := ⟨⟨entries, loaded⟩, able⟩
    exact Or.inr ⟨able, serves.made writable⟩
  · cases answer : (change.made store).1 with
    | ok done => exact absurd (saves_of_made answer) able
    | error e =>
      obtain ⟨cause, rfl⟩ := made_fails loaded answer
      exact Or.inl ⟨able, cause, rfl⟩

end Changes

/-- What may come of an operation over a document that loads. One that is accepted changes the document. -/
inductive Came {α : Type} (accepted : Prop) (before : Session FileStore) :
    Except Error α × Session FileStore → Prop where
  | refused {e : Remote.Error} (idle : ¬ accepted) : Came accepted before (.error (.remote e), before)
  | stuck {cause : PathError} {after : Session FileStore} (accepts : accepted)
      (unable : ¬ before.store.Saves) : Came accepted before (.error (.storage (.path cause)), after)
  | saved {a : α} {after : Session FileStore} (accepts : accepted) (able : before.store.Saves)
      (place : after.store.path = before.store.path) (serves : Serves after.store) :
      Came accepted before (.ok a, after)

theorem Came.map {α γ : Type} {accepted : Prop} {before : Session FileStore}
    {outcome : Except Error α × Session FileStore} (came : Came accepted before outcome) (f : α → γ) :
    Came accepted before (outcome.1.map f, outcome.2) := by
  cases came with
  | refused idle => exact .refused idle
  | stuck accepts unable => exact .stuck accepts unable
  | saved accepts able place serves => exact .saved accepts able place serves

section Operations

variable {session : Session FileStore} {entries : Json.Members}

theorem taking_came {accepted : Prop} (accepts : accepted)
    (loaded : session.store.load = .ok entries) {change : Change} (writable : change.Writable)
    (taken : Record) :
    Came accepted session (taking session.record taken (change.made session.store)) := by
  rcases made_outcome loaded writable with ⟨unable, cause, failed⟩ | ⟨able, done, serves⟩
  · rw [taking_refused failed]
    exact .stuck accepts unable
  · rw [taking_done done]
    exact .saved accepts able (made_path _ _) serves

theorem commit_came {accepted : Prop} (accepts : accepted)
    (loaded : session.store.load = .ok entries) (update : Update) :
    Came accepted session (commit update session) := by
  rw [commit_taking, ← Update.put, put_made loaded]
  exact taking_came accepts loaded (fieldChange_writable loaded update) _

theorem commitAll_came {accepted : Prop} (accepts : accepted)
    (loaded : session.store.load = .ok entries) (update : Update) (rest : List Update) :
    Came accepted session (commitAll (update :: rest) session) := by
  have first := commit_came accepts loaded update
  rw [commitAll]
  generalize commit update session = stored at first ⊢
  cases first with
  | refused idle => exact absurd accepts idle
  | stuck _ unable => exact .stuck accepts unable
  | @saved _ after _ able place serves =>
    obtain ⟨done, kept, last⟩ := serves.commitAll rest
    have committed : commitAll rest after = (.ok (), (commitAll rest after).2) := Prod.ext done rfl
    dsimp only
    rw [committed]
    exact .saved accepts able (kept.trans place) last

theorem finishLogout_came (loaded : session.store.load = .ok entries)
    (answer : Except Remote.Error Unit) :
    Came (Answer.logout answer).Accepts session (finishLogout answer session) := by
  cases answer with
  | error e => exact .refused nofun
  | ok accepted =>
    have token : TokenStore.remove.run session.store =
        (Change.deleted TokenStore.key).made session.store := rfl
    simp only [finishLogout, token]
    have removed := made_outcome loaded (deleted_writable TokenStore.key)
    have place := made_path session.store (.deleted TokenStore.key)
    generalize (Change.deleted TokenStore.key).made session.store = removal at removed place ⊢
    obtain ⟨result, between⟩ := removal
    rcases removed with ⟨unable, cause, rfl⟩ | ⟨able, rfl, serves⟩
    · exact .stuck .logout unable
    · have fields : FieldStore.clear.run between = (Change.deleted fieldsKey).made between := rfl
      obtain ⟨done, last⟩ := serves.made (deleted_writable fieldsKey)
      rw [fields, done]
      exact .saved .logout able ((made_path _ _).trans place) last

theorem finishLogin_came (loaded : session.store.load = .ok entries)
    (answer : Except Remote.Error Remote.Grant) :
    Came (Answer.login answer).Accepts session (finishLogin answer session) := by
  cases answer with
  | error e => exact .refused nofun
  | ok grant =>
    rw [finishLogin_taking]
    exact taking_came (.login grant) loaded (token_writable grant.token) _

theorem finishProfile_came (loaded : session.store.load = .ok entries) (settings : AvatarSettings)
    (answer : Except Remote.Error Remote.Profile) :
    Came (Answer.profile answer).Accepts session (finishProfile settings answer session) := by
  cases answer with
  | error e => exact .refused nofun
  | ok profile =>
    obtain ⟨id, name, avatar, lists⟩ := updatesOf_lists settings session.record profile
    simp only [finishProfile]
    rw [lists]
    exact (commitAll_came (.profile profile) loaded (.userId id) _).map _

theorem finish_came (loaded : session.store.load = .ok entries) (settings : AvatarSettings)
    (answer : Answer) : Came answer.Accepts session (finish settings answer session) := by
  cases answer with
  | login answer => exact (finishLogin_came loaded answer).map _
  | profile answer => exact (finishProfile_came loaded settings answer).map _
  | logout answer => exact (finishLogout_came loaded answer).map _

end Operations

end Session

namespace CommandLine

open Session
open Remote (Network)

/-! Commands -/

section Commands

variable {β : Type} [Backend β]

def Desk.Accepts (settings : Settings) (call : Session.Call) (desk : Desk β) : Prop :=
  (exchange (.make settings.baseUrl) call desk.session.store desk.network).1.Accepts

/-- The command goes on to change what is stored. -/
def Desk.Changes (settings : Settings) (desk : Desk β) : Command → Prop
  | .login username password code uuid _ =>
    desk.Accepts settings (loginCall username password code uuid)
  | .profile => desk.Accepts settings .profile
  | .logout => desk.Accepts settings desk.session.logoutCall
  | .avatar _ => True
  | .whoami | .navigate _ _ | .checkPermission _ _ | .checkRole _ _ => False

end Commands

inductive Left (changes lost : Prop) (before after : FileStore) : Prop where
  | untouched (idle : ¬ changes) (fine : ¬ lost) (same : after = before)
  | stuck (changed : changes) (unable : ¬ before.Saves) (lost : lost)
  | saved (changed : changes) (able : before.Saves) (fine : ¬ lost)
      (place : after.path = before.path) (serves : Serves after)

theorem Left.lost_iff {changes lost : Prop} {before after : FileStore}
    (left : Left changes lost before after) : lost ↔ changes ∧ ¬ before.Saves := by
  cases left with
  | untouched idle fine same => exact iff_of_false fine fun both => idle both.1
  | stuck changed unable lost => exact iff_of_true lost ⟨changed, unable⟩
  | saved changed able fine place serves => exact iff_of_false fine fun both => both.2 able

theorem Left.saves_iff {changes lost : Prop} {before after : FileStore}
    (left : Left changes lost before after) (fine : ¬ lost) : after.Saves ↔ before.Saves := by
  cases left with
  | untouched idle fine same => rw [same]
  | stuck changed unable lost => exact absurd lost fine
  | saved changed able fine place serves => exact iff_of_true serves.saves able

theorem Left.loads {changes lost : Prop} {before after : FileStore}
    (left : Left changes lost before after) (loads : ∃ entries, before.load = .ok entries)
    (fine : ¬ lost) : ∃ entries, after.load = .ok entries := by
  cases left with
  | untouched idle fine same => rwa [same]
  | stuck changed unable lost => exact absurd lost fine
  | saved changed able fine place serves => exact serves.loads

theorem left_of_came {α : Type} {accepted : Prop} {before : Session FileStore}
    {outcome : Except Session.Error α × Session FileStore} (came : Came accepted before outcome) :
    Left accepted (Lost ((outcome.1.map fun _ => ()).mapError .session)) before.store
      outcome.2.store := by
  cases came with
  | refused idle => exact .untouched idle nofun rfl
  | @stuck cause _ accepts unable => exact .stuck accepts unable ⟨cause, rfl⟩
  | saved accepts able place serves => exact .saved accepts able nofun place serves

theorem exchange_loaded {store : FileStore} {entries : Json.Members}
    (loaded : store.load = .ok entries) (client : Remote.Client) (call : Session.Call)
    (network : Network) : (exchange client call store network).2.1 = store := by
  cases call with
  | login credentials => rfl
  | profile => simp only [exchange, token_loaded loaded]
  | logout token => rfl

section Desks

variable {desk : Desk FileStore} {entries : Json.Members}

theorem call_came (loaded : desk.session.store.load = .ok entries) (settings : Settings)
    (call : Session.Call) : ∃ outcome network,
      Came (desk.Accepts settings call) desk.session outcome ∧
        desk.call settings call = (outcome.1.mapError .session, ⟨outcome.2, network⟩) := by
  refine ⟨finish settings.avatar
    (exchange (.make settings.baseUrl) call desk.session.store desk.network).1 desk.session,
    (exchange (.make settings.baseUrl) call desk.session.store desk.network).2.2,
    finish_came loaded settings.avatar _, ?_⟩
  rw [Desk.call]
  simp only [exchange_loaded loaded]

theorem login_left (loaded : desk.session.store.load = .ok entries) (settings : Settings)
    (username password code uuid : String) (profile : Bool) :
    Left (desk.Changes settings (.login username password code uuid profile))
      (Lost (execute settings (.login username password code uuid profile) desk).2.1)
      desk.session.store
      (execute settings (.login username password code uuid profile) desk).2.2.session.store := by
  obtain ⟨outcome, network, came, called⟩ :=
    call_came loaded settings (loginCall username password code uuid)
  unfold execute
  simp only [called]
  have left := left_of_came came
  cases came with
  | refused _ | stuck _ _ => exact left
  | @saved done after accepts able place serves =>
    cases profile with
    | false => exact left
    | true =>
      obtain ⟨others, reloaded⟩ := serves.loads
      have next : (⟨after, network⟩ : Desk FileStore).session.store.load = .ok others := reloaded
      obtain ⟨outcome, network, came, called⟩ := call_came next settings .profile
      simp only [Except.mapError, called, if_true]
      cases came with
      | refused idle => exact .saved accepts able nofun place serves
      | stuck _ unable => exact absurd serves.saves unable
      | saved _ _ again last => exact .saved accepts able nofun (again.trans place) last

theorem execute_left (loaded : desk.session.store.load = .ok entries) (settings : Settings)
    (command : Command) : Left (desk.Changes settings command)
      (Lost (execute settings command desk).2.1) desk.session.store
      (execute settings command desk).2.2.session.store := by
  cases command with
  | whoami | checkPermission _ _ | checkRole _ _ => exact .untouched id nofun rfl
  | navigate primitive url =>
    unfold execute
    dsimp only
    split
    · exact .untouched id nofun rfl
    · exact .untouched id nofun rfl
  | avatar url =>
    have left := left_of_came (commit_came trivial loaded (.avatar url))
    unfold execute
    simp only [Session.setAvatar]
    generalize commit (.avatar url) desk.session = outcome at left ⊢
    obtain ⟨_ | _, after⟩ := outcome <;> exact left
  | logout =>
    obtain ⟨outcome, network, came, called⟩ := call_came loaded settings desk.session.logoutCall
    unfold execute
    simp only [called]
    obtain ⟨_ | _, after⟩ := outcome <;> exact left_of_came came
  | profile =>
    obtain ⟨outcome, network, came, called⟩ := call_came loaded settings .profile
    unfold execute
    simp only [called]
    obtain ⟨_ | _, after⟩ := outcome <;> exact left_of_came came
  | login username password code uuid profile =>
    exact login_left loaded settings username password code uuid profile

end Desks

/-! Processes -/

/-- The words of each process are those of its command under the same settings. -/
inductive Planned (settings : Settings) :
    List (Environment × List String) → List Command → FileTree → Network → Prop where
  | done {tree : FileTree} {network : Network} : Planned settings [] [] tree network
  | process {env : Environment} {args : List String} {command : Command}
      {launches : List (Environment × List String)} {others : List Command} {tree : FileTree}
      {network : Network} (planned : plan env args tree = .ok (settings, command))
      (later : Planned settings launches others (run env args tree network).2.1
        (run env args tree network).2.2) :
      Planned settings ((env, args) :: launches) (command :: others) tree network

inductive Touches (settings : Settings) :
    List (Environment × List String) → List Command → FileTree → Network → Prop where
  | now {launch : Environment × List String} {command : Command}
      {launches : List (Environment × List String)} {others : List Command} {tree : FileTree}
      {network : Network} (changes : (deskOver settings tree network).Changes settings command) :
      Touches settings (launch :: launches) (command :: others) tree network
  | later {env : Environment} {args : List String} {command : Command}
      {launches : List (Environment × List String)} {others : List Command} {tree : FileTree}
      {network : Network} (later : Touches settings launches others (run env args tree network).2.1
        (run env args tree network).2.2) :
      Touches settings ((env, args) :: launches) (command :: others) tree network

def storeIn (settings : Settings) (tree : FileTree) : FileStore := ⟨.ofString settings.storagePath, tree⟩

section Launches

variable {settings : Settings} {env : Environment} {args : List String} {command : Command}
  {tree : FileTree} {entries : Json.Members}

theorem launch_left (loaded : (storeIn settings tree).load = .ok entries)
    (planned : plan env args tree = .ok (settings, command)) (network : Network) :
    Left ((deskOver settings tree network).Changes settings command)
      (Lost (execute settings command (deskOver settings tree network)).2.1)
      (storeIn settings tree) (storeIn settings (run env args tree network).2.1) := by
  have resumed : (deskOver settings tree network).session.store = storeIn settings tree :=
    congrArg Session.store (resume_loaded loaded)
  have left := execute_left (resumed ▸ loaded) settings command
  rw [resumed] at left
  rw [run_planned planned]
  cases left with
  | untouched idle fine same =>
    refine .untouched idle fine ?_
    rw [same]
    rfl
  | stuck changed unable lost => exact .stuck changed unable lost
  | saved changed able fine place serves =>
    have kept : storeIn settings (execute settings command
        (deskOver settings tree network)).2.2.session.store.tree =
          (execute settings command (deskOver settings tree network)).2.2.session.store := by
      rw [storeIn, ← show _ = Path.ofString settings.storagePath from place]
    exact .saved changed able fine (by rw [kept, place]) (kept ▸ serves)

end Launches

/-- No process ends with a file operation that failed exactly if documents can be saved at the start, or none
of the commands changes what is stored. -/
theorem undisturbed_launches_iff {settings : Settings} {launches : List (Environment × List String)}
    {others : List Command} {tree : FileTree} {network : Network}
    (loads : ∃ entries, (storeIn settings tree).load = .ok entries) :
    Undisturbed settings launches others tree network ↔
      Planned settings launches others tree network ∧
        (Touches settings launches others tree network → (storeIn settings tree).Saves) := by
  constructor
  · intro undisturbed
    induction undisturbed with
    | done => exact ⟨.done, nofun⟩
    | @process env args command launches others tree network planned fine later ih =>
      obtain ⟨entries, loaded⟩ := loads
      have left := launch_left loaded planned network
      obtain ⟨next, saves⟩ := ih (left.loads ⟨entries, loaded⟩ fine)
      refine ⟨.process planned next, fun touches => ?_⟩
      cases touches with
      | now changes => exact not_not.mp fun unable => fine (left.lost_iff.mpr ⟨changes, unable⟩)
      | later touches => exact (left.saves_iff fine).mp (saves touches)
  · rintro ⟨planned, saves⟩
    induction planned with
    | done => exact .done
    | @process env args command launches others tree network planned later ih =>
      obtain ⟨entries, loaded⟩ := loads
      have left := launch_left loaded planned network
      have fine : ¬ Lost (execute settings command (deskOver settings tree network)).2.1 :=
        fun lost => (left.lost_iff.mp lost).2 (saves (.now (left.lost_iff.mp lost).1))
      refine .process planned fine (ih (left.loads ⟨entries, loaded⟩ fine) fun touches => ?_)
      exact (left.saves_iff fine).mpr (saves (.later touches))

end CommandLine

end SessionGate
