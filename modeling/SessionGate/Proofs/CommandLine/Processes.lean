import SessionGate.CommandLine.Run
import SessionGate.Proofs.Session.Twins

/- Commands that run as processes of their own, one after another over the same file. Whoever looks on
   cannot tell them from the same commands on one session that is kept alive. -/
namespace SessionGate.CommandLine

open Storage Session
open Remote (Network)

/-! One command -/

structure DeskTwins (path : Path) (file : Desk FileStore) (kept : Desk Memory) : Prop where
  session : Twins path file.session kept.session
  network : file.network = kept.network

inductive CallAlike {α : Type} (path : Path) :
    Except Error α × Desk FileStore → Except Error α × Desk Memory → Prop where
  | lost {cause : PathError} {file : Desk FileStore} {kept : Except Error α × Desk Memory} :
      CallAlike path (.error (.session (.storage (.path cause))), file) kept
  | same {result : Except Error α} {file : Desk FileStore} {kept : Desk Memory}
      (twins : DeskTwins path file kept) : CallAlike path (result, file) (result, kept)

inductive CommandAlike (path : Path) :
    String × Except Error Unit × Desk FileStore → String × Except Error Unit × Desk Memory →
      Prop where
  | lost {printed : String} {cause : PathError} {file : Desk FileStore}
      {kept : String × Except Error Unit × Desk Memory} :
      CommandAlike path (printed, .error (.session (.storage (.path cause))), file) kept
  | same {printed : String} {result : Except Error Unit} {file : Desk FileStore} {kept : Desk Memory}
      (twins : DeskTwins path file kept) :
      CommandAlike path (printed, result, file) (printed, result, kept)

section Commands

variable {path : Path} {file : Desk FileStore} {kept : Desk Memory}

theorem call_alike (twins : DeskTwins path file kept) (settings : Settings) (call : Session.Call) :
    CallAlike path (file.call settings call) (kept.call settings call) := by
  simp only [Desk.call, twins.network, exchange_alike twins.session.mirrors, exchange_still]
  generalize exchange (.make settings.baseUrl) call kept.session.store kept.network = exchanged
  have finished := finish_alike twins.session settings.avatar exchanged.1
  generalize finish settings.avatar exchanged.1 file.session = outcome at finished ⊢
  generalize finish settings.avatar exchanged.1 kept.session = other at finished ⊢
  cases finished with
  | lost => exact .lost
  | same twins => exact .same ⟨twins, rfl⟩

theorem execute_alike (twins : DeskTwins path file kept) (settings : Settings) (command : Command) :
    CommandAlike path (execute settings command file) (execute settings command kept) := by
  have record := twins.session.record
  unfold execute
  cases command with
  | whoami =>
    simp only [record]
    exact .same twins
  | checkPermission permissions all =>
    simp only [record]
    exact .same twins
  | checkRole roles all =>
    simp only [record]
    exact .same twins
  | navigate primitive url =>
    simp only [record]
    cases Navigation.Primitive.ofName primitive with
    | error e => exact .same twins
    | ok primitive => exact .same twins
  | avatar url =>
    have stored := commit_alike twins.session (.avatar url)
    simp only [Session.setAvatar]
    generalize commit (.avatar url) file.session = outcome at stored ⊢
    generalize commit (.avatar url) kept.session = other at stored ⊢
    cases stored with
    | lost => exact .lost
    | @same result _ _ later =>
      cases result with
      | error e => exact .same ⟨later, twins.network⟩
      | ok done =>
        simp only [later.record]
        exact .same ⟨later, twins.network⟩
  | logout =>
    have called := call_alike twins settings kept.session.logoutCall
    simp only [Session.logoutCall, record] at called ⊢
    generalize file.call settings (.logout kept.session.record.token) = outcome at called ⊢
    generalize kept.call settings (.logout kept.session.record.token) = other at called ⊢
    cases called with
    | lost => exact .lost
    | @same result _ _ later => cases result <;> exact .same later
  | profile =>
    have called := call_alike twins settings .profile
    dsimp only
    generalize file.call settings .profile = outcome at called ⊢
    generalize kept.call settings .profile = other at called ⊢
    cases called with
    | lost => exact .lost
    | @same result _ _ later => cases result <;> exact .same later
  | login username password code uuid profile =>
    have called := call_alike twins settings (Session.loginCall username password code uuid)
    dsimp only
    generalize file.call settings (Session.loginCall username password code uuid) = outcome
      at called ⊢
    generalize kept.call settings (Session.loginCall username password code uuid) = other
      at called ⊢
    cases called with
    | lost => exact .lost
    | @same result file kept later =>
      cases result with
      | error e => exact .same later
      | ok done =>
        cases profile with
        | false => exact .same later
        | true =>
          have asked := call_alike later settings .profile
          simp only [if_true]
          generalize file.call settings .profile = outcome at asked ⊢
          generalize kept.call settings .profile = other at asked ⊢
          cases asked with
          | lost => exact .lost
          | @same result _ _ last => cases result <;> exact .same last

end Commands

/-! One session kept -/

theorem call_keeps_step (settings : Settings) (call : Session.Call) {desk : Desk Memory}
    (inStep : InStep desk.session) : InStep (desk.call settings call).2.session := by
  simp only [Desk.call, exchange_still]
  exact perform_keeps_step settings.avatar (.answered _) inStep

theorem execute_keeps_step (settings : Settings) (command : Command) {desk : Desk Memory}
    (inStep : InStep desk.session) : InStep (execute settings command desk).2.2.session := by
  unfold execute
  cases command with
  | whoami => exact inStep
  | checkPermission permissions all => exact inStep
  | checkRole roles all => exact inStep
  | navigate primitive url =>
    dsimp only
    split <;> exact inStep
  | avatar url =>
    have stored := commit_keeps_step (.avatar url) inStep
    simp only [Session.setAvatar]
    generalize commit (.avatar url) desk.session = outcome at stored ⊢
    obtain ⟨result, session⟩ := outcome
    cases result <;> exact stored
  | logout =>
    have called := call_keeps_step settings desk.session.logoutCall inStep
    dsimp only
    generalize desk.call settings desk.session.logoutCall = outcome at called ⊢
    obtain ⟨result, later⟩ := outcome
    cases result <;> exact called
  | profile =>
    have called := call_keeps_step settings .profile inStep
    dsimp only
    generalize desk.call settings .profile = outcome at called ⊢
    obtain ⟨result, later⟩ := outcome
    cases result <;> exact called
  | login username password code uuid profile =>
    have called := call_keeps_step settings (Session.loginCall username password code uuid) inStep
    dsimp only
    generalize desk.call settings (Session.loginCall username password code uuid) = outcome
      at called ⊢
    obtain ⟨result, later⟩ := outcome
    cases result with
    | error e => exact called
    | ok done =>
      cases profile with
      | false => exact called
      | true =>
        have asked := call_keeps_step settings .profile called
        simp only [if_true]
        generalize later.call settings .profile = outcome at asked ⊢
        obtain ⟨result, last⟩ := outcome
        cases result <;> exact asked

/-! Processes -/

/-- What can be seen of a command: what it printed and how it ended, the network with the requests that
it has carried, and what a session reads from the storage afterwards. -/
structure Seen where
  outcome : Outcome
  network : Network
  record : Record

def processes (path : Path) : List (Environment × List String) → FileTree → Network → List Seen
  | [], _, _ => []
  | (env, args) :: rest, tree, network =>
    let (outcome, tree, network) := run env args tree network
    ⟨outcome, network, (resume (⟨path, tree⟩ : FileStore)).record⟩ ::
      processes path rest tree network

def commands (settings : Settings) : List Command → Desk Memory → List Seen
  | [], _ => []
  | command :: rest, desk =>
    let (printed, result, desk) := execute settings command desk
    ⟨outcomeOf printed result, desk.network, desk.session.record⟩ :: commands settings rest desk

def deskOver (settings : Settings) (tree : FileTree) (network : Network) : Desk FileStore :=
  ⟨resume ⟨.ofString settings.storagePath, tree⟩, network⟩

/-- A file operation has failed, and the command says so. -/
def Lost (result : Except Error Unit) : Prop :=
  ∃ cause, result = .error (.session (.storage (.path cause)))

/-- The words of each process are those of its command under the same settings, and none ends with a
file operation that failed. -/
inductive Undisturbed (settings : Settings) :
    List (Environment × List String) → List Command → FileTree → Network → Prop where
  | done {tree : FileTree} {network : Network} : Undisturbed settings [] [] tree network
  | process {env : Environment} {args : List String} {command : Command}
      {launches : List (Environment × List String)} {others : List Command} {tree : FileTree}
      {network : Network} (planned : plan env args tree = .ok (settings, command))
      (fine : ¬ Lost (execute settings command (deskOver settings tree network)).2.1)
      (later : Undisturbed settings launches others (run env args tree network).2.1
        (run env args tree network).2.2) :
      Undisturbed settings ((env, args) :: launches) (command :: others) tree network

theorem run_planned {env : Environment} {args : List String} {tree : FileTree} {settings : Settings}
    {command : Command} (planned : plan env args tree = .ok (settings, command))
    (network : Network) : run env args tree network =
      (outcomeOf (execute settings command (deskOver settings tree network)).1
          (execute settings command (deskOver settings tree network)).2.1,
        (execute settings command (deskOver settings tree network)).2.2.session.store.tree,
        (execute settings command (deskOver settings tree network)).2.2.network) := by
  simp only [run, planned]
  rfl

theorem desk_twins {settings : Settings} {tree : FileTree} {kept : Desk Memory}
    (mirrors : Mirrors (.ofString settings.storagePath) ⟨.ofString settings.storagePath, tree⟩
      kept.session.store) (inStep : InStep kept.session) :
    DeskTwins (.ofString settings.storagePath) (deskOver settings tree kept.network) kept := by
  unfold deskOver
  rw [resume_alike mirrors]
  exact ⟨⟨restart_finds inStep, mirrors⟩, rfl⟩

theorem processes_alike {settings : Settings} {launches : List (Environment × List String)}
    {others : List Command} {tree : FileTree} {network : Network}
    (undisturbed : Undisturbed settings launches others tree network) {kept : Desk Memory}
    (mirrors : Mirrors (.ofString settings.storagePath) ⟨.ofString settings.storagePath, tree⟩
      kept.session.store) (inStep : InStep kept.session) (same : kept.network = network) :
    processes (.ofString settings.storagePath) launches tree network =
      commands settings others kept := by
  induction undisturbed generalizing kept with
  | done => rfl
  | @process env args command launches others tree network planned fine later ih =>
    subst same
    have alike := execute_alike (desk_twins mirrors inStep) settings command
    have kept' := execute_keeps_step settings command inStep
    rw [run_planned planned] at ih
    simp only [processes, commands, run_planned planned]
    generalize execute settings command (deskOver settings tree kept.network) = outcome
      at alike fine ih ⊢
    generalize execute settings command kept = other at alike kept' ⊢
    cases alike with
    | lost => exact absurd ⟨_, rfl⟩ fine
    | @same printed result file next twins =>
      have place := twins.session.mirrors.place
      have store : file.session.store =
          ⟨.ofString settings.storagePath, file.session.store.tree⟩ := by
        rw [← place]
      have mirrors' := twins.session.mirrors
      rw [store] at mirrors'
      have record : (resume (⟨.ofString settings.storagePath, file.session.store.tree⟩ :
          FileStore)).record = next.session.record := by
        rw [resume_alike mirrors']
        exact restart_finds kept'
      rw [ih mirrors' kept' twins.network.symm, record, twins.network]

/- The file is missing at first, or blank, or an object without members. -/
theorem processes_refine_one_session {settings : Settings}
    {launches : List (Environment × List String)} {others : List Command} {tree : FileTree}
    {network : Network} (starts : Starts ⟨.ofString settings.storagePath, tree⟩ [])
    (undisturbed : Undisturbed settings launches others tree network) :
    processes (.ofString settings.storagePath) launches tree network =
      commands settings others ⟨resume Memory.empty, network⟩ := by
  have holds : Keeping.Holds Memory.empty (fun _ => none) := rfl
  exact processes_alike undisturbed starts.mirrors (resume_in_step holds) rfl

theorem ofString_env : Path.ofString ".env" = ⟨[".env"]⟩ := by
  unfold Path.ofString String.splitOn
  rw [if_neg (by decide)]
  iterate 4 rw [String.splitOnAux.eq_1, if_neg (by decide), if_neg (by decide)]
  rw [String.splitOnAux.eq_1, if_pos (by decide)]
  rfl

theorem ofString_s : Path.ofString "s" = ⟨["s"]⟩ := by
  unfold Path.ofString String.splitOn
  rw [if_neg (by decide), String.splitOnAux.eq_1, if_neg (by decide), if_neg (by decide),
    String.splitOnAux.eq_1, if_pos (by decide)]
  rfl

def settingsInS : Settings := { Settings.default with storagePath := "s" }

def avatarLaunches : List (Environment × List String) := [
  ([], ["--storage-path", "s", "avatar", "/é.png"]),
  ([("SESSION_STORAGE_PATH", Text.encode "s")], ["whoami"])]

theorem deskOver_in_s (tree : FileTree) (network : Network) :
    deskOver settingsInS tree network = ⟨resume ⟨⟨["s"]⟩, tree⟩, network⟩ := by
  unfold deskOver
  rw [show settingsInS.storagePath = "s" from rfl, ofString_s]

theorem avatarLaunches_undisturbed :
    Undisturbed settingsInS avatarLaunches [.avatar "/é.png", .whoami] .empty .unreachable := by
  have first : plan [] ["--storage-path", "s", "avatar", "/é.png"] .empty =
      .ok (settingsInS, .avatar "/é.png") := by
    unfold plan fullEnvironment
    rw [ofString_env]
    decide +kernel
  refine .process first ?_ ?_
  · rw [deskOver_in_s]
    have done : (execute settingsInS (.avatar "/é.png")
        ⟨resume (⟨⟨["s"]⟩, .empty⟩ : FileStore), .unreachable⟩).2.1 = .ok () := by
      decide +kernel
    rw [done]
    nofun
  · rw [run_planned first, deskOver_in_s]
    refine .process ?_ nofun .done
    unfold plan fullEnvironment
    rw [ofString_env]
    decide +kernel

theorem avatar_is_there_in_the_next_process :
    (processes (.ofString settingsInS.storagePath) avatarLaunches .empty .unreachable).map
      (fun seen => (seen.outcome.exit, seen.record.avatarUrl)) = [(0, "/é.png"), (0, "/é.png")] := by
  rw [processes_refine_one_session (.missing ?_) avatarLaunches_undisturbed]
  · decide +kernel
  · rw [show settingsInS.storagePath = "s" from rfl, ofString_s]
    rfl

end SessionGate.CommandLine
