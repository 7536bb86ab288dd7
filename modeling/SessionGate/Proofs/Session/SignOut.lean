import SessionGate.Proofs.Session.Lives
import SessionGate.Proofs.Session.Remembering

/- What a sign-out takes away does not come back. Whoever is signed in later, and whatever fails in the
   storage, each permission and each role was given by a profile that came after the last sign-out, also
   where a user without roles keeps the permissions of before. -/
namespace SessionGate

open Navigation Storage

namespace Session

open Remembering (Remembers)

/-- Each permission was given by one of the answers, and each role by one of them or by default. -/
structure Founded (answers : List Answer) (privileges : Privileges) : Prop where
  permissions : ∀ permission ∈ privileges.permissions, ∃ profile,
    .profile (.ok profile) ∈ answers ∧ profile.roles ≠ [] ∧ permission ∈ profile.permissions
  roles : ∀ role ∈ privileges.roles, role = defaultRole ∨
    ∃ profile, .profile (.ok profile) ∈ answers ∧ role ∈ profile.roles

section Founding

variable {answers : List Answer}

theorem none_founded : Founded answers .none := ⟨nofun, nofun⟩

theorem Finds.founded {held found : Privileges} (finds : Finds held found)
    (founded : Founded answers held) : Founded answers found := by
  constructor
  · rcases finds.permissions with same | none
    · rw [same]
      exact founded.permissions
    · rw [none]
      exact nofun
  · rcases finds.roles with same | none
    · rw [same]
      exact founded.roles
    · rw [none]
      exact nofun

/-- A profile without roles gives no permission; it leaves those that the record has already. -/
theorem allows_founded {profile : Remote.Profile} (member : .profile (.ok profile) ∈ answers)
    {record : Record} (founded : Founded answers record.privileges) :
    Allows (Founded answers) record profile := by
  constructor
  · intro privileges holds
    refine ⟨holds.permissions, fun role among => ?_⟩
    simp only [rolesFor] at among
    split at among
    · exact Or.inl (List.mem_singleton.mp among)
    · exact Or.inr ⟨profile, member, among⟩
  · intro privileges holds
    refine ⟨fun permission among => ?_, holds.roles⟩
    simp only [permissionsFor] at among
    split at among
    · exact founded.permissions permission among
    · rename_i given
      exact ⟨profile, member, given, among⟩

variable {β : Type} [Backend β] {settings : AvatarSettings}

theorem perform_founded {View : Session β → Privileges → Prop} (shows : Shows View)
    {operation : Operation}
    (known : ∀ answer, (Turn.performed operation).answer? = some answer → answer ∈ answers)
    {session : Session β} (record : Founded answers session.record.privileges)
    {held : Privileges} (seen : View session held) (founded : Founded answers held) :
    ∃ after, View (operation.perform settings session).2 after ∧ Founded answers after := by
  refine shows.perform_keeps ?_ (fun _ => none_founded) seen founded
  rintro profile rfl
  exact allows_founded (known _ rfl) record

theorem record_founded {operation : Operation}
    (known : ∀ answer, (Turn.performed operation).answer? = some answer → answer ∈ answers)
    {session : Session β} (record : Founded answers session.record.privileges) :
    Founded answers (operation.perform settings session).2.record.privileges := by
  have kept : ∃ after, (operation.perform settings session).2.record.privileges = after ∧
      Founded answers after := perform_founded record_shows known record rfl record
  obtain ⟨_, rfl, after⟩ := kept
  exact after

theorem turns_founded {turns : List Turn}
    (known : ∀ answer ∈ turns.filterMap Turn.answer?, answer ∈ answers)
    (unbroken : .resumed ∉ turns) {session : Session β}
    (founded : Founded answers session.record.privileges) :
    Founded answers (turns.foldl (Turn.take settings) session).record.privileges := by
  induction turns generalizing session with
  | nil => exact founded
  | cons turn rest ih =>
    cases turn with
    | resumed => exact absurd List.mem_cons_self unbroken
    | performed operation =>
      have now : ∀ answer, (Turn.performed operation).answer? = some answer → answer ∈ answers :=
        fun answer told => known answer (Turn.first_answer told rest)
      exact ih (fun answer among => known answer (Turn.later_answer among _))
        (fun later => unbroken (List.mem_cons_of_mem _ later)) (record_founded now founded)

theorem turns_founded_stored [Remembering β] {turns : List Turn}
    (known : ∀ answer ∈ turns.filterMap Turn.answer?, answer ∈ answers) {session : Session β}
    (founded : Founded answers session.record.privileges) {held : Privileges}
    (stored : Remembers session.store held) (foundedStored : Founded answers held) :
    Founded answers (turns.foldl (Turn.take settings) session).record.privileges := by
  induction turns generalizing session held with
  | nil => exact founded
  | cons turn rest ih =>
    have later : ∀ answer ∈ rest.filterMap Turn.answer?, answer ∈ answers :=
      fun answer among => known answer (Turn.later_answer among turn)
    cases turn with
    | resumed =>
      have found := (resume_finds stored).founded foundedStored
      exact ih later found (resume_asks stored).1 foundedStored
    | performed operation =>
      have now : ∀ answer, (Turn.performed operation).answer? = some answer → answer ∈ answers :=
        fun answer told => known answer (Turn.first_answer told rest)
      obtain ⟨after, next, foundedNext⟩ :=
        perform_founded remembered_shows now founded stored foundedStored
      exact ih later (record_founded now founded) next foundedNext

end Founding

end Session

namespace Shell

open Session (Founded Remembering)
open Session.Remembering (Remembers)

section Runs

variable {η β : Type} [Host η] [Backend β]

theorem Alive.signed_out {shell : Shell η β} (alive : Alive shell) {event : Event}
    {result : Except Session.Error (Option Remote.Profile)}
    (accepted : event.settled shell = some (.logout (.ok ()), result)) :
    (event.happen shell).inUse.record.privileges = .none ∧
      ∀ [Remembering β], result = .ok none →
        Remembers (event.happen shell).inUse.store .none := by
  obtain ⟨inUse, told⟩ := alive.settled accepted
  rw [inUse]
  refine ⟨rfl, ?_⟩
  intro _ removed
  refine Session.logout_clears ?_
  rw [removed] at told
  simp only [Session.finish] at told
  cases outcome : (Session.finishLogout (.ok ()) shell.inUse).1 with
  | error e => simp [outcome, Except.map] at told
  | ok done => rfl

/- This speaks of any accepted sign-out, hence of the last. Until the next restart it holds over a backend of
   whatever kind; beyond, over one that remembers privileges. -/
theorem no_privilege_outlives_a_logout (policy : Policy) (avatar : AvatarSettings) (store : β)
    (host : η) (earlier later : List Event) {event : Event}
    {result : Except Session.Error (Option Remote.Profile)}
    (accepted : event.settled (lived earlier (launch policy avatar store host)) =
      some (.logout (.ok ()), result)) :
    let signedOut := lived (earlier ++ [event]) (launch policy avatar store host)
    let now := lived later signedOut
    (.restarted ∉ later → Founded (answers later signedOut) now.record.privileges) ∧
      ∀ [Remembering β], result = .ok none →
        Founded (answers later signedOut) now.record.privileges := by
  have before := ((launch_alive policy avatar store host).lived earlier).1
  have signedOut : lived (earlier ++ [event]) (launch policy avatar store host) =
      event.happen (lived earlier (launch policy avatar store host)) := List.foldl_append ..
  obtain ⟨cleared, removed⟩ := before.signed_out accepted
  obtain ⟨_, _, since⟩ := (before.turned event).alive.lived later
  have now := congrArg (fun session => session.record.privileges) since
  simp only [signedOut, answers_of_turns]
  constructor
  · intro unbroken
    refine now ▸ Session.turns_founded (fun _ member => member) ?_ (cleared ▸ Session.none_founded)
    exact fun resumed => unbroken (turns_resumed resumed)
  · intro _ done
    exact now ▸ Session.turns_founded_stored (fun _ member => member)
      (cleared ▸ Session.none_founded) (removed done) Session.none_founded

end Runs

def privileged : Faulty WriteFaults Memory :=
  ⟨⟨[]⟩, ⟨[("App-Token", .text "t"), ("storage_data", .object [
    ("user_permissions", Json.texts ["*:*:*"]), ("user_roles", Json.texts ["admin"])])]⟩⟩

/- The profile was asked for before the sign-out; its user has no roles, and a restart follows. -/
theorem late_profile_brings_nothing_back :
    Event.settled (lived [.begun "late" .profile]
        (launch ⟨.default, defaultLoginPage⟩ ⟨"", ""⟩ privileged PageStack.empty))
      (.completed (.logout (.ok ()))) = some (.logout (.ok ()), .ok none) ∧
    Founded [.profile (.ok ⟨none, [], ["a:b:c"], []⟩)]
      (lived [.answered "late" (.profile (.ok ⟨none, [], ["a:b:c"], []⟩)), .restarted]
        (lived [.begun "late" .profile, .completed (.logout (.ok ()))]
          (launch ⟨.default, defaultLoginPage⟩ ⟨"", ""⟩ privileged PageStack.empty))).record.privileges :=
  have accepted : Event.settled (lived [.begun "late" .profile]
      (launch ⟨.default, defaultLoginPage⟩ ⟨"", ""⟩ privileged PageStack.empty))
      (.completed (.logout (.ok ()))) = some (.logout (.ok ()), .ok none) := rfl
  ⟨accepted, (no_privilege_outlives_a_logout _ _ _ _ [.begun "late" .profile]
    [.answered "late" (.profile (.ok ⟨none, [], ["a:b:c"], []⟩)), .restarted] accepted).2 rfl⟩

end Shell

end SessionGate
