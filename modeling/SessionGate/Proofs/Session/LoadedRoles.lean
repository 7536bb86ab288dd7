import SessionGate.Proofs.Session.Lives
import SessionGate.Proofs.Session.Remembering

/- A session whose profile was loaded has roles until it is signed out: in its record, in the store and
   in the record of every session that is resumed meanwhile. No write that fails takes them away. -/
namespace SessionGate

open Navigation Storage

def Privileges.HasRoles (privileges : Privileges) : Prop := privileges.roles ≠ []

namespace Session

theorem rolesFor_present (profile : Remote.Profile) : rolesFor profile ≠ [] := by
  unfold rolesFor
  split
  · exact List.cons_ne_nil _ _
  · assumption

theorem allows_roles (record : Record) (profile : Remote.Profile) :
    Allows Privileges.HasRoles record profile :=
  ⟨fun _ => rolesFor_present profile, fun holds => holds⟩

open Remembering (Remembers)

variable {β : Type} [Backend β] [Remembering β]

/-- The record has roles, and so has what the backend remembers. -/
structure Loaded (session : Session β) : Prop where
  record : session.record.privileges.HasRoles
  stored : ∃ held, Remembers session.store held ∧ held.HasRoles

section Steps

variable {settings : AvatarSettings} {session : Session β}

theorem Loaded.perform (loaded : Loaded session) {operation : Operation}
    (kept : (Turn.performed operation).answer? ≠ some (.logout (.ok ()))) :
    Loaded (operation.perform settings session).2 := by
  have keeps {View : Session β → Privileges → Prop} (shows : Shows View) {held : Privileges}
      (seen : View session held) (holds : held.HasRoles) :
      ∃ after, View (operation.perform settings session).2 after ∧ after.HasRoles := by
    refine shows.perform_keeps (fun profile _ => allows_roles session.record profile) ?_ seen holds
    rintro rfl
    exact absurd rfl kept
  obtain ⟨held, known, holds⟩ := loaded.stored
  obtain ⟨_, same, record⟩ := keeps record_shows rfl loaded.record
  exact ⟨same ▸ record, keeps remembered_shows known holds⟩

theorem Loaded.resume [Recalling β] (loaded : Loaded session) : Loaded (resume session.store) := by
  obtain ⟨held, known, holds⟩ := loaded.stored
  refine ⟨?_, held, (resume_asks known).1, holds⟩
  unfold Privileges.HasRoles Record.privileges
  rw [resume_recalls known]
  exact holds

theorem Loaded.turns [Recalling β] (loaded : Loaded session) {turns : List Turn}
    (kept : .logout (.ok ()) ∉ turns.filterMap Turn.answer?) :
    Loaded (turns.foldl (Turn.take settings) session) := by
  induction turns generalizing session with
  | nil => exact loaded
  | cons turn rest ih =>
    have later : .logout (.ok ()) ∉ rest.filterMap Turn.answer? :=
      fun among => kept (Turn.later_answer among turn)
    cases turn with
    | resumed => exact ih loaded.resume later
    | performed operation =>
      exact ih (loaded.perform fun told => kept (Turn.first_answer told rest)) later

theorem loaded_of_finish {answer : Answer} {profile : Remote.Profile}
    (done : (finish settings answer session).1 = .ok (some profile)) :
    Loaded (finish settings answer session).2 := by
  match answer with
  | .login answer =>
    simp only [finish] at done
    cases outcome : (finishLogin answer session).1 <;> simp [outcome, Except.map] at done
  | .logout answer =>
    simp only [finish] at done
    cases outcome : (finishLogout answer session).1 <;> simp [outcome, Except.map] at done
  | .profile (.error e) => cases done
  | .profile (.ok given) =>
    simp only [finish] at done
    cases outcome : (finishProfile settings (.ok given) session).1 with
    | error e => simp [outcome, Except.map] at done
    | ok returned =>
      have record := record_shows.profile_done outcome
      refine ⟨?_, _, remembered_shows.profile_done outcome, rolesFor_present given⟩
      exact record ▸ rolesFor_present given

end Steps

end Session

namespace Shell

open Session (Loaded Remembering Recalling)

/- Restarts may be among the later events as well, and logins, other profiles and avatars in any order.
   Of the backend it is asked that it can be read; its writes and its removals may fail. -/
theorem roles_last_while_a_profile_is_loaded {η β : Type} [Host η] [Backend β] [Remembering β]
    [Recalling β] (policy : Policy) (avatar : AvatarSettings) (store : β) (host : η)
    (earlier later : List Event) {event : Event} {answer : Session.Answer}
    {profile : Remote.Profile}
    (fetched : event.settled (lived earlier (launch policy avatar store host)) =
      some (answer, .ok (some profile)))
    (kept : .logout (.ok ()) ∉
      answers later (lived (earlier ++ [event]) (launch policy avatar store host))) :
    let now := lived later (lived (earlier ++ [event]) (launch policy avatar store host))
    now.record.roles ≠ [] ∧ ((FieldStore.getList .roles).run now.store).1 ≠ [] ∧
      now.renew.record.roles ≠ [] := by
  have before := ((launch_alive policy avatar store host).lived earlier).1
  have began : lived (earlier ++ [event]) (launch policy avatar store host) =
      event.happen (lived earlier (launch policy avatar store host)) := List.foldl_append ..
  rw [began, answers_of_turns] at kept
  obtain ⟨inUse, told⟩ := before.settled fetched
  obtain ⟨_, _, since⟩ := (before.turned event).alive.lived later
  have loaded : Loaded (lived later
      (event.happen (lived earlier (launch policy avatar store host)))).inUse := by
    rw [since]
    refine Loaded.turns ?_ kept
    rw [inUse]
    exact Session.loaded_of_finish told
  simp only [began]
  refine ⟨loaded.record, ?_, ?_⟩
  · obtain ⟨held, known, holds⟩ := loaded.stored
    have recalled := Session.roles_recalled known
    exact recalled ▸ holds
  · show (renew _).inUse.record.privileges.HasRoles
    rw [inUse_renew]
    exact loaded.resume.record

def nearlyFull : Faulty WriteFaults Memory :=
  ⟨⟨[none, none, none, none, none, some (.medium "full")]⟩, .empty⟩

/- The user has no roles. The next profile breaks off at its first write, then the avatar changes and the
   process is started anew. -/
theorem default_role_lasts :
    Event.settled (launch ⟨.default, defaultLoginPage⟩ ⟨"", ""⟩ nearlyFull PageStack.empty)
        (.completed (.profile (.ok ⟨none, [], [], []⟩))) =
      some (.profile (.ok ⟨none, [], [], []⟩), .ok (some ⟨none, [], [], []⟩)) ∧
    (lived [.completed (.profile (.ok ⟨none, ["editor"], [], []⟩)), .avatarSet "/a.png", .restarted]
      (lived [.completed (.profile (.ok ⟨none, [], [], []⟩))]
        (launch ⟨.default, defaultLoginPage⟩ ⟨"", ""⟩ nearlyFull PageStack.empty))).record.roles ≠ [] :=
  have fetched : Event.settled
      (launch ⟨.default, defaultLoginPage⟩ ⟨"", ""⟩ nearlyFull PageStack.empty)
      (.completed (.profile (.ok ⟨none, [], [], []⟩))) =
        some (.profile (.ok ⟨none, [], [], []⟩), .ok (some ⟨none, [], [], []⟩)) := rfl
  have kept : .logout (.ok ()) ∉ answers
      [.completed (.profile (.ok ⟨none, ["editor"], [], []⟩)), .avatarSet "/a.png", .restarted]
      (lived [.completed (.profile (.ok ⟨none, [], [], []⟩))]
        (launch ⟨.default, defaultLoginPage⟩ ⟨"", ""⟩ nearlyFull PageStack.empty)) := by
    simp [answers, Event.settled]
  ⟨fetched, (roles_last_while_a_profile_is_loaded _ _ _ _ [] _ fetched kept).1⟩

end Shell

end SessionGate
