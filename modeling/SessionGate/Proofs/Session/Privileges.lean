import SessionGate.Proofs.Session.Outcomes

/- Roles and permissions, wherever they are seen in a session: in its record or in what it has stored. They
   change by the fields of profiles and by sign-outs alone. A change that fails may be made all the same. -/
namespace SessionGate

open Storage

structure Privileges where
  roles : List String
  permissions : List String

namespace Privileges

def none : Privileges := ⟨[], []⟩

/-- A change that was wanted was made, or it failed and all is as before. -/
def Taken {ε : Type} (result : Except ε Unit) (before wanted after : Privileges) : Prop :=
  after = wanted ∨ (∃ e, result = .error e) ∧ after = before

end Privileges

def Record.privileges (record : Record) : Privileges := ⟨record.roles, record.permissions⟩

namespace Session

/-! What operations do to privileges -/

namespace Update

def grant (privileges : Privileges) : Update → Privileges
  | .roles items => { privileges with roles := items }
  | .permissions items => { privileges with permissions := items }
  | .userId _ | .userName _ | .avatar _ => privileges

theorem apply_privileges (update : Update) (record : Record) :
    (update.apply record).privileges = update.grant record.privileges := by
  cases update <;> rfl

end Update

def rolesFor (profile : Remote.Profile) : List String :=
  if profile.roles = [] then [defaultRole] else profile.roles

/-- Where a profile has no roles, the permissions held before it remain. -/
def permissionsFor (record : Record) (profile : Remote.Profile) : List String :=
  if profile.roles = [] then record.permissions else profile.permissions

theorem updatesOf_lists (settings : AvatarSettings) (record : Record) (profile : Remote.Profile) :
    ∃ id name avatar, updatesOf settings record profile =
      [.userId id, .userName name, .avatar avatar, .roles (rolesFor profile),
        .permissions (permissionsFor record profile)] := by
  unfold updatesOf rolesFor permissionsFor
  by_cases bare : profile.roles = []
  · simp only [bare, if_true]
    exact ⟨_, _, _, rfl⟩
  · simp only [bare, if_false]
    exact ⟨_, _, _, rfl⟩

variable {β : Type} [Backend β]

theorem commitAll_cons_done {update : Update} {rest : List Update} {session : Session β}
    (done : (commitAll (update :: rest) session).1 = .ok ()) :
    (commit update session).1 = .ok () ∧
      commitAll (update :: rest) session = commitAll rest (commit update session).2 := by
  simp only [commitAll] at done ⊢
  generalize commit update session = stored at done ⊢
  obtain ⟨result, next⟩ := stored
  cases result with
  | error e => cases done
  | ok taken => exact ⟨rfl, rfl⟩

/-- A sight of privileges in a session. They change as the operations say: with a field that is committed,
and with a sign-out, which clears them or leaves them. A field that is committed makes sure of the sight. -/
structure Shows (View : Session β → Privileges → Prop) : Prop where
  commit (update : Update) {session : Session β} {held : Privileges} (seen : View session held) :
    ∃ after, View (commit update session).2 after ∧
      Privileges.Taken (commit update session).1 held (update.grant held) after
  login (answer : Except Remote.Error Remote.Grant) {session : Session β} {held : Privileges}
    (seen : View session held) : View (finishLogin answer session).2 held
  logout {session : Session β} {held : Privileges} (seen : View session held) :
    View (finishLogout (.ok ()) session).2 held ∨ View (finishLogout (.ok ()) session).2 .none
  seen_of_commit {update : Update} {session : Session β}
    (done : (Session.commit update session).1 = .ok ()) :
    ∃ held, View (Session.commit update session).2 held

section Views

variable {View : Session β → Privileges → Prop}

theorem Shows.commitAll_done (shows : Shows View) {updates : List Update} {session : Session β}
    {held : Privileges} (seen : View session held) (done : (commitAll updates session).1 = .ok ()) :
    View (commitAll updates session).2 (updates.foldl Update.grant held) := by
  induction updates generalizing session held with
  | nil => exact seen
  | cons update rest ih =>
    obtain ⟨first, same⟩ := commitAll_cons_done done
    obtain ⟨after, next, taken⟩ := shows.commit update seen
    rw [same] at done ⊢
    rcases taken with rfl | ⟨⟨e, failed⟩, _⟩
    · exact ih next done
    · cases first.symm.trans failed

theorem Shows.commitAll_keeps (shows : Shows View) {Holds : Privileges → Prop}
    {updates : List Update}
    (each : ∀ update ∈ updates, ∀ privileges, Holds privileges → Holds (update.grant privileges))
    {session : Session β} {held : Privileges} (seen : View session held) (holds : Holds held) :
    ∃ after, View (commitAll updates session).2 after ∧ Holds after := by
  induction updates generalizing session held with
  | nil => exact ⟨held, seen, holds⟩
  | cons update rest ih =>
    obtain ⟨after, next, taken⟩ := shows.commit update seen
    have later : Holds after := by
      rcases taken with rfl | ⟨_, rfl⟩
      · exact each update List.mem_cons_self _ holds
      · exact holds
    simp only [commitAll]
    generalize Session.commit update session = stored at next ⊢
    obtain ⟨result, session⟩ := stored
    cases result with
    | error e => exact ⟨after, next, later⟩
    | ok taken => exact ih (fun other member => each other (List.mem_cons_of_mem _ member)) next later

structure Allows (Holds : Privileges → Prop) (record : Record) (profile : Remote.Profile) :
    Prop where
  roles {privileges : Privileges} (holds : Holds privileges) :
    Holds { privileges with roles := rolesFor profile }
  permissions {privileges : Privileges} (holds : Holds privileges) :
    Holds { privileges with permissions := permissionsFor record profile }

theorem Shows.profile_keeps (shows : Shows View) {Holds : Privileges → Prop}
    {session : Session β} {profile : Remote.Profile} (allows : Allows Holds session.record profile)
    (settings : AvatarSettings) {held : Privileges} (seen : View session held) (holds : Holds held) :
    ∃ after, View (finishProfile settings (.ok profile) session).2 after ∧ Holds after := by
  obtain ⟨id, name, avatar, lists⟩ := updatesOf_lists settings session.record profile
  simp only [finishProfile]
  rw [lists]
  refine shows.commitAll_keeps ?_ seen holds
  intro update member privileges held
  simp only [List.mem_cons, List.not_mem_nil, or_false] at member
  rcases member with rfl | rfl | rfl | rfl | rfl
  · exact held
  · exact held
  · exact held
  · exact allows.roles held
  · exact allows.permissions held

theorem Shows.profile_done (shows : Shows View) {settings : AvatarSettings}
    {session : Session β} {profile given : Remote.Profile}
    (done : (finishProfile settings (.ok profile) session).1 = .ok given) :
    View (finishProfile settings (.ok profile) session).2
      ⟨rolesFor profile, permissionsFor session.record profile⟩ := by
  obtain ⟨id, name, avatar, lists⟩ := updatesOf_lists settings session.record profile
  simp only [finishProfile] at done ⊢
  rw [lists] at done ⊢
  have whole : (commitAll [.userId id, .userName name, .avatar avatar, .roles (rolesFor profile),
      .permissions (permissionsFor session.record profile)] session).1 = .ok () := by
    generalize (commitAll _ session).1 = result at done ⊢
    cases result with
    | error e => cases done
    | ok taken => rfl
  obtain ⟨first, same⟩ := commitAll_cons_done whole
  obtain ⟨held, seen⟩ := shows.seen_of_commit first
  rw [same] at whole ⊢
  exact shows.commitAll_done seen whole

theorem Shows.perform_keeps (shows : Shows View) {Holds : Privileges → Prop}
    {settings : AvatarSettings} {operation : Operation} {session : Session β}
    (given : ∀ profile, operation = .answered (.profile (.ok profile)) →
      Allows Holds session.record profile)
    (cleared : operation = .answered (.logout (.ok ())) → Holds .none)
    {held : Privileges} (seen : View session held) (holds : Holds held) :
    ∃ after, View (operation.perform settings session).2 after ∧ Holds after := by
  match operation with
  | .avatarSet url =>
    obtain ⟨after, next, taken⟩ := shows.commit (.avatar url) seen
    have same : after = held := taken.elim id And.right
    exact ⟨after, next, same ▸ holds⟩
  | .answered (.login answer) => exact ⟨held, shows.login answer seen, holds⟩
  | .answered (.profile (.error e)) => exact ⟨held, seen, holds⟩
  | .answered (.profile (.ok profile)) =>
    exact shows.profile_keeps (given profile rfl) settings seen holds
  | .answered (.logout (.error e)) => exact ⟨held, seen, holds⟩
  | .answered (.logout (.ok ())) =>
    rcases shows.logout seen with same | none
    · exact ⟨held, same, holds⟩
    · exact ⟨.none, none, cleared rfl⟩

end Views

theorem record_shows : Shows fun (session : Session β) held => session.record.privileges = held where
  commit update session held seen := by
    subst seen
    refine ⟨_, rfl, ?_⟩
    rw [commit_taking]
    generalize (FieldStore.put update.field update.value).run session.store = stored
    obtain ⟨result, store⟩ := stored
    cases result with
    | error e => exact Or.inr ⟨⟨.storage e, rfl⟩, rfl⟩
    | ok taken => exact Or.inl (update.apply_privileges session.record)
  login answer session held seen := by
    subst seen
    cases answer with
    | error e => rfl
    | ok grant =>
      rw [finishLogin_taking]
      generalize (TokenStore.set grant.token).run session.store = stored
      obtain ⟨result, store⟩ := stored
      cases result <;> rfl
  logout _ := Or.inr rfl
  seen_of_commit _ := ⟨_, rfl⟩

end Session

end SessionGate
