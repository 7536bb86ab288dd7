import SessionGate.Proofs.Session.Privileges
import SessionGate.Proofs.Session.Twins

/- Backends that remember privileges over restarts, whatever fails. A store in memory is one, and whatever is
   one still is behind a plan of faults. -/
namespace SessionGate.Session

open Json (Value Members)
open Storage Privileges

def privilegesIn (stored : Option Value) : Privileges where
  roles := FieldStore.listOf (FieldStore.valueIn (FieldStore.fieldsOf stored) Field.roles.key)
  permissions :=
    FieldStore.listOf (FieldStore.valueIn (FieldStore.fieldsOf stored) Field.permissions.key)

theorem privilegesIn_update (update : Update) (stored : Option Value) :
    privilegesIn (some (.object (Members.insert (FieldStore.fieldsOf stored) update.field.key
      update.value))) = update.grant (privilegesIn stored) := by
  have known := congrArg Record.privileges (recordIn_withField update fun _ => stored)
  rw [update.apply_privileges] at known
  exact known

/-- A backend that remembers privileges. From the first field that is stored, or token that is removed, it is
known what they are, and they change only by the calls of a session. Those that fail may have been carried out. -/
class Remembering (β : Type) [Backend β] where
  Remembers : β → Privileges → Prop
  read_keeps (key : String) {store : β} {held : Privileges} (known : Remembers store held) :
    Remembers (Backend.read key store).2 held
  read_answers {store : β} {held : Privileges} (known : Remembers store held) {stored : Option Value}
    (answered : (Backend.read fieldsKey store).1 = .ok stored) : privilegesIn stored = held
  put_settles (update : Update) {store : β} {held : Privileges} (known : Remembers store held) :
    ∃ after, Remembers (update.put.run store).2 after ∧
      Taken (update.put.run store).1 held (update.grant held) after
  clear_settles {store : β} {held : Privileges} (known : Remembers store held) :
    ∃ after, Remembers (Backend.delete fieldsKey store).2 after ∧
      Taken (Backend.delete fieldsKey store).1 held .none after
  token_set_keeps (token : String) {store : β} {held : Privileges} (known : Remembers store held) :
    Remembers (Backend.write TokenStore.key (.text token) store).2 held
  token_remove_keeps {store : β} {held : Privileges} (known : Remembers store held) :
    Remembers (Backend.delete TokenStore.key store).2 held
  known_of_put {update : Update} {store : β} (done : (update.put.run store).1 = .ok ()) :
    ∃ held, Remembers (update.put.run store).2 held
  known_of_removal {store : β} (done : (Backend.delete TokenStore.key store).1 = .ok ()) :
    ∃ held, Remembers (Backend.delete TokenStore.key store).2 held

open Remembering (Remembers)

class Recalling (β : Type) [Backend β] [Remembering β] : Prop where
  read_succeeds {store : β} {held : Privileges} (known : Remembers store held) :
    ∃ stored, (Backend.read fieldsKey store).1 = .ok stored

section Memory

theorem put_grants (update : Update) (memory : Memory) :
    privilegesIn (Members.get? (update.put.run memory).2.entries fieldsKey) =
      update.grant (privilegesIn (Members.get? memory.entries fieldsKey)) := by
  have holds : Reliable.Holds memory (Members.get? memory.entries) := rfl
  have later := (put_done holds update.field (update_settable update)).2
  rw [← privilegesIn_update]
  exact congrArg privilegesIn ((congrFun later fieldsKey).trans (Function.update_self ..))

theorem delete_clears (memory : Memory) :
    privilegesIn (Members.get? (Backend.delete fieldsKey memory).2.entries fieldsKey) = .none :=
  congrArg privilegesIn (Members.get_erase_same memory.entries fieldsKey)

instance : Remembering Memory where
  Remembers memory held := privilegesIn (Members.get? memory.entries fieldsKey) = held
  read_keeps _ _ _ known := known
  read_answers known _ answered := by rw [← Except.ok.inj answered, known]
  put_settles update memory _ known := ⟨_, rfl, Or.inl (known ▸ put_grants update memory)⟩
  clear_settles {memory} _ _ := ⟨_, rfl, Or.inl (delete_clears memory)⟩
  token_set_keeps token _ _ known := by
    rw [← known]
    exact congrArg privilegesIn (Members.get_insert_other _ (Ne.symm token_key_outside))
  token_remove_keeps known := by
    rw [← known]
    exact congrArg privilegesIn (Members.get_erase_other _ (Ne.symm token_key_outside))
  known_of_put _ := ⟨_, rfl⟩
  known_of_removal _ := ⟨_, rfl⟩

instance : Recalling Memory where
  read_succeeds _ := ⟨_, rfl⟩

end Memory

section Faulty

variable {φ β : Type} [FaultPlan φ] [Backend β]

instance [Remembering β] : Remembering (Faulty φ β) where
  Remembers faulty held := Remembers faulty.store held
  read_keeps key faulty held known :=
    attempt_keeps (fun _ store => Remembers store held) (Remembering.read_keeps key known)
      fun _ => known
  read_answers {faulty held} known stored :=
    attempt_keeps (fun answer _ => answer = .ok stored → privilegesIn stored = held)
      (Remembering.read_answers known) fun _ => nofun
  put_settles update faulty held known := by
    rcases put_outcome update faulty with ⟨result, store⟩ | ⟨failed, same | read⟩
    · rw [result, store]
      exact Remembering.put_settles update known
    · rw [same]
      exact ⟨held, known, Or.inr ⟨failed, rfl⟩⟩
    · rw [read]
      exact ⟨held, Remembering.read_keeps fieldsKey known, Or.inr ⟨failed, rfl⟩⟩
  clear_settles {faulty held} known :=
    attempt_keeps (fun result store => ∃ after, Remembers store after ∧ Taken result held .none after)
      (Remembering.clear_settles known) fun e => ⟨held, known, Or.inr ⟨⟨e, rfl⟩, rfl⟩⟩
  token_set_keeps token faulty held known :=
    attempt_keeps (fun _ store => Remembers store held) (Remembering.token_set_keeps token known)
      fun _ => known
  token_remove_keeps {faulty held} known :=
    attempt_keeps (fun _ store => Remembers store held) (Remembering.token_remove_keeps known)
      fun _ => known
  known_of_put {update faulty} done := by
    rcases put_outcome update faulty with ⟨result, store⟩ | ⟨⟨e, failed⟩, _⟩
    · rw [store]
      exact Remembering.known_of_put (result.symm.trans done)
    · cases done.symm.trans failed
  known_of_removal {faulty} :=
    attempt_keeps (fun result store => result = .ok () → ∃ held, Remembers store held)
      Remembering.known_of_removal fun _ => nofun

instance [WritesOnly φ] [Remembering β] [Recalling β] : Recalling (Faulty φ β) where
  read_succeeds {faulty held} known := by
    have passed : ∃ stored, (Backend.read fieldsKey faulty.store).1 = .ok stored :=
      Recalling.read_succeeds known
    obtain ⟨stored, answered⟩ := passed
    exact ⟨stored, (attempt_passes (by decide) fieldsKey _ faulty).1.trans answered⟩

end Faulty

/-! What a session sees of it -/

section Asking

variable {β : Type} [Backend β]

theorem removals_done {session : Session β} (done : (finishLogout (.ok ()) session).1 = .ok ()) :
    (Backend.delete TokenStore.key session.store).1 = .ok () ∧
      (Backend.delete fieldsKey (Backend.delete TokenStore.key session.store).2).1 = .ok () := by
  have told : ((Backend.delete TokenStore.key session.store).1.bind fun _ =>
      (Backend.delete fieldsKey (Backend.delete TokenStore.key session.store).2).1).mapError
        Session.Error.storage = .ok () := done
  generalize (Backend.delete fieldsKey (Backend.delete TokenStore.key session.store).2).1 = fields at *
  generalize (Backend.delete TokenStore.key session.store).1 = token at *
  cases token with
  | error e => cases told
  | ok removed =>
    cases fields with
    | error e => cases told
    | ok cleared => exact ⟨rfl, rfl⟩

theorem list_told (field : Field) {store : β} {stored : Option Value}
    (answered : (Backend.read fieldsKey store).1 = .ok stored) :
    ((FieldStore.getList field).run store).1 =
      FieldStore.listOf (FieldStore.valueIn (FieldStore.fieldsOf stored) field.key) := by
  rw [FieldStore.getList, run_map]
  simp only [FieldStore.get, Calls.run, answered]

theorem list_found (field : Field) (store : β) :
    (∃ stored, (Backend.read fieldsKey store).1 = .ok stored ∧
      ((FieldStore.getList field).run store).1 =
        FieldStore.listOf (FieldStore.valueIn (FieldStore.fieldsOf stored) field.key)) ∨
      ((FieldStore.getList field).run store).1 = [] := by
  cases answered : (Backend.read fieldsKey store).1 with
  | ok stored => exact Or.inl ⟨stored, rfl, list_told field answered⟩
  | error e =>
    rw [FieldStore.getList, run_map]
    simp only [FieldStore.get, Calls.run, answered]
    exact Or.inr rfl

end Asking

section Seeing

variable {β : Type} [Backend β] [Remembering β]

theorem remembered_shows : Shows fun (session : Session β) held => Remembers session.store held where
  commit update session held known := by
    obtain ⟨after, later, taken⟩ := Remembering.put_settles update known
    simp only [Update.put] at later taken
    rw [commit_taking]
    generalize (FieldStore.put update.field update.value).run session.store = stored at later taken ⊢
    obtain ⟨result, store⟩ := stored
    refine ⟨after, ?_⟩
    cases result with
    | error e => exact ⟨later, taken.imp_right fun failed => ⟨⟨_, rfl⟩, failed.2⟩⟩
    | ok done =>
      refine ⟨later, taken.imp_right fun failed => ?_⟩
      obtain ⟨⟨e, failed⟩, _⟩ := failed
      cases failed
  login answer session held known := by
    cases answer with
    | error e => exact known
    | ok grant =>
      have kept : Remembers ((TokenStore.set grant.token).run session.store).2 held :=
        Remembering.token_set_keeps grant.token known
      rw [finishLogin_taking]
      generalize (TokenStore.set grant.token).run session.store = stored at kept ⊢
      obtain ⟨result, store⟩ := stored
      cases result <;> exact kept
  logout {session held} known := by
    obtain ⟨after, later, taken⟩ :=
      Remembering.clear_settles (Remembering.token_remove_keeps known)
    rcases taken with rfl | ⟨_, rfl⟩
    · exact Or.inr later
    · exact Or.inl later
  seen_of_commit {update session} done := by
    have known : (update.put.run session.store).1 = .ok () →
        ∃ held, Remembers (update.put.run session.store).2 held := Remembering.known_of_put
    simp only [Update.put] at known
    rw [commit_taking] at done ⊢
    generalize (FieldStore.put update.field update.value).run session.store = stored at known done ⊢
    obtain ⟨result, store⟩ := stored
    cases result with
    | error e => cases done
    | ok taken => exact known rfl

theorem logout_clears {session : Session β}
    (done : (finishLogout (.ok ()) session).1 = .ok ()) :
    Remembers (finishLogout (.ok ()) session).2.store .none := by
  obtain ⟨token, fields⟩ := removals_done done
  obtain ⟨held, known⟩ := Remembering.known_of_removal token
  obtain ⟨after, later, taken⟩ := Remembering.clear_settles known
  rcases taken with rfl | ⟨⟨e, failed⟩, _⟩
  · exact later
  · cases fields.symm.trans failed

variable {store : β} {held : Privileges}

theorem asks_keep {α : Type} {calls : Calls α} (asks : Asks calls) (known : Remembers store held) :
    Remembers (calls.run store).2 held := by
  induction calls generalizing store with
  | done a => exact known
  | read key next ih => exact ih _ (asks _) (Remembering.read_keeps key known)
  | write => exact asks.elim
  | delete => exact asks.elim

theorem resume_asks (known : Remembers store held) : Remembers (resume store).store held ∧
    ∃ first second : β, Remembers first held ∧ Remembers second held ∧
      (resume store).record.privileges = ⟨((FieldStore.getList .roles).run first).1,
        ((FieldStore.getList .permissions).run second).1⟩ := by
  have first := asks_keep (text_asks .avatar) (asks_keep (text_asks .userName)
    (asks_keep (text_asks .userId) (asks_keep token_asks known)))
  have second := asks_keep (list_asks .roles) first
  have last := asks_keep (list_asks .permissions) second
  exact ⟨last, _, _, first, second, rfl⟩

/-- Of each list a restart finds what is remembered, or nothing where the backend cannot be read. -/
structure Finds (held found : Privileges) : Prop where
  roles : found.roles = held.roles ∨ found.roles = []
  permissions : found.permissions = held.permissions ∨ found.permissions = []

theorem resume_finds (known : Remembers store held) :
    Finds held (resume store).record.privileges := by
  obtain ⟨_, first, second, roles, permissions, found⟩ := resume_asks known
  rw [found]
  constructor
  · refine (list_found .roles first).imp_left ?_
    rintro ⟨stored, answered, listed⟩
    rw [← Remembering.read_answers roles answered]
    exact listed
  · refine (list_found .permissions second).imp_left ?_
    rintro ⟨stored, answered, listed⟩
    rw [← Remembering.read_answers permissions answered]
    exact listed

variable [Recalling β]

theorem roles_recalled (known : Remembers store held) :
    ((FieldStore.getList .roles).run store).1 = held.roles := by
  obtain ⟨stored, answered⟩ := Recalling.read_succeeds known
  rw [list_told .roles answered, ← Remembering.read_answers known answered]
  rfl

theorem resume_recalls (known : Remembers store held) :
    (resume store).record.roles = held.roles := by
  obtain ⟨_, first, _, roles, _, found⟩ := resume_asks known
  rw [← roles_recalled roles]
  exact congrArg Privileges.roles found

end Seeing

end SessionGate.Session
