import SessionGate.Proofs.Session.Outcomes
import SessionGate.Proofs.Storage.OneKey

/- Memory and storage of a session do not drift apart over a store in order: whatever is done to it, and
   whichever writes fail, the record that a restart would find is the one in memory. A document with doubles is
   not in order, and there it may be another. -/
namespace SessionGate.Session

open Storage
open Json (Members)

/-- The record that holdings stand for. -/
def recordIn (holdings : Holdings) : Record where
  token := tokenIn (holdings TokenStore.key)
  userId := FieldStore.textOf (fieldIn holdings .userId)
  userName := FieldStore.textOf (fieldIn holdings .userName)
  avatarUrl := FieldStore.textOf (fieldIn holdings .avatar)
  roles := FieldStore.listOf (fieldIn holdings .roles)
  permissions := FieldStore.listOf (fieldIn holdings .permissions)

theorem update_value_present (update : Update) : update.value ≠ .null := by
  cases update <;> simp [Update.value, Json.texts]

theorem recordIn_withField (update : Update) (holdings : Holdings) :
    recordIn (withField update.field update.value holdings) =
      update.apply (recordIn holdings) := by
  have token := withField_outside token_key_outside update.field update.value holdings
  have same := fieldIn_withField_same update.field (update_value_present update) holdings
  have other := fun (field : Field) (different : field ≠ update.field) =>
    fieldIn_withField_other different update.value holdings
  unfold recordIn
  cases update <;>
    simp_all [Update.field, Update.value, Update.apply, listOf_texts, FieldStore.textOf]

theorem recordIn_token (token : String) (holdings : Holdings) :
    recordIn (Function.update holdings TokenStore.key (some (.text token))) =
      { recordIn holdings with token := token } := by
  have fields := Function.update_of_ne (Ne.symm token_key_outside) (some (Json.Value.text token))
    holdings
  simp only [recordIn, fieldIn, Function.update_self, tokenIn, fields]

theorem recordIn_cleared (holdings : Holdings) :
    recordIn (Function.update (Function.update holdings TokenStore.key none) fieldsKey none) =
      .signedOut := by
  simp [recordIn, fieldIn, tokenIn, Function.update_of_ne token_key_outside, FieldStore.fieldsOf,
    FieldStore.valueIn, Json.Members.get?, FieldStore.textOf, FieldStore.listOf, Record.signedOut]

/-! Backends that keep what a session stores -/

/-- What a session stores is kept, or the write fails and changes nothing. -/
class Keeping (β : Type) [Backend β] where
  Holds : β → Holdings → Prop
  reads (key : String) {store : β} {held : Holdings} (holds : Holds store held) :
    (Backend.read key store).1 = .ok (held key) ∧ Holds (Backend.read key store).2 held
  puts (update : Update) {store : β} {held : Holdings} (holds : Holds store held) :
    ∃ after, Holds (update.put.run store).2 after ∧
      Settled (update.put.run store).1 held (withField update.field update.value held) after
  grants (token : String) {store : β} {held : Holdings} (holds : Holds store held) :
    ∃ after, Holds ((TokenStore.set token).run store).2 after ∧
      Settled ((TokenStore.set token).run store).1 held
        (Function.update held TokenStore.key (some (.text token))) after
  deletes (key : String) {store : β} {held : Holdings} (holds : Holds store held) :
    Holds (Backend.delete key store).2 (Function.update held key none)

section Reliable

variable {β : Type} [Backend β] [Reliable β]

theorem update_settable (update : Update) : Reliable.Settable β update.value := by
  cases update with
  | userId s | userName s | avatar s => exact Reliable.text_settable s
  | roles items | permissions items => exact Reliable.texts_settable items

instance : Keeping β where
  Holds := Reliable.Holds
  reads key _ _ holds := Reliable.reads key holds
  puts update _ _ holds := by
    obtain ⟨done, later⟩ := put_done holds update.field (update_settable update)
    exact ⟨_, later, Or.inl ⟨done, rfl⟩⟩
  grants token _ _ holds := by
    obtain ⟨done, later⟩ := token_set_done holds token
    exact ⟨_, later, Or.inl ⟨done, rfl⟩⟩
  deletes key _ _ holds := (Reliable.deletes key holds).2

instance {φ : Type} [FaultPlan φ] [WritesOnly φ] : Keeping (Faulty φ β) where
  Holds faulty held := Reliable.Holds faulty.store held
  reads key faulty held holds := by
    have other : Storage.Operation.read ≠ .write := by decide
    obtain ⟨answer, store⟩ := attempt_passes other key (Backend.read key) faulty
    obtain ⟨told, after⟩ := Reliable.reads key holds
    exact ⟨answer.trans told, store ▸ after⟩
  puts update faulty held holds := by
    obtain ⟨done, later⟩ := put_done holds update.field (update_settable update)
    rcases put_outcome update faulty with ⟨result, store⟩ | ⟨failed, same | read⟩
    · exact ⟨_, store ▸ later, Or.inl ⟨result.trans done, rfl⟩⟩
    · obtain ⟨e, failed⟩ := failed
      exact ⟨held, same ▸ holds, Or.inr ⟨e, failed, rfl⟩⟩
    · obtain ⟨e, failed⟩ := failed
      exact ⟨held, read ▸ (Reliable.reads fieldsKey holds).2, Or.inr ⟨e, failed, rfl⟩⟩
  grants token faulty held holds := by
    obtain ⟨done, later⟩ := token_set_done holds token
    exact attempt_keeps (fun result store => ∃ after, Reliable.Holds store after ∧
      Settled result held (Function.update held TokenStore.key (some (.text token))) after)
      ⟨_, later, Or.inl ⟨done, rfl⟩⟩ fun e => ⟨held, holds, Or.inr ⟨e, rfl, rfl⟩⟩
  deletes key faulty held holds := by
    have other : Storage.Operation.delete ≠ .write := by decide
    obtain ⟨_, store⟩ := attempt_passes other key (Backend.delete key) faulty
    exact store ▸ (Reliable.deletes key holds).2

end Reliable

/-! Sessions in step -/

variable {β : Type} [Backend β] [Keeping β]

open Keeping (Holds)

def InStep (session : Session β) : Prop :=
  ∃ held, Holds session.store held ∧ session.record = recordIn held

section Reading

variable {store : β} {held : Holdings} (holds : Holds store held)
include holds

theorem token_reads : (TokenStore.get.run store).1 = tokenIn (held TokenStore.key) ∧
    Holds (TokenStore.get.run store).2 held := by
  obtain ⟨answered, after⟩ := Keeping.reads TokenStore.key holds
  simp only [TokenStore.get, Calls.run, answered]
  cases held TokenStore.key with
  | none => exact ⟨rfl, after⟩
  | some value => cases value <;> exact ⟨rfl, after⟩

theorem field_reads {α : Type} (f : Json.Value → α) (field : Field) :
    (((FieldStore.get field.key).map f).run store).1 = f (fieldIn held field) ∧
      Holds (((FieldStore.get field.key).map f).run store).2 held := by
  obtain ⟨answered, after⟩ := Keeping.reads fieldsKey holds
  rw [run_map]
  simp only [FieldStore.get, Calls.run, answered]
  exact ⟨rfl, after⟩

theorem resume_reads :
    (resume store).record = recordIn held ∧ Holds (resume store).store held := by
  have token := token_reads holds
  have userId := field_reads token.2 FieldStore.textOf .userId
  have userName := field_reads userId.2 FieldStore.textOf .userName
  have avatar := field_reads userName.2 FieldStore.textOf .avatar
  have roles := field_reads avatar.2 FieldStore.listOf .roles
  have permissions := field_reads roles.2 FieldStore.listOf .permissions
  refine ⟨?_, permissions.2⟩
  simp only [resume, recordIn, FieldStore.getText, FieldStore.getList, token.1, userId.1, userName.1,
    avatar.1, roles.1, permissions.1]

theorem resume_in_step : InStep (resume store) := by
  obtain ⟨record, after⟩ := resume_reads holds
  exact ⟨held, after, record⟩

end Reading

theorem restart_finds {session : Session β} (inStep : InStep session) :
    (resume session.store).record = session.record := by
  obtain ⟨held, holds, record⟩ := inStep
  exact (resume_reads holds).1.trans record.symm

theorem commit_keeps_step (update : Update) {session : Session β} (inStep : InStep session) :
    InStep (commit update session).2 := by
  obtain ⟨held, holds, record⟩ := inStep
  obtain ⟨after, later, settled⟩ := Keeping.puts update holds
  rw [commit_taking]
  rcases taking_outcome settled with ⟨taken, rfl⟩ | ⟨e, refused, rfl⟩
  · rw [Update.put] at taken
    rw [taken]
    exact ⟨_, later, by rw [recordIn_withField, record]⟩
  · rw [Update.put] at refused
    rw [refused]
    exact ⟨_, later, record⟩

theorem commitAll_keeps_step (updates : List Update) {session : Session β}
    (inStep : InStep session) : InStep (commitAll updates session).2 := by
  induction updates generalizing session with
  | nil => exact inStep
  | cons update rest ih =>
    have kept := commit_keeps_step update inStep
    simp only [commitAll]
    split
    · rename_i e next committed
      rw [committed] at kept
      exact kept
    · rename_i next committed
      rw [committed] at kept
      exact ih kept

theorem login_keeps_step (answer : Except Remote.Error Remote.Grant) {session : Session β}
    (inStep : InStep session) : InStep (finishLogin answer session).2 := by
  cases answer with
  | error e => exact inStep
  | ok grant =>
    obtain ⟨held, holds, record⟩ := inStep
    obtain ⟨after, later, settled⟩ := Keeping.grants grant.token holds
    rw [finishLogin_taking]
    rcases taking_outcome settled with ⟨taken, rfl⟩ | ⟨e, refused, rfl⟩
    · rw [taken]
      exact ⟨_, later, by rw [recordIn_token, record]⟩
    · rw [refused]
      exact ⟨_, later, record⟩

theorem profile_keeps_step (settings : AvatarSettings)
    (answer : Except Remote.Error Remote.Profile) {session : Session β}
    (inStep : InStep session) : InStep (finishProfile settings answer session).2 := by
  cases answer with
  | error e => exact inStep
  | ok profile => exact commitAll_keeps_step (updatesOf settings session.record profile) inStep

theorem logout_keeps_step (answer : Except Remote.Error Unit) {session : Session β}
    (inStep : InStep session) : InStep (finishLogout answer session).2 := by
  cases answer with
  | error e => exact inStep
  | ok accepted =>
    obtain ⟨held, holds, _⟩ := inStep
    have cleared := Keeping.deletes fieldsKey (Keeping.deletes TokenStore.key holds)
    exact ⟨_, cleared, (recordIn_cleared held).symm⟩

theorem perform_keeps_step (settings : AvatarSettings) (operation : Operation)
    {session : Session β} (inStep : InStep session) :
    InStep (operation.perform settings session).2 := by
  cases operation with
  | answered answer =>
    cases answer with
    | login answer => exact login_keeps_step answer inStep
    | profile answer => exact profile_keeps_step settings answer inStep
    | logout answer => exact logout_keeps_step answer inStep
  | avatarSet url => exact commit_keeps_step (.avatar url) inStep

theorem after_keeps_step (settings : AvatarSettings) (operations : List Operation)
    {session : Session β} (inStep : InStep session) :
    InStep (after settings operations session) := by
  induction operations generalizing session with
  | nil => exact inStep
  | cons operation rest ih => exact ih (perform_keeps_step settings operation inStep)

/- Every operation ends some list of them, so this speaks of the moment after each. -/
theorem restart_finds_the_record {φ γ : Type} [FaultPlan φ] [WritesOnly φ] [Backend γ] [Reliable γ]
    (settings : AvatarSettings) (operations : List Operation) {store : Faulty φ γ} {held : Holdings}
    (holds : Reliable.Holds store.store held) :
    (resume (after settings operations (resume store)).store).record =
      (after settings operations (resume store)).record := by
  have first : Keeping.Holds store held := holds
  exact restart_finds (after_keeps_step settings operations (resume_in_step first))

/- The third write fails, that of the user's name. -/
theorem restart_finds_the_record_after_a_failed_write :
    Reliable.Holds filed (Members.get? filedEntries) ∧
      (resume (after ⟨"http://api", "/default.jpg"⟩
        [.answered (.login (.ok ⟨"t"⟩)),
          .answered (.profile
            (.ok ⟨some ⟨some "7", some "Ann", none, []⟩, ["editor"], ["a:b:c"], []⟩))]
        (resume (⟨⟨[none, none, some (.medium "full")]⟩, filed⟩ :
          Faulty WriteFaults FileStore))).store).record = ⟨"t", "7", "", "", [], []⟩ := by
  have holds : Reliable.Holds filed (Members.get? filedEntries) := ⟨_, filed_in_order, rfl⟩
  refine ⟨holds, (restart_finds_the_record _ _ holds).trans ?_⟩
  decide +kernel

/-- A file that has a double for the id of the user. -/
def filedDouble : FileStore :=
  ⟨⟨["s.json"]⟩, ⟨.directory [("s.json", .file (Text.encode
    "\x7b\"storage_data\":\x7b\"user_id\":3e49\x7d\x7d"))], []⟩⟩

/- With each change all doubles are written once more, and not always read back as they were. -/
theorem restart_may_find_another_double :
    filedDouble.Saves ∧ (setAvatar "/b.png" (resume filedDouble)).1 = .ok () ∧
      (after ⟨"", ""⟩ [.avatarSet "/b.png"] (resume filedDouble)).record.userId =
        "2.9999999999999997e+49" ∧
      (resume (after ⟨"", ""⟩ [.avatarSet "/b.png"] (resume filedDouble)).store).record.userId =
        "2.999999999999999e+49" :=
  ⟨fun _ => rfl, by decide +kernel, by decide +kernel, by decide +kernel⟩

end SessionGate.Session
