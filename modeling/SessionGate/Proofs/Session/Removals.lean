import SessionGate.Proofs.Navigation.Redirects
import SessionGate.Proofs.Session.Outcomes
import SessionGate.Proofs.Storage.OneKey
import SessionGate.Session.Permission

/- What an accepted logout leaves behind when removals fail. The record is cleared first, so that nobody is
   signed in whatever becomes of the two entries in the backend, and each of them is removed on its own. -/
namespace SessionGate

open Navigation Storage

namespace Record

theorem signedOut_denied (asked : String) :
    signedOut.hasPermission asked = false ∧ signedOut.hasRole asked = false := by
  simp [hasPermission, hasRole, grants, signedOut]

theorem signedOut_denied_any (asked : List String) :
    signedOut.hasAnyPermission asked = false ∧ signedOut.hasAnyRole asked = false := by
  simp [hasAnyPermission, hasAnyRole, signedOut_denied]

theorem signedOut_denied_all (asked : List String) :
    signedOut.hasAllPermissions asked = false ∧ signedOut.hasAllRoles asked = false := by
  cases asked with
  | nil => exact ⟨rfl, rfl⟩
  | cons first rest => simp [hasAllPermissions, hasAllRoles, signedOut_denied]

end Record

namespace Session

def withoutIf (result : Except Storage.Error Unit) (key : String) (held : Holdings) : Holdings :=
  match result with
  | .ok () => Function.update held key none
  | .error _ => held

theorem withoutIf_other (result : Except Storage.Error Unit) {key other : String}
    (different : other ≠ key) (held : Holdings) : withoutIf result key held other = held other := by
  cases result with
  | ok done => exact Function.update_of_ne different _ _
  | error e => rfl

/-- Nobody is signed in, nothing is permitted, and a page may be opened only by those who need not be. -/
structure Powerless (record : Record) : Prop where
  cleared : record = .signedOut
  anonymous : Visitor.ofToken record.token = .anonymous
  listed_only (policy : Policy) (intent : Intent) :
    policy.decide (.ofToken record.token) intent = .allow ↔
      intent.key = policy.loginPage ∨ intent.key ∈ policy.listed.paths
  denied (asked : String) : record.hasPermission asked = false ∧ record.hasRole asked = false
  denied_any (asked : List String) :
    record.hasAnyPermission asked = false ∧ record.hasAnyRole asked = false
  denied_all (asked : List String) :
    record.hasAllPermissions asked = false ∧ record.hasAllRoles asked = false

theorem signedOut_powerless : Powerless .signedOut :=
  ⟨rfl, rfl, fun _ _ => Policy.anonymous_allowed_iff, Record.signedOut_denied,
    Record.signedOut_denied_any, Record.signedOut_denied_all⟩

section Faulty

variable {φ β : Type} [Backend β] [Reliable β]

open Reliable (Holds)

/-- What a logout leaves behind whose removals were answered so. The backend is read with the faults left out. -/
structure LeftBehind (token fields : Except Storage.Error Unit) (before after : Session (Faulty φ β)) :
    Prop where
  record : Powerless after.record
  tokenGone (done : token = .ok ()) : (TokenStore.get.run after.store.store).1 = ""
  tokenKept {e : Storage.Error} (failed : token = .error e) : ∃ stored,
    (Backend.read TokenStore.key after.store.store).1 = .ok stored ∧
      (Backend.read TokenStore.key before.store.store).1 = .ok stored
  fieldsGone (done : fields = .ok ()) (field : Field) :
    ((FieldStore.getText field).run after.store.store).1 = "" ∧
      ((FieldStore.getList field).run after.store.store).1 = []
  fieldsKept {e : Storage.Error} (failed : fields = .error e) : ∃ stored,
    (Backend.read fieldsKey after.store.store).1 = .ok stored ∧
      (Backend.read fieldsKey before.store.store).1 = .ok stored
  others {key : String} (notToken : key ≠ TokenStore.key) (notFields : key ≠ fieldsKey) : ∃ stored,
    (Backend.read key after.store.store).1 = .ok stored ∧
      (Backend.read key before.store.store).1 = .ok stored

structure ToldOfRemovals (token fields : Except Storage.Error Unit) (result : Except Error Unit) :
    Prop where
  done_iff : result = .ok () ↔ token = .ok () ∧ fields = .ok ()
  tokenFirst {e : Storage.Error} (failed : token = .error e) : result = .error (.storage e)
  fieldsNext {e : Storage.Error} (removed : token = .ok ()) (failed : fields = .error e) :
    result = .error (.storage e)

theorem toldOfRemovals (token fields : Except Storage.Error Unit) :
    ToldOfRemovals token fields ((token.bind fun _ => fields).mapError .storage) := by
  cases token with
  | error e =>
    refine ⟨⟨nofun, nofun⟩, ?_, nofun⟩
    rintro _ ⟨rfl⟩
    rfl
  | ok removed =>
    cases fields with
    | error e =>
      refine ⟨⟨nofun, nofun⟩, nofun, ?_⟩
      rintro _ _ ⟨rfl⟩
      rfl
    | ok cleared => exact ⟨⟨fun _ => ⟨rfl, rfl⟩, fun _ => rfl⟩, nofun, nofun⟩

theorem leftBehind_of {token fields : Except Storage.Error Unit} {before after : Session (Faulty φ β)}
    {held : Holdings} (record : after.record = .signedOut) (holds : Holds before.store.store held)
    (later : Holds after.store.store
      (withoutIf fields fieldsKey (withoutIf token TokenStore.key held))) :
    LeftBehind token fields before after := by
  have apart := withoutIf_other fields token_key_outside (withoutIf token TokenStore.key held)
  have aside := withoutIf_other token (Ne.symm token_key_outside) held
  have reads (key : String) := (Reliable.reads key later).1
  refine ⟨record ▸ signedOut_powerless, ?_, ?_, ?_, ?_, ?_⟩
  · rintro rfl
    rw [token_get_told later, apart, withoutIf, Function.update_self]
    rfl
  · rintro e rfl
    exact ⟨held TokenStore.key, (reads _).trans (congrArg Except.ok apart),
      (Reliable.reads _ holds).1⟩
  · rintro rfl field
    have none : fieldIn (withoutIf (.ok ()) fieldsKey (withoutIf token TokenStore.key held)) field =
        .text "" := by
      rw [fieldIn, withoutIf, Function.update_self]
      rfl
    rw [FieldStore.getText, FieldStore.getList, run_map, run_map, get_told later, none]
    exact ⟨rfl, rfl⟩
  · rintro e rfl
    exact ⟨held fieldsKey, (reads _).trans (congrArg Except.ok aside), (Reliable.reads _ holds).1⟩
  · intro key notToken notFields
    refine ⟨held key, (reads key).trans (congrArg Except.ok ?_), (Reliable.reads key holds).1⟩
    rw [withoutIf_other fields notFields, withoutIf_other token notToken]

variable [FaultPlan φ]

theorem delete_holds {faulty : Faulty φ β} {held : Holdings} (holds : Holds faulty.store held)
    (key : String) :
    Holds (Backend.delete key faulty).2.store (withoutIf (Backend.delete key faulty).1 key held) := by
  obtain ⟨done, after⟩ := Reliable.deletes key holds
  have passed : Holds (Backend.delete key faulty.store).2
      (withoutIf (Backend.delete key faulty.store).1 key held) := by
    rw [done]
    exact after
  exact attempt_keeps (fun result store => Holds store (withoutIf result key held)) passed
    fun _ => holds

end Faulty

def clinging : Session (Faulty (List Fault) Memory) :=
  ⟨⟨"t", "1", "ann", "/a.png", ["admin"], ["*:*:*"]⟩,
    ⟨[⟨.delete, some "App-Token", 0, "locked"⟩],
      ⟨[("App-Token", .text "t"), ("other", .null), (fieldsKey, .object [("user_id", .text "1")])]⟩⟩⟩

end Session

end SessionGate
