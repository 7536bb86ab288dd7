import SessionGate.Proofs.Storage.Holdings
import SessionGate.Session.Service

/- What each operation of a session can do to its record and to what its backend holds, failures
   of the backend included. -/
namespace SessionGate.Session

open Json (Members)
open Storage

/-- What may be done to a session. A remote call is taken together with its answer. -/
inductive Operation where
  | answered (answer : Answer)
  | avatarSet (url : String)

section Runs

variable {β : Type} [Backend β]

def Operation.perform (settings : AvatarSettings) (operation : Operation) (session : Session β) :
    Except Error (Option Remote.Profile) × Session β :=
  match operation with
  | .answered answer => finish settings answer session
  | .avatarSet url =>
    let (result, session) := setAvatar url session
    (result.map fun _ => none, session)

def after (settings : AvatarSettings) (operations : List Operation) (session : Session β) :
    Session β :=
  operations.foldl (fun session operation => (operation.perform settings session).2) session

end Runs

section Taking

variable {β : Type}

def taking (kept taken : Record) : Except Storage.Error Unit × β → Except Error Unit × Session β
  | (.error e, store) => (.error (.storage e), ⟨kept, store⟩)
  | (.ok (), store) => (.ok (), ⟨taken, store⟩)

theorem taking_done {kept taken : Record} {stored : Except Storage.Error Unit × β}
    (done : stored.1 = .ok ()) : taking kept taken stored = (.ok (), ⟨taken, stored.2⟩) := by
  obtain ⟨result, store⟩ := stored
  cases done
  rfl

theorem taking_refused {kept taken : Record} {stored : Except Storage.Error Unit × β}
    {e : Storage.Error} (refused : stored.1 = .error e) :
    taking kept taken stored = (.error (.storage e), ⟨kept, stored.2⟩) := by
  obtain ⟨result, store⟩ := stored
  cases refused
  rfl

theorem commit_taking [Backend β] (update : Update) (session : Session β) :
    commit update session = taking session.record (update.apply session.record)
      ((FieldStore.put update.field update.value).run session.store) := rfl

theorem finishLogin_taking [Backend β] (grant : Remote.Grant) (session : Session β) :
    finishLogin (.ok grant) session =
      taking session.record { session.record with token := grant.token }
        ((TokenStore.set grant.token).run session.store) := rfl

theorem taking_outcome {kept taken : Record} {before wanted after : Holdings}
    {stored : Except Storage.Error Unit × β} (settled : Settled stored.1 before wanted after) :
    (taking kept taken stored = (.ok (), ⟨taken, stored.2⟩) ∧ after = wanted) ∨
      ∃ e, taking kept taken stored = (.error (.storage e), ⟨kept, stored.2⟩) ∧ after = before := by
  rcases settled with ⟨done, made⟩ | ⟨e, refused, same⟩
  · exact Or.inl ⟨taking_done done, made⟩
  · exact Or.inr ⟨e, taking_refused refused, same⟩

end Taking

def Update.put (update : Update) : Calls (Except Storage.Error Unit) :=
  FieldStore.put update.field update.value

section Faulty

variable {φ β : Type} [FaultPlan φ] [Backend β]

theorem put_outcome (update : Update) (faulty : Faulty φ β) :
    ((update.put.run faulty).1 = (update.put.run faulty.store).1 ∧
        (update.put.run faulty).2.store = (update.put.run faulty.store).2) ∨
      (∃ e, (update.put.run faulty).1 = .error e) ∧
        ((update.put.run faulty).2.store = faulty.store ∨
          (update.put.run faulty).2.store = (Backend.read fieldsKey faulty.store).2) := by
  have read : Backend.read fieldsKey faulty =
      Faulty.attempt .read fieldsKey (Backend.read fieldsKey) faulty := rfl
  have asked := attempt_outcome .read fieldsKey (Backend.read fieldsKey) faulty
  simp only [Update.put, FieldStore.put, FieldStore.change, Calls.run, read]
  generalize Faulty.attempt .read fieldsKey (Backend.read fieldsKey) faulty = passed at asked ⊢
  obtain ⟨answer, between⟩ := passed
  rcases asked with ⟨_, told, store⟩ | ⟨e, _, rfl, store⟩
  · obtain rfl : answer = (Backend.read fieldsKey faulty.store).1 := told
    cases (Backend.read fieldsKey faulty.store).1 with
    | error e => exact Or.inl ⟨rfl, store⟩
    | ok stored =>
      have written := attempt_outcome .write fieldsKey (Backend.write fieldsKey
        (.object (Members.insert (FieldStore.fieldsOf stored) update.field.key update.value))) between
      rcases written with ⟨_, result, after⟩ | ⟨e, _, result, after⟩
      · rw [store] at result after
        exact Or.inl ⟨result, after⟩
      · exact Or.inr ⟨⟨e, result⟩, Or.inr (after.trans store)⟩
  · exact Or.inr ⟨⟨e, rfl⟩, Or.inl store⟩

end Faulty

end SessionGate.Session
