import SessionGate.Proofs.Remote.UserIds
import SessionGate.Proofs.Session.Refound

/- The id of a user on its ways into a session: from the text of an answer or a value, over a file and a
   restart, or straight from a document. Two readings make a text of it, one where a profile is read and one
   where a field is. -/
namespace SessionGate.Session

open Json (Input Value Members Integer Spaces)
open Remote (Profile GivenOnce openEnvelope idIn withId)
open Storage

/-- Wherever the value stands for the id of a user, the id is this text. -/
structure ComesOutAs (value : Value) (id : String) : Prop where
  decoded : Remote.User.idOfValue value = .ok (some id)
  normalised : FieldStore.textOf value = id
  opened {text : Input} {members : Members} {p : Profile}
    (read : Json.read text = .ok (.object members)) (given : idIn members = some value)
    (opened : openEnvelope Profile.read text = .ok p) : p.user.bind (·.id) = some id
  opens {text other : Input} {members : Members} {q : Profile}
    (read : Json.read text = .ok (.object members)) (given : idIn members = some value)
    (once : GivenOnce text) (without : Json.read other = .ok (.object (withId members .null)))
    (opened : openEnvelope Profile.read other = .ok q) :
    openEnvelope Profile.read text = .ok (q.withId (some id))
  made {levels : Nat} {members : Members} {p : Profile} (fits : (Value.object members).Fits levels)
    (given : idIn members = some value) (made : Profile.ofValue (.object members) = .ok p) :
    p.user.bind (·.id) = some id
  makes {levels : Nat} {members : Members} {q : Profile} (fits : (Value.object members).Fits levels)
    (given : idIn members = some value)
    (made : Profile.ofValue (.object (withId members .null)) = .ok q) :
    Profile.ofValue (.object members) = .ok (q.withId (some id))
  fetched {settings : AvatarSettings} {session : Session FileStore} {text : Input}
    {members : Members} {p : Profile} (read : Json.read text = .ok (.object members))
    (given : idIn members = some value)
    (fetched : (finishProfile settings (openEnvelope Profile.read text) session).1 = .ok p) :
    (finishProfile settings (openEnvelope Profile.read text) session).2.record.userId = id ∧
      (resume (finishProfile settings (openEnvelope Profile.read text) session).2.store).record.userId
        = id
  fetches {settings : AvatarSettings} {session : Session FileStore} {text other : Input}
    {members : Members} {q : Profile} (read : Json.read text = .ok (.object members))
    (given : idIn members = some value) (once : GivenOnce text)
    (without : Json.read other = .ok (.object (withId members .null)))
    (opened : openEnvelope Profile.read other = .ok q) (serves : Serves session.store) :
    (finishProfile settings (openEnvelope Profile.read text) session).1 = .ok (q.withId (some id))
  stored {store : FileStore} {entries fields : Members} (loaded : store.load = .ok entries)
    (kept : entries.get? fieldsKey = some (.object fields))
    (given : Members.get? fields "user_id" = some value) : (resume store).record.userId = id

theorem comesOutAs_of_readings {value : Value} {id : String} (known : Remote.idOf value = some (some id))
    (normalised : FieldStore.textOf value = id) : ComesOutAs value id where
  decoded := (Remote.User.idOfValue_ok_iff value (some id)).mpr known
  normalised := normalised
  opened read given opened := Remote.id_of_opened given known read opened
  opens read given once without opened := Remote.opened_with_id given known read once without opened
  made fits given made := Remote.id_of_made given known fits made
  makes fits given made := Remote.made_with_id given known fits made
  fetched {settings session text members p} read given fetched := by
    cases answer : openEnvelope Profile.read text with
    | error e =>
      rw [answer] at fetched
      cases fetched
    | ok told =>
      rw [answer] at fetched
      obtain ⟨_, fresh, token, calledFor, record, again⟩ := fetched_record_is_found_again fetched
      have userId : fresh.userId = id := by
        rw [calledFor.userId, Remote.id_of_opened given known read answer]
        rfl
      rw [record, again]
      exact ⟨userId, userId⟩
  fetches read given once without opened serves := by
    rw [Remote.opened_with_id given known read once without opened]
    exact serves.fetched _ _
  stored {store entries fields} loaded kept given := by
    have held : fieldIn entries.get? .userId = value := by
      have present : value ≠ .null := by
        rintro rfl
        cases known
      simp only [fieldIn, kept, FieldStore.fieldsOf, FieldStore.valueIn, Field.key, given]
    rw [resume_loaded loaded]
    exact (congrArg FieldStore.textOf held).trans normalised

theorem digits_come_out (n : Integer) :
    ComesOutAs (.number (.integer n)) (toString n.val) ∧
      ComesOutAs (.text (toString n.val)) (toString n.val) :=
  ⟨comesOutAs_of_readings rfl rfl, comesOutAs_of_readings rfl rfl⟩

theorem numeric_id_keeps_its_digits {k : Int} (least : -2 ^ 63 ≤ k) (greatest : k ≤ 2 ^ 64 - 1) :
    ∃ n : Integer, n.val = k ∧
      (∀ text, Json.read text = .ok (.number (.integer n)) ↔ ∃ lead trail, Spaces lead ∧
        Spaces trail ∧ text = lead ++ (Text.symbols (toString k) ++ trail)) ∧
      ComesOutAs (.number (.integer n)) (toString k) ∧ ComesOutAs (.text (toString k)) (toString k) ∧
      ∀ m : Integer, ComesOutAs (.number (.integer m)) (toString k) → m = n := by
  have below : k < Json.unsignedBound := by
    rw [Json.unsignedBound]
    omega
  refine ⟨⟨k, least, below⟩, rfl, fun text => Json.read_integer_iff text _, (digits_come_out _).1,
    (digits_come_out ⟨k, least, below⟩).2, ?_⟩
  intro m same
  exact Json.digits_injective same.normalised

def greatestAnswer : Input :=
  Text.symbols "\x7b\"user\":\x7b \"userId\" : 18446744073709551615 \x7d,\"code\":200\x7d"

def greatestProfile : Profile :=
  ⟨some ⟨some "18446744073709551615", none, none, []⟩, [], [], [("code", Remote.successCode)]⟩

theorem greatest_id_is_found_again :
    (finishProfile ⟨"http://api", "/none.png"⟩ (openEnvelope Profile.read greatestAnswer)
        (resume fresh)).1 = .ok greatestProfile ∧
      (resume (finishProfile ⟨"http://api", "/none.png"⟩ (openEnvelope Profile.read greatestAnswer)
        (resume fresh)).2.store).record.userId = "18446744073709551615" := by
  obtain ⟨⟨k, least, greatest⟩, rfl, _, number, _⟩ :=
    numeric_id_keeps_its_digits (k := 2 ^ 64 - 1) (by decide) le_rfl
  have read : Json.read greatestAnswer = .ok (.object [("code", Remote.successCode),
      ("user", .object [("userId", .number (.integer ⟨2 ^ 64 - 1, least, greatest⟩))])]) := rfl
  have opened : openEnvelope Profile.read greatestAnswer = .ok greatestProfile := rfl
  have serves : Serves (resume fresh).store := ⟨⟨[], rfl⟩, fun _ => rfl⟩
  have fetched := serves.fetched ⟨"http://api", "/none.png"⟩ greatestProfile
  rw [← opened] at fetched
  exact ⟨fetched, (number.fetched read rfl fetched).2⟩

end SessionGate.Session
