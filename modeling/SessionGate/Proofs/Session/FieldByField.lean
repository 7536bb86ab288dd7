import SessionGate.Proofs.Session.Remembering
import SessionGate.Proofs.Storage.OneKey

/- A profile is stored field by field. Behind a plan of faults the first few fields get their new values, in the
   record and in the backend alike, and the rest keep what they had in either, also if the two disagreed. -/
namespace SessionGate

open Json (Value)
open Storage

/-! The record that a profile calls for -/

def Session.Update.ofRecord (record : Record) : Field → Session.Update
  | .userId => .userId record.userId
  | .userName => .userName record.userName
  | .avatar => .avatar record.avatarUrl
  | .roles => .roles record.roles
  | .permissions => .permissions record.permissions

def Record.value (record : Record) (field : Field) : Value :=
  (Session.Update.ofRecord record field).value

/-- The address under which an avatar is shown. -/
inductive Shown (settings : AvatarSettings) : String → String → Prop where
  | plain (rest : String) : Shown settings ("http://" ++ rest) ("http://" ++ rest)
  | secure (rest : String) : Shown settings ("https://" ++ rest) ("https://" ++ rest)
  | none : Shown settings "" settings.defaultAvatar
  | below {raw : String} (present : raw ≠ "") (notPlain : ∀ rest, raw ≠ "http://" ++ rest)
      (notSecure : ∀ rest, raw ≠ "https://" ++ rest) : Shown settings raw (settings.baseUrl ++ raw)

theorem startsWith_iff (beginning s : String) :
    s.startsWith beginning = true ↔ ∃ rest, s = beginning ++ rest := by
  rw [String.startsWith_string_iff]
  constructor
  · rintro ⟨rest, same⟩
    refine ⟨String.ofList rest, String.toList_inj.mp ?_⟩
    rw [String.toList_append, String.toList_ofList, same]
  · rintro ⟨rest, rfl⟩
    exact ⟨rest.toList, (String.toList_append ..).symm⟩

theorem resolve_shown (settings : AvatarSettings) (raw : String) :
    Shown settings raw (settings.resolve raw) := by
  unfold AvatarSettings.resolve
  by_cases plain : raw.startsWith "http://" = true
  · obtain ⟨rest, rfl⟩ := (startsWith_iff _ _).mp plain
    rw [plain, Bool.true_or, if_pos rfl]
    exact .plain rest
  by_cases secure : raw.startsWith "https://" = true
  · obtain ⟨rest, rfl⟩ := (startsWith_iff _ _).mp secure
    rw [secure, Bool.or_true, if_pos rfl]
    exact .secure rest
  rw [if_neg (by simp [plain, secure])]
  split
  · rename_i absent
    rw [absent]
    exact .none
  · rename_i present
    exact .below present (fun rest same => plain ((startsWith_iff _ _).mpr ⟨rest, same⟩))
      fun rest same => secure ((startsWith_iff _ _).mpr ⟨rest, same⟩)

/-- The record that a profile makes of another one. -/
structure CalledFor (settings : AvatarSettings) (before : Record) (profile : Remote.Profile)
    (fresh : Record) : Prop where
  token : fresh.token = before.token
  userId : fresh.userId = (profile.user.bind (·.id)).getD ""
  userName : fresh.userName = (profile.user.bind (·.name)).getD ""
  avatar : Shown settings ((profile.user.bind (·.avatar)).getD "") fresh.avatarUrl
  bare (none : profile.roles = []) :
    fresh.roles = ["ROLE_DEFAULT"] ∧ fresh.permissions = before.permissions
  granted (some : profile.roles ≠ []) :
    fresh.roles = profile.roles ∧ fresh.permissions = profile.permissions

namespace Session

theorem updatesOf_called_for (settings : AvatarSettings) (before : Record)
    (profile : Remote.Profile) :
    ∃ fresh, CalledFor settings before profile fresh ∧
      updatesOf settings before profile = Field.all.map (Update.ofRecord fresh) := by
  by_cases none : profile.roles = []
  · refine ⟨⟨before.token, _, _, settings.resolve ((profile.user.bind (·.avatar)).getD ""),
      [defaultRole], before.permissions⟩, ⟨rfl, rfl, rfl, resolve_shown _ _, fun _ => ⟨rfl, rfl⟩,
      fun some => absurd none some⟩, ?_⟩
    simp only [updatesOf, none, if_true]
    rfl
  · refine ⟨⟨before.token, _, _, settings.resolve ((profile.user.bind (·.avatar)).getD ""),
      profile.roles, profile.permissions⟩, ⟨rfl, rfl, rfl, resolve_shown _ _,
      fun bare => absurd bare none, fun _ => ⟨rfl, rfl⟩⟩, ?_⟩
    simp only [updatesOf, none, if_false]
    rfl

/-! Fields that are taken one after another -/

theorem value_after_takes {σ : Type} {look : σ → Field → Value} {take : σ → Field → σ}
    {value : Field → Value} (same : ∀ s field, look (take s field) field = value field)
    (other : ∀ s field asked, asked ≠ field → look (take s field) asked = look s asked)
    (fields : List Field) (s : σ) (asked : Field) :
    look (fields.foldl take s) asked = if asked ∈ fields then value asked else look s asked := by
  induction fields generalizing s with
  | nil => rfl
  | cons field rest ih =>
    rw [List.foldl_cons, ih]
    by_cases among : asked ∈ rest
    · rw [if_pos among, if_pos (List.mem_cons_of_mem _ among)]
    · rw [if_neg among]
      by_cases first : asked = field
      · rw [first, same, if_pos List.mem_cons_self]
      · rw [other s field asked first, if_neg fun member => (List.mem_cons.mp member).elim first among]

def takeField (fresh record : Record) (field : Field) : Record :=
  (Update.ofRecord fresh field).apply record

def holdField (fresh : Record) (held : Holdings) (field : Field) : Holdings :=
  withField field (fresh.value field) held

theorem value_of_taken (fresh before : Record) (fields : List Field) (field : Field) :
    (fields.foldl (takeField fresh) before).value field =
      if field ∈ fields then fresh.value field else before.value field := by
  refine value_after_takes ?_ ?_ fields before field
  · intro record field
    cases field <;> rfl
  · intro record field asked different
    cases field <;> cases asked <;> first | rfl | exact absurd rfl different

theorem fieldIn_of_held (fresh : Record) (held : Holdings) (fields : List Field) (field : Field) :
    fieldIn (fields.foldl (holdField fresh) held) field =
      if field ∈ fields then fresh.value field else fieldIn held field := by
  refine value_after_takes ?_ ?_ fields held field
  · exact fun held field => fieldIn_withField_same field (update_value_present _) held
  · exact fun held field asked different => fieldIn_withField_other different _ held

theorem token_of_taken (fresh before : Record) (fields : List Field) :
    (fields.foldl (takeField fresh) before).token = before.token := by
  induction fields generalizing before with
  | nil => rfl
  | cons field rest ih =>
    refine (ih _).trans ?_
    cases field <;> rfl

theorem held_outside (fresh : Record) {key : String} (outside : key ≠ fieldsKey)
    (held : Holdings) (fields : List Field) :
    fields.foldl (holdField fresh) held key = held key := by
  induction fields generalizing held with
  | nil => rfl
  | cons field rest ih => exact (ih _).trans (withField_outside outside field _ held)

/-! Fields that are stored one after another -/

def storeField (fresh : Record) (field : Field) : Calls (Except Storage.Error Unit) :=
  FieldStore.put field (fresh.value field)

theorem put_ofRecord (fresh : Record) (field : Field) :
    (Update.ofRecord fresh field).put = storeField fresh field := by
  cases field <;> rfl

section Faulty

variable {φ β : Type} [FaultPlan φ] [Backend β] [Reliable β]

open Reliable (Holds Settable)

theorem value_settable (fresh : Record) (field : Field) : Settable β (fresh.value field) := by
  cases field with
  | userId | userName | avatar => exact Reliable.text_settable _
  | roles | permissions => exact Reliable.texts_settable _

theorem storeField_outcome {faulty : Faulty φ β} {held : Holdings} (holds : Holds faulty.store held)
    (fresh : Record) (field : Field) :
    (((storeField fresh field).run faulty).1 = .ok () ∧
        Holds ((storeField fresh field).run faulty).2.store (holdField fresh held field)) ∨
      ∃ e, ((storeField fresh field).run faulty).1 = .error e ∧
        Holds ((storeField fresh field).run faulty).2.store held := by
  have outcome := put_outcome (Update.ofRecord fresh field) faulty
  rw [put_ofRecord] at outcome
  rcases outcome with ⟨result, store⟩ | ⟨⟨e, failed⟩, same | read⟩
  · obtain ⟨done, after⟩ := put_done holds field (value_settable fresh field)
    rw [result, store]
    exact Or.inl ⟨done, after⟩
  · exact Or.inr ⟨e, failed, same ▸ holds⟩
  · exact Or.inr ⟨e, failed, read ▸ (Reliable.reads fieldsKey holds).2⟩

/-- Of the fields to store, so many were taken, and the next one, if there is one, failed. -/
structure StoppedAfter (fresh : Record) (fields : List Field) (count : Nat)
    (before : Session (Faulty φ β)) (held : Holdings)
    (outcome : Except Error Unit × Session (Faulty φ β)) : Prop where
  record : outcome.2.record = (fields.take count).foldl (takeField fresh) before.record
  stored : Holds outcome.2.store.store ((fields.take count).foldl (holdField fresh) held)
  done (whole : count = fields.length) : outcome.1 = .ok ()
  failed {field : Field} (next : fields[count]? = some field) :
    ∃ e, outcome.1 = .error (.storage e) ∧ ((storeField fresh field).run
      ((fields.take count).foldl (fun store field => ((storeField fresh field).run store).2)
        before.store)).1 = .error e

theorem commitAll_stops (fresh : Record) (fields : List Field) {session : Session (Faulty φ β)}
    {held : Holdings} (holds : Holds session.store.store held) :
    ∃ count ≤ fields.length, StoppedAfter fresh fields count session held
      (commitAll (fields.map (Update.ofRecord fresh)) session) := by
  induction fields generalizing session held with
  | nil =>
    refine ⟨0, le_rfl, rfl, holds, fun _ => rfl, ?_⟩
    intro _ next
    cases next
  | cons field rest ih =>
    have committed := commit_taking (Update.ofRecord fresh field) session
    rw [← Update.put, put_ofRecord] at committed
    rcases storeField_outcome holds fresh field with ⟨done, later⟩ | ⟨e, refused, later⟩
    · rw [taking_done done] at committed
      let next : Session (Faulty φ β) :=
        ⟨takeField fresh session.record field, ((storeField fresh field).run session.store).2⟩
      have onward : Holds next.store.store (holdField fresh held field) := later
      obtain ⟨count, few, stopped⟩ := ih onward
      refine ⟨count + 1, Nat.succ_le_succ few, ?_⟩
      simp only [List.map_cons, commitAll, committed]
      exact ⟨stopped.record, stopped.stored, fun whole => stopped.done (Nat.succ.inj whole),
        stopped.failed⟩
    · rw [taking_refused refused] at committed
      refine ⟨0, Nat.zero_le _, ?_⟩
      simp only [List.map_cons, commitAll, committed]
      refine ⟨rfl, later, fun whole => absurd whole (Nat.succ_ne_zero _).symm, ?_⟩
      rintro _ ⟨rfl⟩
      exact ⟨e, rfl, refused⟩

/-- The first fields, so many, are as a record has them, in the session's own and in the backend; all else is
as it was. The token is stored outside the fields. The backend is read with the faults left out. -/
structure FirstFieldsTaken (count : Nat) (fresh : Record) (before after : Session (Faulty φ β)) :
    Prop where
  taken {field : Field} (among : field ∈ Field.all.take count) :
    after.record.value field = fresh.value field ∧
      ((FieldStore.get field.key).run after.store.store).1 = fresh.value field
  kept {field : Field} (later : field ∉ Field.all.take count) :
    after.record.value field = before.record.value field ∧
      ((FieldStore.get field.key).run after.store.store).1 =
        ((FieldStore.get field.key).run before.store.store).1
  token : after.record.token = before.record.token
  others {key : String} (outside : key ≠ fieldsKey) :
    ∃ stored, (Backend.read key after.store.store).1 = .ok stored ∧
      (Backend.read key before.store.store).1 = .ok stored

structure ToldOf (profile : Remote.Profile) (count : Nat) (fresh : Record)
    (before : Session (Faulty φ β)) (result : Except Error Remote.Profile) : Prop where
  whole (all : count = Field.all.length) : result = .ok profile
  cut {field : Field} (next : Field.all[count]? = some field) :
    ∃ e, result = .error (.storage e) ∧ ((storeField fresh field).run
      ((Field.all.take count).foldl (fun store field => ((storeField fresh field).run store).2)
        before.store)).1 = .error e

end Faulty

def atOdds : Session (Faulty WriteFaults Memory) :=
  ⟨⟨"t", "1", "ann", "/a.png", ["old"], ["x:y:z"]⟩, ⟨⟨[none, none, some (.medium "full")]⟩,
    ⟨[("App-Token", .text "other"), (fieldsKey, .object [("user_name", .text "bob")])]⟩⟩⟩

def ofNewcomer : Remote.Profile := ⟨some ⟨some "7", none, some "/7.png", []⟩, [], ["a:b:c"], []⟩

example : (finishProfile ⟨"http://api", "/none.png"⟩ (.ok ofNewcomer) atOdds).2.record =
    ⟨"t", "7", "", "/a.png", ["old"], ["x:y:z"]⟩ := by rfl

end Session

end SessionGate
