import SessionGate.Proofs.Json.Loose
import SessionGate.Proofs.Remote.FromValues

/- The id of a user is a text, or a number that is taken by its own text. An integer of 64 bits, signed or
   unsigned, comes out of either kind of reading with just its digits. -/
namespace SessionGate

namespace Json

theorem read_integer_iff (text : Input) (n : Integer) :
    read text = .ok (.number (.integer n)) ↔ ∃ lead trail, Spaces lead ∧ Spaces trail ∧
      text = lead ++ (Text.symbols (toString n.val) ++ trail) := by
  rw [read_ok_iff]
  constructor
  · intro given
    obtain ⟨trail, form, trails⟩ := given
    have integer := (isInteger_iff maxLevels text trail n).mpr form
    obtain ⟨lead, leads, parts⟩ := spaces_before integer.written
    exact ⟨lead, trail, leads, trails, parts⟩
  · intro given
    obtain ⟨lead, trail, leads, trails, rfl⟩ := given
    have integer : IntegerText (Text.symbols (toString n.val) ++ trail) n.val trail :=
      ⟨rfl, endsNumber_of_spaces trails⟩
    refine ⟨trail, (isInteger_iff maxLevels _ trail n).mp ?_, trails⟩
    rw [integer.behind_spaces leads]
    exact integer

theorem digits_injective {m n : Integer} (same : toString m.val = toString n.val) : m = n := by
  have reads (k : Integer) : read (Text.symbols (toString k.val)) = .ok (.number (.integer k)) :=
    (read_integer_iff _ k).mpr ⟨[], [], rfl, rfl, (List.append_nil _).symm⟩
  have both := reads m
  rw [same, reads n] at both
  cases both
  rfl

end Json

namespace Remote

open Json

/-! Members with another id -/

/-- The value that stands for the id of the user among the members of a profile. -/
def idIn (members : Members) : Option Value :=
  match members.get? "user" with
  | some (.object user) => Members.get? user "userId"
  | _ => none

/-- The same members, but for the id of the user. -/
def withId (members : Members) (id : Value) : Members :=
  match members.get? "user" with
  | some (.object user) => members.insert "user" (.object (Members.insert user "userId" id))
  | _ => members

def Profile.withId (id : Option String) (p : Profile) : Profile :=
  { p with user := p.user.map fun user => { user with id := id } }

theorem user_of_idIn {members : Members} {value : Value} (given : idIn members = some value) :
    ∃ user, members.get? "user" = some (.object user) ∧ Members.get? user "userId" = some value := by
  unfold idIn at given
  split at given
  · rename_i user signed
    exact ⟨user, signed, given⟩
  · cases given

theorem withId_fits {levels : Nat} {members : Members} {value : Value}
    (fits : (Value.object members).Fits levels) (given : idIn members = some value) :
    (Value.object (withId members .null)).Fits levels := by
  obtain ⟨user, signed, inside⟩ := user_of_idIn given
  simp only [withId, signed]
  cases fits with
  | object sorted each =>
    have whole := each _ (Members.mem_of_get signed)
    cases whole with
    | object inOrder inner =>
      have user := Value.Fits.object (Members.insert_sorted inOrder "userId" .null)
        (Members.forall_insert inner "userId" .null)
      exact .object (Members.insert_sorted sorted "user" _) (Members.forall_insert each "user" user)

theorem User.told_withId {members : Members} {value : Value} {id : Option String}
    (given : members.get? "userId" = some value) (known : idOf value = some id) :
    User.told members =
      (User.told (members.insert "userId" .null)).map fun user => { user with id := id } := by
  have name : (members.insert "userId" .null).get? "userName" = members.get? "userName" :=
    Members.get_insert_other _ (by decide)
  have avatar : (members.insert "userId" .null).get? "avatar" = members.get? "avatar" :=
    Members.get_insert_other _ (by decide)
  have kept : (members.insert "userId" .null).without ["userId", "userName", "avatar"] =
      members.without ["userId", "userName", "avatar"] :=
    Members.without_insert_known (.head _) members .null
  have null : idOf .null = some none := rfl
  simp only [told, given, Members.get_insert_same, name, avatar, kept, Option.mapM_some, known, null]
  cases (members.get? "userName").mapM textOrNullOf with
  | none => rfl
  | some name => cases (members.get? "avatar").mapM textOrNullOf <;> rfl

theorem Profile.told_withId {members : Members} {value : Value} {id : Option String}
    (given : idIn members = some value) (known : idOf value = some id) :
    Profile.told members = (Profile.told (Remote.withId members .null)).map (Profile.withId id) := by
  obtain ⟨user, signed, inside⟩ := user_of_idIn given
  have roles (other : Value) : (members.insert "user" other).get? "roles" = members.get? "roles" :=
    Members.get_insert_other _ (by decide)
  have permissions (other : Value) :
      (members.insert "user" other).get? "permissions" = members.get? "permissions" :=
    Members.get_insert_other _ (by decide)
  have kept (other : Value) : (members.insert "user" other).without ["user", "roles", "permissions"] =
      members.without ["user", "roles", "permissions"] :=
    Members.without_insert_known (.head _) members other
  simp only [Remote.withId, signed, told, Members.get_insert_same, roles, permissions, kept,
    Option.mapM_some, userOf, User.told_withId inside known]
  cases User.told (Members.insert user "userId" .null) with
  | none => rfl
  | some user =>
    cases (members.get? "roles").mapM textsOf with
    | none => rfl
    | some roles => cases (members.get? "permissions").mapM textsOf <;> rfl

theorem answer_withId {members : Members} {value : Value} {id : Option String}
    (given : idIn members = some value) (known : idOf value = some id) :
    answer members = (answer (withId members .null)).map (Profile.withId id) := by
  obtain ⟨user, signed, inside⟩ := user_of_idIn given
  have code (other : Value) : (members.insert "user" other).get? "code" = members.get? "code" :=
    Members.get_insert_other _ (by decide)
  have msg (other : Value) : (members.insert "user" other).get? "msg" = members.get? "msg" :=
    Members.get_insert_other _ (by decide)
  have envelope : Envelope.told (withId members .null) = Envelope.told members := by
    simp only [withId, signed, Envelope.told, code, msg]
  unfold answer
  rw [envelope, Profile.told_withId given known]
  cases Envelope.told members with
  | none => rfl
  | some envelope =>
    obtain ⟨code, msg⟩ := envelope
    dsimp only
    split
    · rfl
    · split
      · rfl
      · cases Profile.told (withId members .null) <;> rfl

/-! Ids that come out -/

section Given

variable {members : Members} {value : Value} {id : Option String} {p q : Profile}
  (given : idIn members = some value) (known : idOf value = some id)
include given known

theorem id_of_told (told : Profile.told members = some p) : p.user.bind (·.id) = id := by
  obtain ⟨user, signed, inside⟩ := user_of_idIn given
  simp only [Profile.told, signed, Option.mapM_some, userOf, Option.bind_eq_bind,
    Option.bind_eq_some_iff, Option.some.injEq] at told
  obtain ⟨_, made, _, _, _, _, rfl⟩ := told
  obtain ⟨_, found, rfl⟩ := Option.map_eq_some_iff.mp made
  obtain ⟨_, whole, rfl⟩ := Option.map_eq_some_iff.mp found
  rw [User.told_withId inside known] at whole
  obtain ⟨_, _, rfl⟩ := Option.map_eq_some_iff.mp whole
  rfl

theorem id_of_opened {text : Input} (read : Json.read text = .ok (.object members))
    (opened : openEnvelope Profile.read text = .ok p) : p.user.bind (·.id) = id :=
  id_of_told given known (told_of_opened read opened).2

theorem opened_with_id {text other : Input} (read : Json.read text = .ok (.object members))
    (once : GivenOnce text) (without : Json.read other = .ok (.object (withId members .null)))
    (opened : openEnvelope Profile.read other = .ok q) :
    openEnvelope Profile.read text = .ok (q.withId id) := by
  obtain ⟨⟨msg, head⟩, told⟩ := told_of_opened without opened
  have answered : answer (withId members .null) = .ok q := by
    simp only [answer, head, told]
    rfl
  have same := answer_of_once read once
  rw [answer_withId given known, answered] at same
  exact ok_of_mapError same

theorem id_of_made {levels : Nat} (fits : (Value.object members).Fits levels)
    (made : Profile.ofValue (.object members) = .ok p) : p.user.bind (·.id) = id :=
  id_of_told given known ((Profile.ofValue_ok_iff fits p).mp made)

theorem made_with_id {levels : Nat} (fits : (Value.object members).Fits levels)
    (made : Profile.ofValue (.object (withId members .null)) = .ok q) :
    Profile.ofValue (.object members) = .ok (q.withId id) := by
  have told := (Profile.ofValue_ok_iff (withId_fits fits given) q).mp made
  rw [Profile.ofValue_ok_iff fits, Profile.told_withId given known, told]
  rfl

end Given

end Remote

end SessionGate
