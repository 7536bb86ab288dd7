import SessionGate.Proofs.Json.Records
import SessionGate.Proofs.Json.Written
import SessionGate.Proofs.Remote.Envelopes
import SessionGate.Remote.Profile

/- What a text tells of a profile. It is read twice, for its envelope and for the profile; where no name
   is repeated, both readings depend only on the members that the strict reader finds, not on their
   order, and they see the same members. -/
namespace SessionGate.Remote

open Json

/-! Names -/

/-- No name is repeated in the object that a text is, nor in the one that is its user. -/
def Unrepeated (text : Input) : Prop :=
  Distinct text ∧
    ∀ members, ObjectText text members → ∀ one ∈ members, one.name = "user" → Distinct one.value

/-- Among the members of an answer, and among those of its user, no field is given twice. -/
structure GivenOnce (text : Input) : Prop where
  fields : Singly ["code", "msg", "user", "roles", "permissions"] text
  ofUser : ∀ members, ObjectText text members → ∀ one ∈ members, one.name = "user" →
    Singly ["userId", "userName", "avatar"] one.value

theorem Unrepeated.givenOnce {text : Input} (unrepeated : Unrepeated text) : GivenOnce text :=
  ⟨unrepeated.1.singly _,
    fun members object one member called => (unrepeated.2 members object one member called).singly _⟩

theorem unrepeated_written {layout : Layout} (spaced : layout.Spaced)
    {members : List (String × Value)} (passes : ∀ member ∈ members, Passes layout member.2)
    (names : (members.map Prod.fst).Nodup)
    (inside : ∀ user, ("user", user) ∈ members → ∀ text rest, Written layout user text rest →
      Distinct text) : Unrepeated ((layout.value 0 (.object members)).map .char) := by
  obtain ⟨inner, found, opens, laid, rfl, parts⟩ := laid_written spaced 0 passes []
  rw [List.append_nil] at opens
  have front := (congrArg skipSpaces opens).trans (skipSpaces_apart (by decide) inner)
  rw [List.map_map] at names
  refine ⟨laid.distinct front (by rwa [List.map_map]), ?_⟩
  · intro others object one member called
    have whole : ObjectText _ (found.map Prod.fst) := ⟨inner, [], front, laid, rfl⟩
    obtain rfl := whole.unique object
    obtain ⟨first, among, rfl⟩ := List.mem_map.mp member
    have listed := List.mem_map_of_mem (f := named) among
    rw [named, called] at listed
    exact inside _ listed _ _ (parts first among)

/-! What the members of an object tell -/

def Envelope.told (members : Members) : Option Envelope := do
  let code ← (members.get? "code").bind signedOf
  let msg ← (members.get? "msg").mapM textOrNullOf
  some ⟨code, msg.join⟩

def idOf : Value → Option (Option String)
  | .number n => some (some n.text)
  | value => textOrNullOf value

def User.told (members : Members) : Option User := do
  let id ← (members.get? "userId").mapM idOf
  let name ← (members.get? "userName").mapM textOrNullOf
  let avatar ← (members.get? "avatar").mapM textOrNullOf
  some ⟨id.join, name.join, avatar.join, members.without ["userId", "userName", "avatar"]⟩

def userOf : Value → Option (Option User)
  | .null => some none
  | .object members => (User.told members).map some
  | _ => none

def Profile.told (members : Members) : Option Profile := do
  let user ← (members.get? "user").mapM userOf
  let roles ← (members.get? "roles").mapM textsOf
  let permissions ← (members.get? "permissions").mapM textsOf
  some ⟨user.join, roles.getD [], permissions.getD [],
    members.without ["user", "roles", "permissions"]⟩

theorem userOf_iff (value : Value) (user : Option User) :
    userOf value = some user ↔
      (value = .null ∧ user = none) ∨
        ∃ members told, value = .object members ∧ User.told members = some told ∧
          user = some told := by
  cases value with
  | object members => simp [userOf, Option.map_eq_some_iff, eq_comm (a := some _)]
  | _ => simp [userOf, eq_comm]

/-! Users -/

namespace User

theorem idOfValue_ok_iff (value : Value) (id : Option String) :
    idOfValue value = .ok id ↔ idOf value = some id := by
  cases value <;> simp [idOfValue, idOf, textOrNullOf, textOf]

def readId (fuel levels : Nat) (value : Input) : Except Json.Error (Option String × Input) :=
  readValue fuel levels value >>= fun found => idOfValue found.1 >>= fun id => pure (id, found.2)

theorem readId_ok_iff {levels fuel : Nat} {value rest : Input} {id : Option String}
    (enough : value.length < fuel) :
    readId fuel levels value = .ok (id, rest) ↔
      ∃ found, ValueText levels value found rest ∧ idOf found = some id := by
  constructor
  · intro read
    obtain ⟨⟨found, behind⟩, known, later⟩ := (bind_ok_iff _ _ _).mp read
    obtain ⟨id, made, same⟩ := (bind_ok_iff _ _ _).mp later
    cases same
    exact ⟨found, (readValue_ok_iff levels enough).mp known, (idOfValue_ok_iff _ _).mp made⟩
  · intro given
    obtain ⟨found, form, made⟩ := given
    rw [readId, (readValue_ok_iff levels enough).mpr form, ok_bind, (idOfValue_ok_iff _ _).mpr made]
    rfl

def fields (levels : Nat) : Json.Record levels (Option String) (Option String) (Option String) :=
  ⟨.plain levels "userId" idOf, .plain levels "userName" textOrNullOf,
    .plain levels "avatar" textOrNullOf, by simp [Field.plain]⟩

def Draft.slots : Draft ≃ Slots (Option String) (Option String) (Option String) where
  toFun draft := ⟨draft.id, draft.name, draft.avatar, draft.extra⟩
  invFun slots := ⟨slots.first, slots.second, slots.third, slots.extra⟩
  left_inv _ := rfl
  right_inv _ := rfl

def ofSlots (slots : Slots (Option String) (Option String) (Option String)) : User :=
  (Draft.slots.symm slots).finish

theorem told_eq (levels : Nat) (members : Members) :
    told members = ((fields levels).of members).map ofSlots := by
  simp only [told, Json.Record.of, Option.bind_eq_bind, Option.map_bind, Function.comp_def]
  rfl

theorem member_takes (fuel levels : Nat) :
    Takes (Draft.member fuel levels) fuel
      fun draft one next => (fields levels).takes draft.slots one next.slots := by
  intro draft name text next rest short
  have text_exact (value : Input) (found : Option String) (rest : Input) :=
    (readTextOrNull_ok_iff value found rest).trans (isTextOrNull_iff levels value rest found)
  unfold Draft.member
  by_cases id : name = "userId"
  · subst id
    have taken := (fields levels).atFirst.taken_iff Draft.slots draft
      (fun value id rest shorter => readId_ok_iff (Nat.lt_trans shorter short))
      (fun id => { draft with id := some id }) (fun _ => rfl) next rest
    simp only [readId, bind_assoc, pure_bind] at taken
    rw [if_pos rfl]
    exact taken
  rw [if_neg id]
  by_cases called : name = "userName"
  · subst called
    rw [if_pos rfl]
    exact (fields levels).atSecond.taken_iff Draft.slots draft
      (fun value found rest _ => text_exact value found rest)
      (fun s => { draft with name := some s }) (fun _ => rfl) next rest
  rw [if_neg called]
  by_cases shown : name = "avatar"
  · subst shown
    rw [if_pos rfl]
    exact (fields levels).atThird.taken_iff Draft.slots draft
      (fun value found rest _ => text_exact value found rest)
      (fun s => { draft with avatar := some s }) (fun _ => rfl) next rest
  · rw [if_neg shown]
    exact (fields levels).other_taken_iff Draft.slots draft short id called shown
      (fun value => { draft with extra := Members.insert draft.extra name value }) (fun _ => rfl)
      next rest

theorem readAt_ok_iff (levels : Nat) {fuel : Nat} {text rest : Input} {user : User}
    (enough : text.length < fuel) :
    readAt fuel levels text = .ok (user, rest) ↔
      ∃ inner members slots, skipSpaces text = .char '\x7b' :: inner ∧ Laid true inner members rest ∧
        Folds (fields levels).takes Json.Record.empty members slots ∧ user = ofSlots slots := by
  have taking := member_takes fuel levels
  constructor
  · intro read
    obtain ⟨⟨draft, behind⟩, taken, same⟩ := (bind_ok_iff _ _ _).mp read
    cases same
    obtain ⟨inner, members, opens, laid, folds⟩ := (readObject_ok_iff _ taking enough).mp taken
    exact ⟨inner, members, _, opens, laid, (folds_through Draft.slots _ _ _ _).mp folds, rfl⟩
  · intro given
    obtain ⟨inner, members, slots, opens, laid, folds, rfl⟩ := given
    have folds := (folds_through Draft.slots _ Draft.empty (Draft.slots.symm slots) members).mpr folds
    have taken := (readObject_ok_iff (.record record) taking enough).mpr
      ⟨inner, members, opens, laid, folds⟩
    rw [readAt, taken]
    rfl

end User

namespace Profile

def userReads (one : Member) (user : Option User) : Prop :=
  (IsNull one.value one.rest ∧ user = none) ∨
    ∃ inner members slots, skipSpaces one.value = .char '\x7b' :: inner ∧
      Laid true inner members one.rest ∧
      Folds (User.fields (maxLevels - 2)).takes Json.Record.empty members slots ∧
      user = some (User.ofSlots slots)

theorem readUser_ok_iff {fuel : Nat} {value rest : Input} {user : Option User}
    (enough : value.length < fuel) :
    readOptional (User.readAt fuel (maxLevels - 2)) value = .ok (user, rest) ↔
      userReads ⟨"user", value, rest⟩ user := by
  have short : (skipSpaces value).length < fuel :=
    Nat.lt_of_le_of_lt (skipSpaces_length value) enough
  rw [readOptional_ok_iff]
  unfold userReads
  refine or_congr_right ?_
  constructor
  · intro given
    obtain ⟨_, user, read, rfl⟩ := given
    obtain ⟨inner, members, slots, opens, laid, folds, rfl⟩ := (User.readAt_ok_iff _ short).mp read
    rw [skipSpaces_again] at opens
    exact ⟨inner, members, slots, opens, laid, folds, rfl⟩
  · intro given
    obtain ⟨inner, members, slots, opens, laid, folds, rfl⟩ := given
    have read := (User.readAt_ok_iff (maxLevels - 2) short).mpr
      ⟨inner, members, slots, (skipSpaces_again value).trans opens, laid, folds, rfl⟩
    refine ⟨?_, _, read, rfl⟩
    rw [opens]
    nofun

theorem userReads_sound {one : Member} {user : Option User} (reads : userReads one user) :
    ∃ value, ValueText (maxLevels - 1) one.value value one.rest ∧ userOf value = some user := by
  rcases reads with ⟨null, rfl⟩ | ⟨inner, members, slots, opens, laid, folds, rfl⟩
  · exact ⟨.null, (isNull_iff _ _ _).mp null, rfl⟩
  · obtain ⟨found, rfl, forms⟩ := (User.fields _).values_of_folds folds
    refine ⟨.object _, valueText_object_iff.mpr ⟨inner, found, opens, laid, forms, rfl⟩, ?_⟩
    rw [userOf, User.told_eq (maxLevels - 2), (User.fields _).of_folds forms folds]
    rfl

theorem userReads_complete {one : Member} {value : Value} {user : Option User}
    (form : ValueText (maxLevels - 1) one.value value one.rest)
    (singly : Singly ["userId", "userName", "avatar"] one.value)
    (known : userOf value = some user) : userReads one user := by
  rcases (userOf_iff _ _).mp known with ⟨rfl, rfl⟩ | ⟨members, user, rfl, told, rfl⟩
  · exact Or.inl ⟨(isNull_iff _ _ _).mpr form, rfl⟩
  · obtain ⟨inner, found, opens, laid, forms, rfl⟩ := valueText_object_iff.mp form
    rw [User.told_eq (maxLevels - 2)] at told
    obtain ⟨slots, made, rfl⟩ := Option.map_eq_some_iff.mp told
    have folds := (User.fields (maxLevels - 2)).folds_of (singly _ _ _ opens laid) forms
      ⟨Field.plain_complete _ _ forms, Field.plain_complete _ _ forms,
        Field.plain_complete _ _ forms⟩ made
    exact Or.inr ⟨inner, _, slots, opens, laid, folds, rfl⟩

def fields : Json.Record (maxLevels - 1) (Option User) (List String) (List String) :=
  ⟨⟨"user", userReads, userOf, userReads_sound⟩, .plain _ "roles" textsOf,
    .plain _ "permissions" textsOf, by simp [Field.plain]⟩

def Draft.slots : Draft ≃ Slots (Option User) (List String) (List String) where
  toFun draft := ⟨draft.user, draft.roles, draft.permissions, draft.extra⟩
  invFun slots := ⟨slots.first, slots.second, slots.third, slots.extra⟩
  left_inv _ := rfl
  right_inv _ := rfl

def ofSlots (slots : Slots (Option User) (List String) (List String)) : Profile :=
  (Draft.slots.symm slots).finish

theorem told_eq (members : Members) : told members = (fields.of members).map ofSlots := by
  simp only [told, Json.Record.of, Option.bind_eq_bind, Option.map_bind, Function.comp_def]
  rfl

theorem member_takes (fuel : Nat) :
    Takes (Draft.member fuel) fuel fun draft one next => fields.takes draft.slots one next.slots := by
  intro draft name text next rest short
  have lists (value : Input) (found : List String) (rest : Input)
      (shorter : value.length < text.length) :
      readTextsOrNull fuel value = .ok (found, rest) ↔
        ∃ held, ValueText (maxLevels - 1) value held rest ∧ textsOf held = some found :=
    readTextsOrNull_ok_iff (maxLevels - 2) (Nat.lt_trans shorter short)
  unfold Draft.member
  by_cases signed : name = "user"
  · subst signed
    rw [if_pos rfl]
    exact fields.atFirst.taken_iff Draft.slots draft
      (fun value user rest shorter => readUser_ok_iff (Nat.lt_trans shorter short))
      (fun user => { draft with user := some user }) (fun _ => rfl) next rest
  rw [if_neg signed]
  by_cases roles : name = "roles"
  · subst roles
    have taken := fields.atSecond.taken_iff Draft.slots draft lists
      (fun roles => { draft with roles := some roles }) (fun _ => rfl) next rest
    simp only [readTextsOrNull, bind_assoc, pure_bind] at taken
    rw [if_pos rfl]
    exact taken
  rw [if_neg roles]
  by_cases permissions : name = "permissions"
  · subst permissions
    have taken := fields.atThird.taken_iff Draft.slots draft lists
      (fun permissions => { draft with permissions := some permissions }) (fun _ => rfl) next rest
    simp only [readTextsOrNull, bind_assoc, pure_bind] at taken
    rw [if_pos rfl]
    exact taken
  · rw [if_neg permissions]
    exact fields.other_taken_iff Draft.slots draft short signed roles permissions
      (fun value => { draft with extra := Members.insert draft.extra name value }) (fun _ => rfl)
      next rest

theorem read_ok_iff (text : Input) (p : Profile) :
    read text = .ok p ↔
      ∃ members slots, ObjectText text members ∧
        Folds fields.takes Json.Record.empty members slots ∧ p = ofSlots slots := by
  have enough := Nat.lt_succ_self text.length
  have taking := member_takes (text.length + 1)
  unfold read
  rw [readEntire_ok_iff]
  constructor
  · intro given
    obtain ⟨rest, read, blank⟩ := given
    obtain ⟨⟨draft, behind⟩, taken, same⟩ := (bind_ok_iff _ _ _).mp read
    cases same
    obtain ⟨inner, members, opens, laid, folds⟩ := (readObject_ok_iff _ taking enough).mp taken
    exact ⟨members, _, ⟨inner, rest, opens, laid, blank⟩,
      (folds_through Draft.slots _ _ _ _).mp folds, rfl⟩
  · intro given
    obtain ⟨members, slots, ⟨inner, rest, opens, laid, blank⟩, folds, rfl⟩ := given
    have folds := (folds_through Draft.slots _ Draft.empty (Draft.slots.symm slots) members).mpr folds
    have taken := (readObject_ok_iff (.record record) taking enough).mpr
      ⟨inner, members, opens, laid, folds⟩
    refine ⟨rest, ?_, blank⟩
    rw [readAt, taken]
    rfl

variable {text : Input} {found : List (Member × Value)} {p : Profile}

theorem values_of_read (read : read text = .ok p) :
    ∃ found : List (Member × Value), ObjectText text (found.map Prod.fst) ∧
      ∀ one ∈ found, ValueText (maxLevels - 1) one.1.value one.2 one.1.rest := by
  obtain ⟨members, slots, object, folds, _⟩ := (read_ok_iff _ _).mp read
  obtain ⟨found, rfl, forms⟩ := fields.values_of_folds folds
  exact ⟨found, object, forms⟩

theorem told_of_read (object : ObjectText text (found.map Prod.fst))
    (forms : ∀ one ∈ found, ValueText (maxLevels - 1) one.1.value one.2 one.1.rest)
    (read : read text = .ok p) : told (Members.ofList (found.map named)) = some p := by
  obtain ⟨members, slots, object', folds, rfl⟩ := (read_ok_iff _ _).mp read
  obtain rfl := object.unique object'
  rw [told_eq, fields.of_folds forms folds]
  rfl

theorem read_of_told (object : ObjectText text (found.map Prod.fst))
    (forms : ∀ one ∈ found, ValueText (maxLevels - 1) one.1.value one.2 one.1.rest)
    (once : GivenOnce text) (known : told (Members.ofList (found.map named)) = some p) :
    read text = .ok p := by
  rw [told_eq] at known
  obtain ⟨slots, made, rfl⟩ := Option.map_eq_some_iff.mp known
  have users : fields.first.Complete found := fun one member called _ known =>
    userReads_complete (forms one member)
      (once.ofUser _ object one.1 (List.mem_map_of_mem member) called) known
  have single : ∀ name ∈ fields.names,
      ((found.map Prod.fst).filter fun one => one.name = name).length ≤ 1 :=
    fun name asked => once.fields.members object (.tail _ (.tail _ asked))
  exact (read_ok_iff _ _).mpr ⟨_, slots, object, fields.folds_of single forms
    ⟨users, Field.plain_complete _ _ forms, Field.plain_complete _ _ forms⟩ made, rfl⟩

end Profile

/-! Envelopes -/

namespace Envelope

def codeField (levels : Nat) : Field levels Int :=
  ⟨"code", codeReads, signedOf, (isSigned_iff _ _ _ _).mp⟩

def msgField (levels : Nat) : Field levels (Option String) :=
  ⟨"msg", msgReads, textOrNullOf, (isTextOrNull_iff _ _ _ _).mp⟩

theorem told_iff (levels : Nat) (members : Members) (code : Int) (msg : Option String) :
    told members = some ⟨code, msg⟩ ↔
      (codeField levels).held members = some (some code) ∧
        ∃ said, (msgField levels).held members = some said ∧ msg = said.join := by
  unfold told Field.held codeField msgField
  cases members.get? "code" with
  | none => simp
  | some value =>
    simp only [Option.bind_some, Option.bind_eq_bind, Option.bind_eq_some_iff, Option.some.injEq,
      Envelope.mk.injEq]
    constructor
    · intro given
      obtain ⟨_, made, said, told, rfl, rfl⟩ := given
      exact ⟨by simp [made], said, told, rfl⟩
    · intro given
      obtain ⟨made, said, told, rfl⟩ := given
      exact ⟨code, by simpa using made, said, told, rfl, rfl⟩

variable {levels : Nat} {text : Input} {found : List (Member × Value)} {envelope : Envelope}

theorem told_of_head (object : ObjectText text (found.map Prod.fst))
    (forms : ∀ one ∈ found, ValueText levels one.1.value one.2 one.1.rest)
    (head : HeadText text envelope) :
    told (Members.ofList (found.map named)) = some envelope := by
  cases head with
  | object object' coded told =>
    obtain rfl := object.unique object'
    exact (told_iff levels _ _ _).mpr ⟨(codeField levels).held_of_fills forms coded, _,
      (msgField levels).held_of_fills forms told, rfl⟩
  | single opens =>
    obtain ⟨inner, _, front, _⟩ := object
    cases front.symm.trans opens
  | pair opens =>
    obtain ⟨inner, _, front, _⟩ := object
    cases front.symm.trans opens

theorem head_of_told (object : ObjectText text (found.map Prod.fst))
    (forms : ∀ one ∈ found, ValueText levels one.1.value one.2 one.1.rest)
    (once : GivenOnce text) (known : told (Members.ofList (found.map named)) = some envelope) :
    HeadText text envelope := by
  have coded : (codeField levels).Complete found := fun one member _ _ made =>
    (isSigned_iff levels _ _ _).mpr ⟨one.2, forms one member, made⟩
  have saying : (msgField levels).Complete found := fun one member _ _ made =>
    (isTextOrNull_iff levels _ _ _).mpr ⟨one.2, forms one member, made⟩
  obtain ⟨code, msg⟩ := envelope
  obtain ⟨code, said, msg, rfl⟩ := (told_iff levels _ _ _).mp known
  have codes := once.fields.members object (.head _)
  have messages := once.fields.members object (.tail _ (.head _))
  exact .object object ((codeField levels).fills_of_held codes coded code)
    ((msgField levels).fills_of_held messages saying msg)

end Envelope

/-! Answers -/

/-- What comes of a text whose members are these. -/
def answer (members : Members) : Except Error Profile :=
  match Envelope.told members with
  | none => .error (.parse "")
  | some ⟨code, msg⟩ =>
    if code = 401 then .error (.unauthorized (msg.getD ""))
    else if code ≠ 200 then .error (.server code (msg.getD ""))
    else match Profile.told members with
      | none => .error (.parse "")
      | some p => .ok p

/-- The kind of a failure: what a text was refused for is left aside. -/
def Error.kind : Error → Error
  | .parse _ => .parse ""
  | e => e

theorem openProfile_once {text : Input} {found : List (Member × Value)}
    (object : ObjectText text (found.map Prod.fst))
    (forms : ∀ one ∈ found, ValueText (maxLevels - 1) one.1.value one.2 one.1.rest)
    (once : GivenOnce text) :
    (openEnvelope Profile.read text).mapError Error.kind =
      answer (Members.ofList (found.map named)) := by
  unfold openEnvelope answer
  cases head : Envelope.read text with
  | error e =>
    have checked : checkEnvelope text = .error (.parse e.message) := by
      rw [checkEnvelope, head]
      rfl
    rw [checked]
    cases known : Envelope.told (Members.ofList (found.map named)) with
    | none => rfl
    | some envelope =>
      have read := Envelope.head_of_told object forms once known
      cases head.symm.trans ((Envelope.read_ok_iff _ _).mpr read)
  | ok envelope =>
    have checked : checkEnvelope text = envelope.verdict := by
      rw [checkEnvelope, head]
      rfl
    rw [checked, Envelope.told_of_head object forms ((Envelope.read_ok_iff _ _).mp head)]
    obtain ⟨code, msg⟩ := envelope
    by_cases out : code = 401
    · subst out
      rfl
    by_cases failed : code = 200
    · subst failed
      cases read : Profile.read text with
      | error e =>
        cases known : Profile.told (Members.ofList (found.map named)) with
        | none => rfl
        | some p => cases read.symm.trans (Profile.read_of_told object forms once known)
      | ok p =>
        rw [Profile.told_of_read object forms read]
        rfl
    · have refused : Envelope.verdict ⟨code, msg⟩ = .error (.server code (msg.getD "")) := by
        simp only [Envelope.verdict, Envelope.success, Envelope.signedOut, failed, out, if_false]
      simp only [refused, out, failed, if_false, ne_eq, not_false_eq_true, if_true]
      rfl

theorem answer_of_once {text : Input} {members : Members}
    (read : Json.read text = .ok (.object members)) (once : GivenOnce text) :
    (openEnvelope Profile.read text).mapError Error.kind = answer members := by
  obtain ⟨listed, ⟨found, object, forms, rfl⟩, rfl⟩ := (read_object_iff _ _).mp read
  exact openProfile_once object forms once

theorem members_of_opened {text : Input} {p : Profile}
    (opened : openEnvelope Profile.read text = .ok p) :
    ∃ found : List (Member × Value), ObjectText text (found.map Prod.fst) ∧
      (∀ one ∈ found, ValueText (maxLevels - 1) one.1.value one.2 one.1.rest) ∧
      (∃ msg, Envelope.told (Members.ofList (found.map named)) = some ⟨200, msg⟩) ∧
      Profile.told (Members.ofList (found.map named)) = some p := by
  obtain ⟨⟨msg, head⟩, read⟩ := (openEnvelope_ok_iff _ _ _).mp opened
  obtain ⟨found, object, forms⟩ := Profile.values_of_read read
  exact ⟨found, object, forms, ⟨msg, Envelope.told_of_head object forms head⟩,
    Profile.told_of_read object forms read⟩

theorem told_of_opened {text : Input} {members : Members} {p : Profile}
    (read : Json.read text = .ok (.object members)) (opened : openEnvelope Profile.read text = .ok p) :
    (∃ msg, Envelope.told members = some ⟨200, msg⟩) ∧ Profile.told members = some p := by
  obtain ⟨found, object, forms, head, told⟩ := members_of_opened opened
  have again := (read_object_iff text _).mpr ⟨_, ⟨found, object, forms, rfl⟩, rfl⟩
  cases read.symm.trans again
  exact ⟨head, told⟩

theorem openProfile_eq {text : Input} {found : List (Member × Value)}
    (object : ObjectText text (found.map Prod.fst))
    (forms : ∀ one ∈ found, ValueText (maxLevels - 1) one.1.value one.2 one.1.rest)
    (unrepeated : Unrepeated text) :
    (openEnvelope Profile.read text).mapError Error.kind =
      answer (Members.ofList (found.map named)) :=
  openProfile_once object forms unrepeated.givenOnce

/-- A text is read alike whatever the order of its members. -/
theorem profile_told_by_members {text : Input} {members : Members}
    (read : Json.read text = .ok (.object members)) (unrepeated : Unrepeated text) :
    (openEnvelope Profile.read text).mapError Error.kind = answer members := by
  obtain ⟨listed, ⟨found, object, forms, rfl⟩, rfl⟩ := (read_object_iff _ _).mp read
  exact openProfile_eq object forms unrepeated

def successCode : Value := .number (.integer ⟨200, by decide, by decide⟩)

def seven : Value := .number (.integer ⟨7, by decide, by decide⟩)

def listing : List (String × Value) :=
  [("zone", .boolean true), ("user", .object [("userId", seven), ("team", .text "x\n")]),
    ("code", successCode)]

theorem listing_unrepeated : Unrepeated (Text.symbols (Value.object listing).pretty) := by
  have number n : ReadAs pretty 1 (.number (.integer n)) (.number (.integer n)) :=
    valueText_written pretty_spaced (.number _) (.integer n)
  have text : ReadAs pretty 1 (.text "x\n") (.text "x\n") :=
    valueText_written pretty_spaced (.text _) (.text _)
  have boolean : ReadAs pretty 1 (.boolean true) (.boolean true) :=
    valueText_written pretty_spaced (.boolean _) (.boolean _)
  have inside : ∀ member ∈ [("userId", seven), ("team", .text "x\n")],
      ReadAs pretty 1 member.2 (id member.2) :=
    List.forall_mem_cons.mpr ⟨number _, List.forall_mem_singleton.mpr text⟩
  rw [symbols_pretty]
  refine unrepeated_written pretty_spaced ?_ (by decide) ?_
  · exact List.forall_mem_cons.mpr ⟨boolean.passes, List.forall_mem_cons.mpr
      ⟨(readAs_object pretty_spaced id inside).passes,
        List.forall_mem_singleton.mpr (number _).passes⟩⟩
  · intro user member
    obtain rfl : user = _ := by simpa [listing] using member
    intro text rest
    exact distinct_written pretty_spaced (fun member found => (inside member found).passes) (by decide)

theorem listing_told :
    Unrepeated (Text.symbols (Value.object listing).pretty) ∧
      (openEnvelope Profile.read (Text.symbols (Value.object listing).pretty)).mapError Error.kind =
        .ok ⟨some ⟨some "7", none, none, [("team", .text "x\n")]⟩, [], [],
          [("code", successCode), ("zone", .boolean true)]⟩ := by
  have read : Json.read (Text.symbols (Value.object listing).pretty) =
      .ok (.object [("code", successCode),
        ("user", .object [("team", .text "x\n"), ("userId", seven)]), ("zone", .boolean true)]) := rfl
  exact ⟨listing_unrepeated, (profile_told_by_members read listing_unrepeated).trans rfl⟩

end SessionGate.Remote
