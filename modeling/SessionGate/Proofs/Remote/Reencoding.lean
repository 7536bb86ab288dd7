import SessionGate.Proofs.Remote.Profiles

/- A profile that is written and read again. What it keeps beside its own fields is in the order of
   names, and none of it has the name of a field, so that no field is given twice where it is written;
   its envelope is among what it keeps. -/
namespace SessionGate.Remote

open Json

/-! What is kept -/

/-- Members that are kept beside fields of these names, in values of at most so many levels. -/
structure Keeps (names : List String) (levels : Nat) (extra : Members) : Prop where
  sorted : extra.Sorted
  apart : ∀ member ∈ extra, member.1 ∉ names
  fits : ∀ member ∈ extra, member.2.Fits levels

theorem keeps_without (names : List String) {levels : Nat} {members : Members}
    (sorted : members.Sorted) (fits : ∀ member ∈ members, member.2.Fits levels) :
    Keeps names levels (members.without names) :=
  ⟨Members.without_sorted sorted, fun _ => Members.not_mem_of_without,
    fun member found => fits member (List.mem_filter.mp found).1⟩

section Fields

variable {fields : List (String × Value)} {levels : Nat} {extra : Members}

theorem names_distinct (apart : (fields.map Prod.fst).Nodup)
    (keeps : Keeps (fields.map Prod.fst) levels extra) :
    ((fields ++ extra).map Prod.fst).Nodup := by
  rw [List.map_append]
  refine List.nodup_append.mpr ⟨apart, Members.sorted_names keeps.sorted, ?_⟩
  intro name field other found same
  obtain ⟨member, among, rfl⟩ := List.mem_map.mp found
  exact keeps.apart member among (same ▸ field)

theorem get_field (apart : (fields.map Prod.fst).Nodup)
    (keeps : Keeps (fields.map Prod.fst) levels extra) {name : String} {value : Value}
    (field : (name, value) ∈ fields) :
    (Members.ofList (fields ++ extra)).get? name = some value :=
  Members.get_ofList (names_distinct apart keeps) (List.mem_append_left extra field)

theorem without_fields (keeps : Keeps (fields.map Prod.fst) levels extra) :
    (Members.ofList (fields ++ extra)).without (fields.map Prod.fst) = extra := by
  have none : Members.without (fields.map Prod.fst) fields = [] := by
    unfold Members.without
    rw [List.filter_eq_nil_iff]
    intro member field
    simpa using List.mem_map_of_mem (f := Prod.fst) field
  have all : Members.without (fields.map Prod.fst) extra = extra :=
    Members.without_eq_self keeps.apart
  have rest : Members.without (fields.map Prod.fst) (fields ++ extra) = extra := by
    unfold Members.without at none all ⊢
    rw [List.filter_append, none, all, List.nil_append]
  rw [Members.without_ofList, rest, Members.ofList_in_order keeps.sorted]

end Fields

/-! Users -/

theorem textOrNullOf_optionalText (s : Option String) :
    textOrNullOf (optionalText s) = some s := by
  cases s <;> rfl

theorem idOf_optionalText (s : Option String) : idOf (optionalText s) = some s := by
  cases s <;> rfl

namespace User

def fieldNames : List String := ["userId", "userName", "avatar"]

def written (u : User) : List (String × Value) :=
  [("userId", optionalText u.id), ("userName", optionalText u.name), ("avatar", optionalText u.avatar)]

def Kept (levels : Nat) (u : User) : Prop := Keeps fieldNames levels u.extra

theorem kept_of_told {levels : Nat} {members : Members} {u : User} (sorted : members.Sorted)
    (fits : ∀ member ∈ members, member.2.Fits levels) (known : told members = some u) :
    u.Kept levels := by
  simp only [told, Option.bind_eq_bind, Option.bind_eq_some_iff, Option.some.injEq] at known
  obtain ⟨_, _, _, _, _, _, rfl⟩ := known
  exact keeps_without fieldNames sorted fits

theorem told_written {levels : Nat} {u : User} (kept : u.Kept levels) :
    told (Members.ofList (u.written ++ u.extra)) = some u := by
  have apart : (u.written.map Prod.fst).Nodup := show fieldNames.Nodup by decide
  have keeps : Keeps (u.written.map Prod.fst) levels u.extra := kept
  have id : Members.get? _ "userId" = some (optionalText u.id) := get_field apart keeps (.head _)
  have name : Members.get? _ "userName" = some (optionalText u.name) :=
    get_field apart keeps (.tail _ (.head _))
  have avatar : Members.get? _ "avatar" = some (optionalText u.avatar) :=
    get_field apart keeps (.tail _ (.tail _ (.head _)))
  have rest : Members.without ["userId", "userName", "avatar"] _ = u.extra := without_fields keeps
  simp only [told, id, name, avatar, rest, Option.mapM_some, idOf_optionalText,
    textOrNullOf_optionalText]
  rfl

end User

namespace Profile

def fieldNames : List String := ["user", "roles", "permissions"]

/-- The fields of a profile as they are written, the user with its members in the given order. -/
def written (order : List (String × Value) → List (String × Value)) (p : Profile) :
    List (String × Value) :=
  [("user", (p.user.map fun u => .object (order (u.written ++ u.extra))).getD .null),
    ("roles", texts p.roles), ("permissions", texts p.permissions)]

structure Kept (p : Profile) : Prop where
  extra : Keeps fieldNames (maxLevels - 1) p.extra
  user : ∀ u, p.user = some u → u.Kept (maxLevels - 2)

theorem kept_of_told {members : Members} {p : Profile} (sorted : members.Sorted)
    (fits : ∀ member ∈ members, member.2.Fits (maxLevels - 1)) (known : told members = some p) :
    p.Kept := by
  simp only [told, Option.bind_eq_bind, Option.bind_eq_some_iff, Option.some.injEq] at known
  obtain ⟨user, held, _, _, _, _, rfl⟩ := known
  refine ⟨keeps_without fieldNames sorted fits, fun u same => ?_⟩
  obtain rfl : user = some (some u) := by
    cases user with
    | none => cases same
    | some user => exact congrArg some same
  cases found : members.get? "user" with
  | none =>
    rw [found] at held
    cases held
  | some value =>
    rw [found] at held
    obtain ⟨_, made, same⟩ := Option.map_eq_some_iff.mp held
    cases same
    rcases (userOf_iff _ _).mp made with ⟨_, absent⟩ | ⟨inside, user, rfl, told, same⟩
    · cases absent
    · cases same
      have whole := fits _ (Members.mem_of_get found)
      have whole : (Value.object inside).Fits (maxLevels - 2 + 1) := whole
      cases whole with
      | object sorted each => exact User.kept_of_told sorted each told

theorem extra_of_told {members : Members} {p : Profile} (known : told members = some p) :
    p.extra = members.without fieldNames := by
  simp only [told, Option.bind_eq_bind, Option.bind_eq_some_iff, Option.some.injEq] at known
  obtain ⟨_, _, _, _, _, _, rfl⟩ := known
  rfl

theorem textsOf_texts (found : List String) : textsOf (texts found) = some found :=
  (textsOf_iff _ _).mpr (Or.inr rfl)

theorem told_written {p : Profile} (kept : p.Kept) :
    told (Members.ofList (p.written Members.ofList ++ p.extra)) = some p := by
  have apart : ((p.written Members.ofList).map Prod.fst).Nodup := show fieldNames.Nodup by decide
  have keeps : Keeps ((p.written Members.ofList).map Prod.fst) (maxLevels - 1) p.extra := kept.extra
  have user : Members.get? _ "user" = some _ := get_field apart keeps (.head _)
  have roles : Members.get? _ "roles" = some (texts p.roles) :=
    get_field apart keeps (.tail _ (.head _))
  have permissions : Members.get? _ "permissions" = some (texts p.permissions) :=
    get_field apart keeps (.tail _ (.tail _ (.head _)))
  have rest : Members.without ["user", "roles", "permissions"] _ = p.extra := without_fields keeps
  have inside : userOf ((p.user.map fun u =>
      .object (Members.ofList (u.written ++ u.extra))).getD .null) = some p.user := by
    cases signed : p.user with
    | none => rfl
    | some u =>
      have known := User.told_written (kept.user u signed)
      simp only [Option.map_some, Option.getD_some, userOf, known]
  simp only [told, user, roles, permissions, rest, Option.mapM_some, inside, textsOf_texts]
  rfl

end Profile

theorem Envelope.told_without (members : Members) :
    Envelope.told (members.without Profile.fieldNames) = Envelope.told members := by
  have code : "code" ∉ Profile.fieldNames := by decide
  have msg : "msg" ∉ Profile.fieldNames := by decide
  unfold Envelope.told
  rw [Members.get_without_other code, Members.get_without_other msg]

/-! Texts that are written -/

/-- The value in the order of its names, as far as it is an object. -/
def settled : Value → Value
  | .object members => .object (Members.ofList members)
  | value => value

theorem settled_of_fits {levels : Nat} {value : Value} (fits : value.Fits levels) :
    settled value = value := by
  cases fits with
  | object sorted => exact congrArg Value.object (Members.ofList_in_order sorted)
  | _ => rfl

theorem settled_members {p : Profile} (kept : p.Kept) :
    readMembersAs settled (p.written id ++ p.extra) = p.written Members.ofList ++ p.extra := by
  have fields : readMembersAs settled (p.written id) = p.written Members.ofList := by
    unfold Profile.written readMembersAs
    cases p.user <;> rfl
  have extra : readMembersAs settled p.extra = p.extra := by
    refine (List.map_congr_left fun member found => ?_).trans (List.map_id _)
    rw [settled_of_fits (kept.extra.fits member found)]
    rfl
  unfold readMembersAs at fields extra ⊢
  rw [List.map_append, fields, extra]

theorem optionalText_fits (levels : Nat) (s : Option String) : (optionalText s).Fits levels := by
  cases s <;> constructor

theorem optionalText_whole (s : Option String) : (optionalText s).Whole := by
  cases s <;> constructor

def User.Whole (u : User) : Prop := ∀ member ∈ u.extra, member.2.Whole

/-- Nothing that the profile or its user keeps has a double in it. -/
structure Profile.Whole (p : Profile) : Prop where
  extra : ∀ member ∈ p.extra, member.2.Whole
  user : ∀ u, p.user = some u → u.Whole

section Written

variable {layout : Layout} (spaced : layout.Spaced)

include spaced

theorem User.reads_members {levels : Nat} {u : User} (kept : u.Kept levels) (whole : u.Whole) :
    ∀ member ∈ u.written ++ u.extra, ReadAs layout levels member.2 member.2 := by
  refine List.forall_mem_append.mpr ⟨?_, fun member found =>
    valueText_written spaced (kept.fits member found) (whole member found)⟩
  have optional s : ReadAs layout levels (optionalText s) (optionalText s) :=
    valueText_written spaced (optionalText_fits levels s) (optionalText_whole s)
  simp [User.written, optional]

theorem User.distinct_written {levels : Nat} {u : User} (kept : u.Kept levels) (whole : u.Whole)
    {text rest : Input} (written : Written layout (.object (u.written ++ u.extra)) text rest) :
    Distinct text := by
  have passes member found := (User.reads_members spaced kept whole member found).passes
  have apart : (u.written.map Prod.fst).Nodup := show User.fieldNames.Nodup by decide
  exact Json.distinct_written spaced passes (names_distinct apart kept) written

theorem distinct_null {text rest : Input} (written : Written layout .null text rest) :
    Distinct text := by
  have null := (isNull_iff 0 _ _).mpr (valueText_written spaced .null .null text rest written)
  intro inner members final opens
  cases opens.symm.trans (show skipSpaces text = _ from null)

namespace Profile

variable {p : Profile} (kept : p.Kept) (whole : p.Whole)

include kept whole

theorem reads_members : ∀ member ∈ p.written id ++ p.extra,
    ReadAs layout (maxLevels - 1) member.2 (settled member.2) := by
  refine List.forall_mem_append.mpr ⟨?_, fun member found => ?_⟩
  · have lists found : ReadAs layout (maxLevels - 1) (texts found) (settled (texts found)) := by
      have exact := exact_texts (maxLevels - 2) found
      exact valueText_written spaced exact.fits exact.whole
    simp only [written, List.forall_mem_cons, lists, List.not_mem_nil, false_implies, implies_true,
      and_true]
    cases signed : p.user with
    | none => exact valueText_written spaced .null .null
    | some u =>
      have form := readAs_object spaced id
        (User.reads_members spaced (kept.user u signed) (whole.user u signed))
      rw [readMembersAs_id] at form
      exact form
  · rw [settled_of_fits (kept.extra.fits member found)]
    exact valueText_written spaced (kept.extra.fits member found) (whole.extra member found)

theorem unrepeated_written :
    Unrepeated ((layout.value 0 (.object (p.written id ++ p.extra))).map .char) := by
  have apart : ((p.written id).map Prod.fst).Nodup := show fieldNames.Nodup by decide
  refine Remote.unrepeated_written spaced
    (fun member found => (reads_members spaced kept whole member found).passes)
    (names_distinct apart kept.extra) ?_
  intro user member text rest form
  rcases List.mem_append.mp member with field | other
  · obtain rfl : user = _ := by simpa [written] using field
    cases signed : p.user with
    | none =>
      rw [signed] at form
      exact distinct_null spaced form
    | some u =>
      rw [signed] at form
      exact User.distinct_written spaced (kept.user u signed) (whole.user u signed) form
  · exact absurd (.head _) (kept.extra.apart _ other)

theorem opens_written {msg : Option String} (head : Envelope.told p.extra = some ⟨200, msg⟩) :
    openEnvelope read ((layout.value 0 p.toValue).map .char) = .ok p := by
  obtain ⟨found, object, forms, listed⟩ :=
    documentText_read spaced settled (reads_members spaced kept whole)
  have same := openProfile_eq object forms (unrepeated_written spaced kept whole)
  rw [listed, settled_members kept] at same
  have envelope : Envelope.told (Members.ofList (p.written Members.ofList ++ p.extra)) =
      some ⟨200, msg⟩ := by
    rw [← Envelope.told_without, ← head]
    have keeps : Keeps ((p.written Members.ofList).map Prod.fst) _ p.extra := kept.extra
    exact congrArg Envelope.told (without_fields keeps)
  have answered : answer (Members.ofList (p.written Members.ofList ++ p.extra)) = .ok p := by
    simp only [answer, envelope, told_written kept]
    rfl
  exact ok_of_mapError (same.trans answered)

end Profile

end Written

/-! Profiles that were read -/

theorem kept_of_opened {text : Input} {p : Profile}
    (opened : openEnvelope Profile.read text = .ok p) :
    p.Kept ∧ ∃ msg, Envelope.told p.extra = some ⟨200, msg⟩ := by
  obtain ⟨found, object, forms, ⟨msg, head⟩, known⟩ := members_of_opened opened
  have fits : ∀ member ∈ Members.ofList (found.map named), member.2.Fits (maxLevels - 1) := by
    intro member among
    obtain ⟨one, present, rfl⟩ := List.mem_map.mp (Members.mem_ofList among)
    exact (forms one present).fits
  refine ⟨Profile.kept_of_told (Members.ofList_sorted _) fits known, msg, ?_⟩
  rw [Profile.extra_of_told known, Envelope.told_without]
  exact head

theorem code_of_told {members : Members} {msg : Option String}
    (told : Envelope.told members = some ⟨200, msg⟩) :
    members.get? "code" = some successCode := by
  simp only [Envelope.told, Option.bind_eq_bind, Option.bind_eq_some_iff, Option.some.injEq,
    Envelope.mk.injEq] at told
  obtain ⟨_, ⟨value, found, signed⟩, _, _, rfl, _⟩ := told
  obtain ⟨⟨n, least, greatest⟩, rfl, rfl, _⟩ := (signedOf_iff _ _).mp signed
  exact found

def reencode (write : Value → String) (text : Input) : Except Error String :=
  (openEnvelope Profile.read text).map fun p => write p.toValue

theorem profile_survives_reencoding {text : Input} {p : Profile}
    (opened : openEnvelope Profile.read text = .ok p) (whole : p.Whole) :
    p.extra.get? "code" = some successCode ∧
      (∀ member ∈ p.extra, member.1 ∉ ["user", "roles", "permissions"]) ∧
      (∀ u, p.user = some u → ∀ member ∈ u.extra, member.1 ∉ ["userId", "userName", "avatar"]) ∧
      ∀ write ∈ [Value.compact, Value.pretty],
        openEnvelope Profile.read (Text.symbols (write p.toValue)) = .ok p ∧
          ∀ s, reencode write text = .ok s → reencode write (Text.symbols s) = .ok s := by
  obtain ⟨kept, msg, head⟩ := kept_of_opened opened
  refine ⟨code_of_told head, kept.extra.apart, fun u same => (kept.user u same).apart, ?_⟩
  intro write member
  have again : openEnvelope Profile.read (Text.symbols (write p.toValue)) = .ok p := by
    simp only [List.mem_cons, List.not_mem_nil, or_false] at member
    rcases member with rfl | rfl
    · rw [symbols_compact]
      exact Profile.opens_written compact_spaced kept whole head
    · rw [symbols_pretty]
      exact Profile.opens_written pretty_spaced kept whole head
  refine ⟨again, fun s written => ?_⟩
  rw [reencode, opened] at written
  cases written
  rw [reencode, again]
  rfl

def disordered : Input :=
  Text.symbols ("\x7b\"zone\":1,\"user\":\x7b\"userId\":7,\"team\":null,\"team\":\"x\"\x7d," ++
    "\"code\":200,\"zone\":[true]\x7d")

def reordered : Profile :=
  ⟨some ⟨some "7", none, none, [("team", .text "x")]⟩, [], [],
    [("code", successCode), ("zone", .array [.boolean true])]⟩

theorem reordered_survives_reencoding :
    openEnvelope Profile.read disordered = .ok reordered ∧ reordered.Whole ∧
      openEnvelope Profile.read (Text.symbols reordered.toValue.pretty) = .ok reordered := by
  have opened : openEnvelope Profile.read disordered = .ok reordered := rfl
  have whole : reordered.Whole := by
    constructor
    · have list : Value.Whole (.array [.boolean true]) :=
        .array (List.forall_mem_singleton.mpr (.boolean true))
      exact List.forall_mem_cons.mpr ⟨.integer _, List.forall_mem_singleton.mpr list⟩
    · intro u same
      cases same
      exact List.forall_mem_singleton.mpr (.text "x")
  obtain ⟨_, _, _, again⟩ := profile_survives_reencoding opened whole
  exact ⟨opened, whole, (again Value.pretty (.tail _ (.head _))).1⟩

end SessionGate.Remote
