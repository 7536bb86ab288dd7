import SessionGate.Proofs.Remote.Profiles

/- A profile can also be made of a value that is read already. No name is given twice there, and what comes of
   it is what the members tell, as it is for a text. -/
namespace SessionGate

namespace Json

/-! Members that are read already -/

section Steps

variable {ε σ τ ι : Type}

theorem foldlM_toOption (view : σ ≃ τ) {step : σ → ι → Except ε σ} {seen : τ → ι → Option τ}
    {items : List ι}
    (agree : ∀ item ∈ items, ∀ state, (step state item).toOption.map view = seen (view state) item)
    (state : σ) : (items.foldlM step state).toOption.map view = items.foldlM seen (view state) := by
  induction items generalizing state with
  | nil => rfl
  | cons item rest ih =>
    obtain ⟨first, later⟩ := List.forall_mem_cons.mp agree
    rw [List.foldlM_cons, List.foldlM_cons, ← first]
    cases step state item with
    | error e => rfl
    | ok next => exact ih later next

theorem mapM_toOption {α : Type} {step : ι → Except ε α} {seen : ι → Option α}
    (agree : ∀ item, (step item).toOption = seen item) (items : List ι) :
    (items.mapM step).toOption = items.mapM seen := by
  induction items with
  | nil => rfl
  | cons item rest ih =>
    rw [List.mapM_cons, List.mapM_cons, ← agree, ← ih]
    cases step item with
    | error e => rfl
    | ok first => cases rest.mapM step <;> rfl

end Steps

namespace Field

variable {levels : Nat} {α : Type} (field : Field levels α)

/-- What the field makes of the member of its name, or else of what there was before. -/
def heldOr (before : Option α) (members : Members) : Option (Option α) :=
  match Members.get? members field.name with
  | some value => (field.of value).map some
  | none => some before

theorem heldOr_none (members : Members) : field.heldOr none members = field.held members := by
  unfold heldOr held
  cases Members.get? members field.name with
  | none => rfl
  | some value => cases field.of value <;> rfl

theorem heldOr_same (before : Option α) {member : String × Value} (same : member.1 = field.name)
    (rest : Members) : field.heldOr before (member :: rest) = (field.of member.2).map some := by
  obtain ⟨name, value⟩ := member
  simp only at same
  rw [heldOr, ← same, Members.get_cons_same]

theorem heldOr_other (before : Option α) {member : String × Value} (other : member.1 ≠ field.name)
    (rest : Members) : field.heldOr before (member :: rest) = field.heldOr before rest := by
  obtain ⟨name, value⟩ := member
  rw [heldOr, Members.get_cons_other value rest other, heldOr]

theorem heldOr_absent (before : Option α) {members : Members}
    (absent : field.name ∉ members.map Prod.fst) : field.heldOr before members = some before := by
  have none : Members.get? members field.name = none := by
    unfold Members.get?
    rw [Option.map_eq_none_iff, List.find?_eq_none]
    intro member among named
    rw [decide_eq_true_eq] at named
    exact absent (named ▸ List.mem_map_of_mem among)
  rw [heldOr, none]

end Field

namespace Record

variable {levels : Nat} {α β γ : Type} (record : Record levels α β γ)

/-- What a member whose value is known makes of the fields so far. -/
def put (slots : Slots α β γ) (member : String × Value) : Option (Slots α β γ) :=
  if member.1 = record.first.name then
    (record.first.of member.2).map fun a => { slots with first := some a }
  else if member.1 = record.second.name then
    (record.second.of member.2).map fun b => { slots with second := some b }
  else if member.1 = record.third.name then
    (record.third.of member.2).map fun c => { slots with third := some c }
  else some { slots with extra := Members.insert slots.extra member.1 member.2 }

section Cases

variable {slots : Slots α β γ} {member : String × Value}

theorem put_first (first : member.1 = record.first.name) :
    record.put slots member =
      (record.first.of member.2).map fun a => { slots with first := some a } := by
  rw [put, if_pos first]

theorem put_second (second : member.1 = record.second.name) :
    record.put slots member =
      (record.second.of member.2).map fun b => { slots with second := some b } := by
  rw [put, if_neg (second ▸ record.apart.1.symm), if_pos second]

theorem put_third (third : member.1 = record.third.name) :
    record.put slots member =
      (record.third.of member.2).map fun c => { slots with third := some c } := by
  rw [put, if_neg (third ▸ record.apart.2.1.symm), if_neg (third ▸ record.apart.2.2.symm),
    if_pos third]

theorem put_other (first : member.1 ≠ record.first.name) (second : member.1 ≠ record.second.name)
    (third : member.1 ≠ record.third.name) : record.put slots member =
      some { slots with extra := Members.insert slots.extra member.1 member.2 } := by
  rw [put, if_neg first, if_neg second, if_neg third]

end Cases

/-- Members with names of their own settle each field by itself. -/
theorem foldlM_put {members : Members} (distinct : (members.map Prod.fst).Nodup)
    (slots : Slots α β γ) :
    members.foldlM record.put slots = (do
      let first ← record.first.heldOr slots.first members
      let second ← record.second.heldOr slots.second members
      let third ← record.third.heldOr slots.third members
      some ⟨first, second, third,
        Members.insertAll slots.extra (Members.without record.names members)⟩) := by
  induction members generalizing slots with
  | nil => rfl
  | cons member rest ih =>
    obtain ⟨apart, apart', apart''⟩ := record.apart
    obtain ⟨alone, later⟩ := List.nodup_cons.mp distinct
    rw [List.foldlM_cons]
    by_cases first : member.1 = record.first.name
    · have known : member.1 ∈ record.names := by simp [names, first]
      have gone := fun a => record.first.heldOr_absent a (first ▸ alone)
      rw [record.put_first first, record.first.heldOr_same _ first,
        record.second.heldOr_other _ (first ▸ apart), record.third.heldOr_other _ (first ▸ apart'),
        Members.without_cons_known known]
      cases record.first.of member.2 with
      | none => rfl
      | some a => simp [ih later, gone]
    by_cases second : member.1 = record.second.name
    · have known : member.1 ∈ record.names := by simp [names, second]
      have gone := fun b => record.second.heldOr_absent b (second ▸ alone)
      rw [record.put_second second, record.first.heldOr_other _ first,
        record.second.heldOr_same _ second, record.third.heldOr_other _ (second ▸ apart''),
        Members.without_cons_known known]
      cases record.second.of member.2 with
      | none => simp
      | some b => simp [ih later, gone]
    by_cases third : member.1 = record.third.name
    · have known : member.1 ∈ record.names := by simp [names, third]
      have gone := fun c => record.third.heldOr_absent c (third ▸ alone)
      rw [record.put_third third, record.first.heldOr_other _ first,
        record.second.heldOr_other _ second, record.third.heldOr_same _ third,
        Members.without_cons_known known]
      cases record.third.of member.2 with
      | none => simp
      | some c => simp [ih later, gone]
    · have unknown : member.1 ∉ record.names := by simp [names, first, second, third]
      rw [record.put_other first second third, record.first.heldOr_other _ first,
        record.second.heldOr_other _ second, record.third.heldOr_other _ third,
        Members.without_cons_other unknown]
      simp [ih later, Members.insertAll]

theorem foldlM_put_empty {members : Members} (sorted : Members.Sorted members) :
    members.foldlM record.put empty = record.of members := by
  have kept : Members.insertAll [] (Members.without record.names members) =
      Members.without record.names members :=
    Members.ofList_in_order (Members.without_sorted sorted)
  rw [record.foldlM_put (Members.sorted_names sorted)]
  simp only [empty, Field.heldOr_none, kept]
  rfl

end Record

end Json

namespace Remote

open Json

/-! Users and profiles -/

namespace User

theorem idOfValue_told (value : Value) : (idOfValue value).toOption = idOf value := by
  cases value <;> rfl

theorem textOfValue_told (value : Value) : (textOfValue value).toOption = textOrNullOf value := by
  cases value <;> rfl

theorem put_told (levels : Nat) (draft : Draft) (member : String × Value) :
    (Draft.put draft member.1 member.2).toOption.map Draft.slots =
      (fields levels).put draft.slots member := by
  have ids : (fields levels).first.of member.2 = (idOfValue member.2).toOption :=
    (idOfValue_told member.2).symm
  have names : (fields levels).second.of member.2 = (textOfValue member.2).toOption :=
    (textOfValue_told member.2).symm
  have avatars : (fields levels).third.of member.2 = (textOfValue member.2).toOption :=
    (textOfValue_told member.2).symm
  unfold Draft.put
  by_cases id : member.1 = "userId"
  · rw [(fields levels).put_first id, ids, if_pos id]
    cases idOfValue member.2 <;> rfl
  by_cases called : member.1 = "userName"
  · rw [(fields levels).put_second called, names, if_neg id, if_pos called]
    cases textOfValue member.2 <;> rfl
  by_cases shown : member.1 = "avatar"
  · rw [(fields levels).put_third shown, avatars, if_neg id, if_neg called, if_pos shown]
    cases textOfValue member.2 <;> rfl
  · rw [(fields levels).put_other id called shown, if_neg id, if_neg called, if_neg shown]
    rfl

theorem ofValue_told {members : Members} (sorted : Members.Sorted members) :
    (ofValue (.object members)).toOption = told members := by
  have steps : ∀ member ∈ members, ∀ draft, (Draft.put draft member.1 member.2).toOption.map Draft.slots =
      (fields 0).put draft.slots member := fun member _ draft => put_told 0 draft member
  have folded := foldlM_toOption Draft.slots steps Draft.empty
  have made : members.foldlM (fields 0).put (Draft.slots .empty) = (fields 0).of members :=
    (fields 0).foldlM_put_empty sorted
  rw [told_eq 0, ← made, ← folded]
  simp only [ofValue]
  cases members.foldlM (fun draft member => Draft.put draft member.1 member.2) Draft.empty <;> rfl

end User

namespace Profile

theorem userOfValue_told {levels : Nat} {value : Value} (fits : value.Fits levels) :
    (userOfValue value).toOption = userOf value := by
  cases fits with
  | object sorted _ =>
    rw [userOf, ← User.ofValue_told sorted]
    simp only [userOfValue]
    cases User.ofValue _ <;> rfl
  | _ => rfl

theorem textsOfValue_told (value : Value) : (textsOfValue value).toOption = textsOf value := by
  cases value with
  | array items =>
    refine mapM_toOption (fun item => ?_) items
    cases item <;> rfl
  | _ => rfl

theorem put_told {levels : Nat} {member : String × Value} (fits : member.2.Fits levels)
    (draft : Draft) :
    (Draft.put draft member.1 member.2).toOption.map Draft.slots = fields.put draft.slots member := by
  have users : fields.first.of member.2 = (userOfValue member.2).toOption :=
    (userOfValue_told fits).symm
  have roles : fields.second.of member.2 = (textsOfValue member.2).toOption :=
    (textsOfValue_told member.2).symm
  have permissions : fields.third.of member.2 = (textsOfValue member.2).toOption :=
    (textsOfValue_told member.2).symm
  unfold Draft.put
  by_cases signed : member.1 = "user"
  · rw [fields.put_first signed, users, if_pos signed]
    cases userOfValue member.2 <;> rfl
  by_cases first : member.1 = "roles"
  · rw [fields.put_second first, roles, if_neg signed, if_pos first]
    cases textsOfValue member.2 <;> rfl
  by_cases second : member.1 = "permissions"
  · rw [fields.put_third second, permissions, if_neg signed, if_neg first, if_pos second]
    cases textsOfValue member.2 <;> rfl
  · rw [fields.put_other signed first second, if_neg signed, if_neg first, if_neg second]
    rfl

theorem ofValue_told {levels : Nat} {members : Members} (fits : (Value.object members).Fits levels) :
    (ofValue (.object members)).toOption = told members := by
  cases fits with
  | object sorted each =>
    have folded := foldlM_toOption Draft.slots
      (fun member among draft => put_told (each member among) draft) Draft.empty
    have made : members.foldlM fields.put (Draft.slots .empty) = fields.of members :=
      fields.foldlM_put_empty sorted
    rw [told_eq, ← made, ← folded]
    simp only [ofValue]
    cases members.foldlM (fun draft member => Draft.put draft member.1 member.2) Draft.empty <;> rfl

theorem ofValue_ok_iff {levels : Nat} {members : Members} (fits : (Value.object members).Fits levels)
    (p : Profile) : ofValue (.object members) = .ok p ↔ told members = some p := by
  rw [← ofValue_told fits]
  cases ofValue (.object members) <;> simp [Except.toOption]

end Profile

end Remote

end SessionGate
