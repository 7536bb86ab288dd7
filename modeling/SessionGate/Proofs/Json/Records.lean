import Mathlib.Data.List.Nodup
import Mathlib.Logic.Equiv.Defs
import SessionGate.Proofs.Json.Grammar

/- Records that are read from objects: fields that are looked up by name, each given once at most, and
   the other members as they are. A reader takes the members in the order of the text. What it makes of
   them is told from the value of the object alone, where no such order is left. -/
namespace SessionGate.Json

/-! Values of one form -/

def signedOf : Value → Option Int
  | .number (.integer n) => if n.val < signedBound then some n.val else none
  | _ => none

def textOf : Value → Option String
  | .text s => some s
  | _ => none

def textOrNullOf : Value → Option (Option String)
  | .null => some none
  | value => (textOf value).map some

def textsOf : Value → Option (List String)
  | .null => some []
  | .array items => items.mapM textOf
  | _ => none

section Forms

variable (levels : Nat) (value rest : Input)

theorem isNull_iff : IsNull value rest ↔ ValueText levels value .null rest := by
  constructor
  · intro null
    refine .scalar ?_
    rw [show skipSpaces value = _ from null]
    exact .null
  · intro form
    cases form with
    | scalar scalar =>
      show skipSpaces value = _
      generalize skipSpaces value = front at scalar
      cases scalar
      rfl

theorem isText_iff (s : String) : IsText value s rest ↔ ValueText levels value (.text s) rest := by
  unfold IsText
  constructor
  · intro given
    obtain ⟨inner, front, string⟩ := given
    refine .scalar ?_
    rw [front]
    exact .text string
  · intro form
    cases form with
    | scalar scalar =>
      generalize skipSpaces value = front at scalar ⊢
      cases scalar with
      | text string => exact ⟨_, rfl, string⟩

theorem isInteger_iff (n : Integer) :
    IntegerText (skipSpaces value) n.val rest ↔
      ValueText levels value (.number (.integer n)) rest := by
  rw [← readScalar_integer_iff, readScalar_ok_iff]
  constructor
  · exact .scalar
  · intro form
    cases form with
    | scalar scalar => exact scalar

theorem signedOf_iff (value : Value) (n : Int) :
    signedOf value = some n ↔
      ∃ k : Integer, value = .number (.integer k) ∧ k.val = n ∧ n < signedBound := by
  constructor
  · intro known
    match value with
    | .number (.integer k) =>
      simp only [signedOf] at known
      split at known
      · rename_i below
        cases known
        exact ⟨k, rfl, rfl, below⟩
      · cases known
  · intro given
    obtain ⟨k, rfl, rfl, below⟩ := given
    exact if_pos below

theorem isSigned_iff (n : Int) :
    IsSigned value n rest ↔ ∃ found, ValueText levels value found rest ∧ signedOf found = some n := by
  constructor
  · intro signed
    obtain ⟨integer, least, below⟩ := signed
    have greatest : n < unsignedBound := by
      simp only [signedBound, unsignedBound] at below ⊢
      omega
    exact ⟨_, (isInteger_iff levels value rest ⟨n, least, greatest⟩).mp integer, if_pos below⟩
  · intro given
    obtain ⟨found, form, known⟩ := given
    obtain ⟨k, rfl, rfl, below⟩ := (signedOf_iff _ _).mp known
    exact ⟨(isInteger_iff levels value rest k).mpr form, k.least, below⟩

theorem textOrNullOf_iff (value : Value) (found : Option String) :
    textOrNullOf value = some found ↔
      (value = .null ∧ found = none) ∨ ∃ s, value = .text s ∧ found = some s := by
  cases value <;> simp [textOrNullOf, textOf, eq_comm]

theorem isTextOrNull_iff (found : Option String) :
    IsTextOrNull value found rest ↔
      ∃ held, ValueText levels value held rest ∧ textOrNullOf held = some found := by
  constructor
  · intro form
    cases found with
    | none => exact ⟨.null, (isNull_iff levels value rest).mp form, rfl⟩
    | some s => exact ⟨.text s, (isText_iff levels value rest s).mp form, rfl⟩
  · intro given
    obtain ⟨held, form, known⟩ := given
    rcases (textOrNullOf_iff _ _).mp known with ⟨rfl, rfl⟩ | ⟨s, rfl, rfl⟩
    · exact (isNull_iff levels value rest).mpr form
    · exact (isText_iff levels value rest s).mpr form

end Forms

/-! Lists of texts -/

theorem mapM_textOf_iff (items : List Value) (found : List String) :
    items.mapM textOf = some found ↔ items = found.map .text := by
  induction items generalizing found with
  | nil => simp [eq_comm]
  | cons item rest ih =>
    cases item with
    | text s =>
      simp only [List.mapM_cons, textOf, Option.pure_def, Option.bind_eq_bind, Option.bind_some,
        Option.bind_eq_some_iff, ih]
      constructor
      · intro given
        obtain ⟨more, rfl, same⟩ := given
        cases same
        rfl
      · intro same
        obtain ⟨first, more, rfl, head, tail⟩ := List.map_eq_cons_iff.mp same.symm
        cases head
        exact ⟨more, tail.symm, rfl⟩
    | _ => cases found <;> simp [textOf]

theorem textsOf_iff (value : Value) (found : List String) :
    textsOf value = some found ↔ (value = .null ∧ found = []) ∨ value = texts found := by
  cases value <;> simp [textsOf, texts, mapM_textOf_iff, eq_comm]

theorem items_of_texts {items : List (Item × Value)} {found : List String}
    (listed : items.map Prod.snd = found.map .text) :
    ∃ texts : List (Item × String), items = texts.map (Prod.map id .text) ∧
      texts.map Prod.snd = found := by
  have same : items = (items.map Prod.fst).zip (found.map .text) := List.zip_of_prod rfl listed
  have length : found.length ≤ (items.map Prod.fst).length := by
    have both := congrArg List.length listed
    simp only [List.length_map] at both ⊢
    omega
  rw [List.zip_map_right] at same
  exact ⟨_, same, List.map_snd_zip length⟩

theorem readTexts_ok_iff (levels : Nat) {fuel : Nat} {value rest : Input} {found : List String}
    (enough : value.length < fuel) :
    readTexts fuel value = .ok (found, rest) ↔ ValueText (levels + 1) value (texts found) rest := by
  have items {inner : Input} (short : inner.length < fuel) :
      readItems readText fuel true inner = .ok (found, rest) ↔
        ∃ items : List (Item × String), Lined true inner (items.map Prod.fst) rest ∧
          items.map Prod.snd = found ∧ ∀ one ∈ items, IsText one.1.value one.2 one.1.rest :=
    readItems_ok_iff (fun text s rest _ => readText_ok_iff text s rest)
      (fun _ _ _ text => text.skipped) fuel (Nat.le_refl inner.length) short
  unfold readTexts
  constructor
  · intro read
    split at read
    · rename_i inner opens
      have shorter := skipSpaces_front opens
      obtain ⟨each, lined, rfl, forms⟩ := (items (by omega)).mp read
      have lined' : Lined true inner ((each.map (Prod.map id Value.text)).map Prod.fst) rest := by
        rw [List.map_map]
        exact lined
      refine .array opens lined' ?_ (by simp [Function.comp_def])
      intro one member
      obtain ⟨text, among, rfl⟩ := List.mem_map.mp member
      exact (isText_iff _ _ _ _).mp (forms text among)
    · exact absurd read (refuse_fails _ _ _)
  · intro form
    cases form with
    | scalar scalar =>
      generalize skipSpaces value = front at scalar
      cases scalar
    | array opens lined each listed =>
      have shorter := skipSpaces_front opens
      obtain ⟨found, rfl, rfl⟩ := items_of_texts listed
      rw [List.map_map] at lined
      rw [opens]
      refine (items (by omega)).mpr ⟨found, lined, rfl, ?_⟩
      intro one member
      exact (isText_iff _ _ _ _).mpr (each _ (List.mem_map_of_mem member))

def readTextsOrNull (fuel : Nat) (value : Input) : Except Error (List String × Input) :=
  readOptional (readTexts fuel) value >>= fun read => pure (read.1.getD [], read.2)

theorem readTextsOrNull_ok_iff (levels : Nat) {fuel : Nat} {value rest : Input}
    {found : List String} (enough : value.length < fuel) :
    readTextsOrNull fuel value = .ok (found, rest) ↔
      ∃ held, ValueText (levels + 1) value held rest ∧ textsOf held = some found := by
  unfold readTextsOrNull
  have short : (skipSpaces value).length < fuel :=
    Nat.lt_of_le_of_lt (skipSpaces_length value) enough
  constructor
  · intro read
    obtain ⟨⟨known, behind⟩, given, same⟩ := (bind_ok_iff _ _ _).mp read
    cases same
    rcases (readOptional_ok_iff _ _ _ _).mp given with ⟨null, rfl⟩ | ⟨_, listed, items, rfl⟩
    · exact ⟨.null, (isNull_iff _ _ _).mp null, rfl⟩
    · have form := valueText_behind_spaces.mp ((readTexts_ok_iff levels short).mp items)
      exact ⟨texts listed, form, (textsOf_iff _ _).mpr (Or.inr rfl)⟩
  · intro given
    obtain ⟨held, form, known⟩ := given
    rcases (textsOf_iff _ _).mp known with ⟨rfl, rfl⟩ | rfl
    · have null := (isNull_iff _ _ _).mpr form
      rw [(readOptional_ok_iff (readTexts fuel) _ _ _).mpr (Or.inl ⟨null, rfl⟩), ok_bind]
      rfl
    · have read := (readTexts_ok_iff levels short).mpr (valueText_behind_spaces.mpr form)
      have apart : ∀ behind, skipSpaces value ≠ .char 'n' :: behind := by
        cases form with
        | scalar scalar =>
          generalize skipSpaces value = front at scalar
          cases scalar
        | array opens =>
          rw [opens]
          nofun
      rw [(readOptional_ok_iff _ _ _ _).mpr (Or.inr ⟨apart, found, read, rfl⟩), ok_bind]
      rfl

/-! Two views of one state -/

section Views

variable {σ τ : Type} (view : σ ≃ τ)

theorem sets_through {α : Type} (reads : Member → α → Prop) (field : Option α) (build : α → σ)
    (one : Member) (next : σ) :
    Sets reads field build one next ↔
      Sets reads field (fun a => view (build a)) one (view next) := by
  unfold Sets
  simp only [view.injective.eq_iff]

theorem folds_through (takes : τ → Member → τ → Prop) (state final : σ) (members : List Member) :
    Folds (fun state one next => takes (view state) one (view next)) state members final ↔
      Folds takes (view state) members (view final) := by
  induction members generalizing state with
  | nil => exact view.injective.eq_iff.symm
  | cons one others ih =>
    simp only [Folds, ih]
    exact (view.surjective.exists
      (p := fun next => takes (view state) one next ∧ Folds takes next others (view final))).symm

end Views

/-! Members by name -/

def Singly (names : List String) (text : Input) : Prop :=
  ∀ inner members rest, skipSpaces text = .char '\x7b' :: inner → Laid true inner members rest →
    ∀ name ∈ names, (members.filter fun one => one.name = name).length ≤ 1

theorem Distinct.singly {text : Input} (distinct : Distinct text) (names : List String) :
    Singly names text := by
  intro inner members rest opens laid name _
  have counted := List.nodup_iff_count_le_one.mp (distinct inner members rest opens laid) name
  rw [List.count_eq_countP, List.countP_map, List.countP_eq_length_filter] at counted
  exact counted

theorem Singly.members {names : List String} {text : Input} {members : List Member}
    (singly : Singly names text) (object : ObjectText text members) {name : String}
    (asked : name ∈ names) : (members.filter fun one => one.name = name).length ≤ 1 := by
  obtain ⟨inner, final, opens, laid, _⟩ := object
  exact singly inner members final opens laid name asked

theorem filter_single {members : List Member} {name : String}
    (single : (members.filter fun one => one.name = name).length ≤ 1) :
    members.filter (fun one => one.name = name) = [] ∨
      ∃ one, members.filter (fun one => one.name = name) = [one] := by
  rcases Nat.le_one_iff_eq_zero_or_eq_one.mp single with none | one
  · exact Or.inl (List.length_eq_zero_iff.mp none)
  · exact Or.inr (List.length_eq_one_iff.mp one)

section Found

variable {levels : Nat} {found : List (Member × Value)} {name : String}

theorem get_absent (absent : (found.map Prod.fst).filter (fun one => one.name = name) = []) :
    Members.get? (Members.ofList (found.map named)) name = none := by
  rw [List.filter_map, List.map_eq_nil_iff] at absent
  refine (Members.get_insertAll_absent ?_ []).trans rfl
  rw [List.filter_map, List.map_eq_nil_iff]
  exact absent

theorem get_single {one : Member}
    (only : (found.map Prod.fst).filter (fun one => one.name = name) = [one]) :
    ∃ value, (one, value) ∈ found ∧
      Members.get? (Members.ofList (found.map named)) name = some value := by
  rw [List.filter_map, List.map_eq_singleton_iff] at only
  obtain ⟨⟨first, value⟩, only, rfl⟩ := only
  have among : (first, value) ∈ found.filter _ := only ▸ List.mem_singleton_self _
  have alone : (found.map named).filter (fun member => member.1 = name) =
      [named (first, value)] := by
    rw [List.filter_map]
    exact congrArg (List.map named) only
  exact ⟨value, (List.mem_filter.mp among).1, Members.get_insertAll_single alone []⟩

/-- Of members whose values are known, each is set to its own. -/
theorem folds_set_found (forms : ∀ one ∈ found, ValueText levels one.1.value one.2 one.1.rest)
    (state final : Members) :
    Folds (setsMember levels) state (found.map Prod.fst) final ↔
      final = Members.insertAll state (found.map named) := by
  induction found generalizing state with
  | nil => exact Iff.rfl
  | cons one rest ih =>
    obtain ⟨form, later⟩ := List.forall_mem_cons.mp forms
    simp only [List.map_cons, Folds, ih later]
    constructor
    · intro given
      obtain ⟨_, ⟨value, form', rfl⟩, rfl⟩ := given
      obtain ⟨rfl, _⟩ := form.unique form'
      rfl
    · intro same
      exact ⟨_, ⟨one.2, form, rfl⟩, same⟩

end Found

/-! Fields -/

/-- A field: how it is read from a member, and what it makes of the value there. -/
structure Field (levels : Nat) (α : Type) where
  name : String
  reads : Member → α → Prop
  of : Value → Option α
  sound : ∀ {one a}, reads one a → ∃ value, ValueText levels one.value value one.rest ∧
    of value = some a

namespace Field

variable {levels : Nat} {α : Type} {found : List (Member × Value)}

def plain (levels : Nat) (name : String) (of : Value → Option α) : Field levels α :=
  ⟨name, fun one a => ∃ value, ValueText levels one.value value one.rest ∧ of value = some a, of, id⟩

theorem skipped (field : Field levels α) {one : Member} {a : α} (read : field.reads one a) :
    Skipped one.value one.rest := by
  obtain ⟨value, form, _⟩ := field.sound read
  exact form.skipped

/-- Of these members the field is read wherever it makes anything of their values. -/
def Complete (field : Field levels α) (found : List (Member × Value)) : Prop :=
  ∀ one ∈ found, one.1.name = field.name → ∀ a, field.of one.2 = some a → field.reads one.1 a

theorem plain_complete (name : String) (of : Value → Option α)
    (forms : ∀ one ∈ found, ValueText levels one.1.value one.2 one.1.rest) :
    (plain levels name of).Complete found :=
  fun one member _ _ known => ⟨one.2, forms one member, known⟩

def held (field : Field levels α) (members : Members) : Option (Option α) :=
  (Members.get? members field.name).mapM field.of

theorem held_of_fills (field : Field levels α)
    (forms : ∀ one ∈ found, ValueText levels one.1.value one.2 one.1.rest) {after : Option α}
    (fills : Fills field.reads field.name none (found.map Prod.fst) after) :
    field.held (Members.ofList (found.map named)) = some after := by
  unfold held
  rcases fills with ⟨absent, rfl⟩ | ⟨one, a, _, only, read, rfl⟩
  · rw [get_absent absent]
    rfl
  · obtain ⟨value, member, known⟩ := get_single only
    obtain ⟨value', form, made⟩ := field.sound read
    obtain ⟨rfl, _⟩ := (forms _ member).unique form
    simp [known, made]

theorem fills_of_held (field : Field levels α)
    (single : ((found.map Prod.fst).filter fun one => one.name = field.name).length ≤ 1) (complete : field.Complete found)
    {after : Option α} (held : field.held (Members.ofList (found.map named)) = some after) :
    Fills field.reads field.name none (found.map Prod.fst) after := by
  unfold Field.held at held
  rcases filter_single single with absent | ⟨one, only⟩
  · rw [get_absent absent] at held
    cases held
    exact Or.inl ⟨absent, rfl⟩
  · obtain ⟨value, member, known⟩ := get_single only
    have named : one.name = field.name := by
      have among : one ∈ (found.map Prod.fst).filter _ := only ▸ List.mem_singleton_self one
      simpa using (List.mem_filter.mp among).2
    rw [known] at held
    obtain ⟨a, made, rfl⟩ := Option.map_eq_some_iff.mp held
    exact Or.inr ⟨one, a, rfl, only, complete _ member named a made, rfl⟩

end Field

/-! Records -/

/-- Three fields of a record, as far as they are read, and the members that it keeps. -/
structure Slots (α β γ : Type) where
  first : Option α
  second : Option β
  third : Option γ
  extra : Members

/-- A record of three fields that keeps the members of all other names. -/
structure Record (levels : Nat) (α β γ : Type) where
  first : Field levels α
  second : Field levels β
  third : Field levels γ
  apart : first.name ≠ second.name ∧ first.name ≠ third.name ∧ second.name ≠ third.name

namespace Record

variable {levels : Nat} {α β γ : Type} (record : Record levels α β γ)

def names : List String := [record.first.name, record.second.name, record.third.name]

/-- What one member makes of the fields read so far. -/
def takes (slots : Slots α β γ) (one : Member) (next : Slots α β γ) : Prop :=
  if one.name = record.first.name then
    Sets record.first.reads slots.first (fun a => { slots with first := some a }) one next
  else if one.name = record.second.name then
    Sets record.second.reads slots.second (fun a => { slots with second := some a }) one next
  else if one.name = record.third.name then
    Sets record.third.reads slots.third (fun a => { slots with third := some a }) one next
  else
    ∃ value, ValueText levels one.value value one.rest ∧
      next = { slots with extra := Members.insert slots.extra one.name value }

section Steps

variable {slots next : Slots α β γ} {one : Member}

theorem takes_first (first : one.name = record.first.name) :
    record.takes slots one next ↔
      Sets record.first.reads slots.first (fun a => { slots with first := some a }) one next := by
  rw [takes, if_pos first]

theorem takes_second (second : one.name = record.second.name) :
    record.takes slots one next ↔
      Sets record.second.reads slots.second (fun a => { slots with second := some a }) one next := by
  rw [takes, if_neg (second ▸ record.apart.1.symm), if_pos second]

theorem takes_third (third : one.name = record.third.name) :
    record.takes slots one next ↔
      Sets record.third.reads slots.third (fun a => { slots with third := some a }) one next := by
  rw [takes, if_neg (third ▸ record.apart.2.1.symm), if_neg (third ▸ record.apart.2.2.symm),
    if_pos third]

theorem takes_other (first : one.name ≠ record.first.name) (second : one.name ≠ record.second.name)
    (third : one.name ≠ record.third.name) :
    record.takes slots one next ↔ ∃ value, ValueText levels one.value value one.rest ∧
      next = { slots with extra := Members.insert slots.extra one.name value } := by
  rw [takes, if_neg first, if_neg second, if_neg third]

structure Place (record : Record levels α β γ) (δ : Type) where
  field : Field levels δ
  held : Slots α β γ → Option δ
  set : Slots α β γ → δ → Slots α β γ
  takes_iff : ∀ {slots next one}, one.name = field.name →
    (record.takes slots one next ↔ Sets field.reads (held slots) (set slots) one next)

def atFirst : record.Place α :=
  ⟨record.first, Slots.first, fun slots a => { slots with first := some a }, record.takes_first⟩

def atSecond : record.Place β :=
  ⟨record.second, Slots.second, fun slots a => { slots with second := some a }, record.takes_second⟩

def atThird : record.Place γ :=
  ⟨record.third, Slots.third, fun slots a => { slots with third := some a }, record.takes_third⟩

/-! How the reader of a state takes a member, seen through a view of the state -/

variable {σ : Type} (view : σ ≃ Slots α β γ) (state : σ) {text : Input}

theorem Place.taken_iff {record : Record levels α β γ} {δ : Type} (place : record.Place δ)
    {reader : Input → Except Error (δ × Input)}
    (exact : ∀ value a rest, value.length < text.length →
      (reader value = .ok (a, rest) ↔ place.field.reads ⟨place.field.name, value, rest⟩ a))
    (build : δ → σ) (built : ∀ a, view (build a) = place.set (view state) a) (next : σ)
    (rest : Input) :
    (once (place.held (view state)) place.field.name >>= fun _ => readColon text >>= fun value =>
        reader value >>= fun read => pure (build read.1, read.2)) = .ok (next, rest) ↔
      ∃ value, skipSpaces text = .char ':' :: value ∧ Skipped value rest ∧
        record.takes (view state) ⟨place.field.name, value, rest⟩ (view next) := by
  rw [field_within_ok_iff place.field.reads exact (fun _ _ _ => place.field.skipped)]
  simp only [sets_through view, built]
  exact exists_congr fun value => and_congr_right fun _ => and_congr_right fun _ =>
    (place.takes_iff rfl).symm

theorem other_taken_iff {fuel : Nat} (short : text.length < fuel) {name : String}
    (first : name ≠ record.first.name) (second : name ≠ record.second.name)
    (third : name ≠ record.third.name) (keep : Value → σ)
    (kept : ∀ value, view (keep value) =
      { view state with extra := Members.insert (view state).extra name value })
    (next : σ) (rest : Input) :
    (readColon text >>= fun value => readValue fuel levels value >>= fun found =>
        pure (keep found.1, found.2)) = .ok (next, rest) ↔
      ∃ value, skipSpaces text = .char ':' :: value ∧ Skipped value rest ∧
        record.takes (view state) ⟨name, value, rest⟩ (view next) := by
  rw [kept_ok_iff (fun _ _ _ shorter => readValue_ok_iff levels shorter) keep short]
  simp only [← view.injective.eq_iff, kept]
  refine exists_congr fun value => and_congr_right fun _ => and_congr_right fun _ => ?_
  rw [record.takes_other (by exact first) (by exact second) (by exact third)]

theorem value_of_takes (taken : record.takes slots one next) :
    ∃ value, ValueText levels one.value value one.rest := by
  unfold takes at taken
  split at taken
  · obtain ⟨_, a, read, _⟩ := taken
    exact (record.first.sound read).imp fun _ made => made.1
  split at taken
  · obtain ⟨_, a, read, _⟩ := taken
    exact (record.second.sound read).imp fun _ made => made.1
  split at taken
  · obtain ⟨_, a, read, _⟩ := taken
    exact (record.third.sound read).imp fun _ made => made.1
  · exact taken.imp fun _ made => made.1

end Steps

theorem values_of_folds {slots final : Slots α β γ} {members : List Member}
    (folds : Folds record.takes slots members final) :
    ∃ found : List (Member × Value), found.map Prod.fst = members ∧
      ∀ one ∈ found, ValueText levels one.1.value one.2 one.1.rest := by
  induction members generalizing slots with
  | nil => exact ⟨[], rfl, nofun⟩
  | cons one others ih =>
    obtain ⟨next, taken, later⟩ := folds
    obtain ⟨value, form⟩ := record.value_of_takes taken
    obtain ⟨found, rfl, forms⟩ := ih later
    exact ⟨(one, value) :: found, rfl, List.forall_mem_cons.mpr ⟨form, forms⟩⟩

theorem folds_iff (slots final : Slots α β γ) (members : List Member) :
    Folds record.takes slots members final ↔
      Fills record.first.reads record.first.name slots.first members final.first ∧
      Fills record.second.reads record.second.name slots.second members final.second ∧
      Fills record.third.reads record.third.name slots.third members final.third ∧
      Folds (setsMember levels) slots.extra (members.filter fun one => one.name ∉ record.names)
        final.extra := by
  induction members generalizing slots with
  | nil =>
    simp only [fills_nil_iff, List.filter_nil, Folds]
    constructor
    · intro same
      subst same
      exact ⟨rfl, rfl, rfl, rfl⟩
    · intro given
      obtain ⟨first, second, third, extra⟩ := given
      cases slots
      cases final
      simp_all
  | cons one others ih =>
    obtain ⟨apart, apart', apart''⟩ := record.apart
    simp only [Folds, ih]
    by_cases first : one.name = record.first.name
    · have known : one.name ∈ record.names := by simp [names, first]
      rw [fills_same_iff _ first, fills_other_iff _ (first ▸ apart), fills_other_iff _ (first ▸ apart'),
        List.filter_cons_of_neg (by simpa using known)]
      simp only [record.takes_first first]
      constructor
      · intro given
        obtain ⟨next, ⟨free, a, read, rfl⟩, filled, others⟩ := given
        exact ⟨⟨free, a, read, filled⟩, others⟩
      · intro given
        obtain ⟨⟨free, a, read, filled⟩, others⟩ := given
        exact ⟨_, ⟨free, a, read, rfl⟩, filled, others⟩
    by_cases second : one.name = record.second.name
    · have known : one.name ∈ record.names := by simp [names, second]
      rw [fills_other_iff _ first, fills_same_iff _ second, fills_other_iff _ (second ▸ apart''),
        List.filter_cons_of_neg (by simpa using known)]
      simp only [record.takes_second second]
      constructor
      · intro given
        obtain ⟨next, ⟨free, a, read, rfl⟩, before, filled, others⟩ := given
        exact ⟨before, ⟨free, a, read, filled⟩, others⟩
      · intro given
        obtain ⟨before, ⟨free, a, read, filled⟩, others⟩ := given
        exact ⟨_, ⟨free, a, read, rfl⟩, before, filled, others⟩
    by_cases third : one.name = record.third.name
    · have known : one.name ∈ record.names := by simp [names, third]
      rw [fills_other_iff _ first, fills_other_iff _ second, fills_same_iff _ third,
        List.filter_cons_of_neg (by simpa using known)]
      simp only [record.takes_third third]
      constructor
      · intro given
        obtain ⟨next, ⟨free, a, read, rfl⟩, before, between, filled, others⟩ := given
        exact ⟨before, between, ⟨free, a, read, filled⟩, others⟩
      · intro given
        obtain ⟨before, between, ⟨free, a, read, filled⟩, others⟩ := given
        exact ⟨_, ⟨free, a, read, rfl⟩, before, between, filled, others⟩
    · have unknown : one.name ∉ record.names := by simp [names, first, second, third]
      rw [fills_other_iff _ first, fills_other_iff _ second, fills_other_iff _ third,
        List.filter_cons_of_pos (by simpa using unknown)]
      simp only [record.takes_other first second third, Folds, setsMember]
      constructor
      · intro given
        obtain ⟨next, ⟨value, form, rfl⟩, before, between, behind, others⟩ := given
        exact ⟨before, between, behind, _, ⟨value, form, rfl⟩, others⟩
      · intro given
        obtain ⟨before, between, behind, next, ⟨value, form, rfl⟩, others⟩ := given
        exact ⟨_, ⟨value, form, rfl⟩, before, between, behind, others⟩

def empty : Slots α β γ := ⟨none, none, none, []⟩

def of (members : Members) : Option (Slots α β γ) := do
  let first ← record.first.held members
  let second ← record.second.held members
  let third ← record.third.held members
  some ⟨first, second, third, Members.without record.names members⟩

theorem of_iff (members : Members) (slots : Slots α β γ) :
    record.of members = some slots ↔
      record.first.held members = some slots.first ∧
      record.second.held members = some slots.second ∧
      record.third.held members = some slots.third ∧
      slots.extra = Members.without record.names members := by
  obtain ⟨first, second, third, extra⟩ := slots
  simp only [of, Option.bind_eq_bind, Option.bind_eq_some_iff, Option.some.injEq, Slots.mk.injEq]
  constructor
  · intro given
    obtain ⟨_, held₁, _, held₂, _, held₃, rfl, rfl, rfl, rfl⟩ := given
    exact ⟨held₁, held₂, held₃, rfl⟩
  · intro given
    obtain ⟨held₁, held₂, held₃, rfl⟩ := given
    exact ⟨_, held₁, _, held₂, _, held₃, rfl, rfl, rfl, rfl⟩

variable {found : List (Member × Value)}

theorem kept_iff (forms : ∀ one ∈ found, ValueText levels one.1.value one.2 one.1.rest)
    (extra : Members) :
    Folds (setsMember levels) [] ((found.map Prod.fst).filter fun one => one.name ∉ record.names)
        extra ↔
      extra = Members.without record.names (Members.ofList (found.map named)) := by
  rw [List.filter_map, folds_set_found fun one member => forms one (List.mem_filter.mp member).1,
    Members.without_ofList, Members.without, List.filter_map]
  exact Iff.rfl

theorem of_folds (forms : ∀ one ∈ found, ValueText levels one.1.value one.2 one.1.rest)
    {slots : Slots α β γ} (folds : Folds record.takes empty (found.map Prod.fst) slots) :
    record.of (Members.ofList (found.map named)) = some slots := by
  obtain ⟨first, second, third, kept⟩ := (record.folds_iff _ _ _).mp folds
  exact (record.of_iff _ _).mpr ⟨record.first.held_of_fills forms first,
    record.second.held_of_fills forms second, record.third.held_of_fills forms third,
    (record.kept_iff forms _).mp kept⟩

theorem folds_of
    (single : ∀ name ∈ record.names,
      ((found.map Prod.fst).filter fun one => one.name = name).length ≤ 1)
    (forms : ∀ one ∈ found, ValueText levels one.1.value one.2 one.1.rest)
    (complete : record.first.Complete found ∧ record.second.Complete found ∧
      record.third.Complete found) {slots : Slots α β γ}
    (known : record.of (Members.ofList (found.map named)) = some slots) :
    Folds record.takes empty (found.map Prod.fst) slots := by
  obtain ⟨first, second, third, kept⟩ := (record.of_iff _ _).mp known
  exact (record.folds_iff _ _ _).mpr ⟨record.first.fills_of_held (single _ (.head _)) complete.1 first,
    record.second.fills_of_held (single _ (.tail _ (.head _))) complete.2.1 second,
    record.third.fills_of_held (single _ (.tail _ (.tail _ (.head _)))) complete.2.2 third,
    (record.kept_iff forms _).mpr kept⟩

end Record

end SessionGate.Json
