import SessionGate.Proofs.Json.Layout
import SessionGate.Proofs.Json.Order

/- The texts that are values. Where the items of a list and the members of an object stand is said apart
   from what each of them has to be, so that one induction on a value reaches all that is nested in it.
   The strict reader accepts exactly these texts, and the lenient one passes over each of them to the same
   rest. -/
namespace SessionGate.Json

open Text (Symbol)

/-! Where items stand -/

/-- An item of a list: the text that begins with it, and what follows it. -/
structure Item where
  value : Input
  rest : Input

def Leads (first : Bool) (text item : Input) : Prop :=
  if first then item = skipSpaces text ∧ Stands item
  else ∃ behind, skipSpaces text = .char ',' :: behind ∧ item = skipSpaces behind ∧ Stands item

/-- The items of a list from behind its bracket, or from behind one of them, and the text behind the
closing bracket. -/
inductive Lined : Bool → Input → List Item → Input → Prop where
  | close {first : Bool} {text rest : Input} (closes : skipSpaces text = .char ']' :: rest) :
      Lined first text [] rest
  | item {first : Bool} {text final : Input} {one : Item} {others : List Item}
      (leads : Leads first text one.value) (passed : Skipped one.value one.rest)
      (more : Lined false one.rest others final) : Lined first text (one :: others) final

theorem nextItem_more_iff (first : Bool) (text item : Input) :
    nextItem first text = .ok (.more item) ↔ Leads first text item := by
  cases first with
  | true => exact nextItem_first_iff text item
  | false => exact nextItem_later_iff text item

theorem Leads.length {first : Bool} {text item : Input} (leads : Leads first text item) :
    item.length ≤ text.length := by
  cases first with
  | true =>
    obtain ⟨rfl, _⟩ := leads
    exact skipSpaces_length text
  | false =>
    obtain ⟨behind, front, rfl, _⟩ := leads
    have shorter := skipSpaces_front front
    have spaces := skipSpaces_length behind
    omega

theorem readItems_ok_iff {α : Type} {item : Input → Except Error (α × Input)} {bound : Nat}
    {reads : Input → α → Input → Prop}
    (reading : ∀ text a rest, text.length ≤ bound →
      (item text = .ok (a, rest) ↔ reads text a rest))
    (passes : ∀ text a rest, reads text a rest → Skipped text rest) (fuel : Nat) {first : Bool}
    {text rest : Input} {found : List α} (short : text.length ≤ bound)
    (enough : text.length < fuel) :
    readItems item fuel first text = .ok (found, rest) ↔
      ∃ items : List (Item × α), Lined first text (items.map Prod.fst) rest ∧
        items.map Prod.snd = found ∧ ∀ one ∈ items, reads one.1.value one.2 one.1.rest := by
  induction fuel generalizing first text found with
  | zero => exact absurd enough (Nat.not_lt_zero _)
  | succ fuel ih =>
    constructor
    · intro read
      obtain ⟨next, known, later⟩ := (bind_ok_iff _ _ _).mp read
      cases next with
      | closed behind =>
        cases later
        exact ⟨[], .close ((nextItem_closed_iff _ _ _).mp known), rfl, nofun⟩
      | more value =>
        have leads := (nextItem_more_iff _ _ _).mp known
        obtain ⟨⟨a, behind⟩, one, later⟩ := (bind_ok_iff _ _ _).mp later
        obtain ⟨⟨more, last⟩, others, same⟩ := (bind_ok_iff _ _ _).mp later
        cases same
        have length := leads.length
        have form := (reading value a behind (by omega)).mp one
        have passed := passes _ _ _ form
        have shorter := passed.shorter
        obtain ⟨items, lined, rfl, each⟩ := (ih (by omega) (by omega)).mp others
        refine ⟨(⟨value, behind⟩, a) :: items, .item leads passed lined, rfl, ?_⟩
        intro one member
        rcases List.mem_cons.mp member with rfl | among
        · exact form
        · exact each one among
    · intro given
      obtain ⟨items, lined, rfl, each⟩ := given
      cases items with
      | nil =>
        cases lined with
        | close closes =>
          have known := (nextItem_closed_iff first text rest).mpr closes
          simp only [readItems, known, ok_bind]
          rfl
      | cons one items =>
        cases lined with
        | item leads passed more =>
          have length := leads.length
          have shorter := passed.shorter
          have known := (nextItem_more_iff first text _).mpr leads
          have read := (reading _ _ _ (by omega)).mpr (each one List.mem_cons_self)
          have others : readItems item fuel false one.1.rest = .ok (items.map Prod.snd, rest) :=
            (ih (by omega) (by omega)).mpr
              ⟨items, more, rfl, fun other member => each other (List.mem_cons_of_mem _ member)⟩
          simp only [readItems, known, read, others, ok_bind]
          rfl

/-! What is laid out is passed over -/

theorem skipValue_behind_spaces (fuel : Nat) (text : Input) :
    skipValue fuel (skipSpaces text) = skipValue fuel text := by
  cases fuel with
  | zero => rfl
  | succ fuel => simp only [skipValue, skipSpaces_again]

theorem skipped_behind_spaces {text rest : Input} :
    Skipped (skipSpaces text) rest ↔ Skipped text rest := by
  have length := skipSpaces_length text
  have enough : (skipSpaces text).length < text.length + 1 := by omega
  rw [← skipValue_ok_iff enough, skipValue_behind_spaces]
  rfl

theorem skipToItem_of_leads {first : Bool} {text item : Input} (leads : Leads first text item) :
    ∃ behind, skipToItem first text = .ok (.more behind) ∧ skipSpaces behind = item := by
  cases first with
  | true =>
    obtain ⟨rfl, absent, closed⟩ := leads
    refine ⟨skipSpaces text, ?_, skipSpaces_again text⟩
    unfold skipToItem
    split
    · rename_i none
      exact absurd none absent
    · rename_i rest front
      exact absurd front (closed rest)
    · rfl
  | false =>
    obtain ⟨behind, front, rfl, _⟩ := leads
    refine ⟨behind, ?_, rfl⟩
    unfold skipToItem
    rw [front]
    rfl

theorem skipToItem_of_close {first : Bool} {text rest : Input}
    (closes : skipSpaces text = .char ']' :: rest) :
    skipToItem first text = .ok (.closed rest) := by
  unfold skipToItem
  rw [closes]
  rfl

theorem Lined.skipItems {first : Bool} {text rest : Input} {items : List Item}
    (lined : Lined first text items rest) {bound fuel : Nat} (short : text.length < bound)
    (enough : text.length < fuel) :
    Json.skipItems (fun text => skipValue bound text) fuel first text = .ok rest := by
  induction lined generalizing fuel with
  | close closes =>
    obtain ⟨fuel, rfl⟩ := Nat.exists_eq_succ_of_ne_zero (Nat.ne_zero_of_lt enough)
    simp only [Json.skipItems, skipToItem_of_close closes, ok_bind]
    rfl
  | @item first text final one others leads passed more ih =>
    obtain ⟨fuel, rfl⟩ := Nat.exists_eq_succ_of_ne_zero (Nat.ne_zero_of_lt enough)
    have length := leads.length
    have shorter := passed.shorter
    obtain ⟨behind, next, front⟩ := skipToItem_of_leads leads
    have one : skipValue bound behind = .ok one.rest := by
      rw [← skipValue_behind_spaces, front]
      exact (skipValue_ok_iff (by omega) _).mpr passed
    simp only [Json.skipItems, next, one, ok_bind]
    exact ih (by omega) (by omega)

theorem skipToName_of_opens {first : Bool} {text quoted : Input}
    (opens : Opens first text quoted) : skipToName first text = .ok (.more quoted) := by
  unfold skipToName
  cases first with
  | true =>
    have front : skipSpaces text = .char '"' :: quoted := opens
    rw [front]
    rfl
  | false =>
    obtain ⟨behind, front, inner⟩ := opens
    rw [front]
    show skipToName.opening (skipSpaces behind) = _
    rw [inner]
    rfl

theorem skipToName_of_close {first : Bool} {text rest : Input}
    (closes : skipSpaces text = .char '\x7d' :: rest) :
    skipToName first text = .ok (.closed rest) := by
  unfold skipToName
  rw [closes]
  rfl

theorem skipMembers_member {first : Bool} {text quoted colon value behind rest : Input}
    {bound fuel : Nat} (opens : Opens first text quoted) (name : skipString quoted = .ok colon)
    (parts : skipSpaces colon = .char ':' :: value) (passed : Skipped value behind)
    (short : text.length < bound) (enough : text.length < fuel)
    (more : ∀ fuel, behind.length < bound → behind.length < fuel →
      Json.skipMembers (fun text => skipValue bound text) fuel false behind = .ok rest) :
    Json.skipMembers (fun text => skipValue bound text) fuel first text = .ok rest := by
  obtain ⟨fuel, rfl⟩ := Nat.exists_eq_succ_of_ne_zero (Nat.ne_zero_of_lt enough)
  have start := opens.shorter
  have colonLength := skipSymbols_shorter quoted name
  have valueLength := skipSpaces_front parts
  have restLength := passed.shorter
  have sign := (readColon_ok_iff _ _).mpr parts
  have skipped : skipValue bound value = .ok behind := (skipValue_ok_iff (by omega) _).mpr passed
  simp only [Json.skipMembers, skipToName_of_opens opens, name, sign, skipped, ok_bind]
  exact more fuel (by omega) (by omega)

theorem Laid.skipMembers {first : Bool} {text rest : Input} {members : List Member}
    (laid : Laid first text members rest) {bound fuel : Nat} (short : text.length < bound)
    (enough : text.length < fuel) :
    Json.skipMembers (fun text => skipValue bound text) fuel first text = .ok rest := by
  induction laid generalizing fuel with
  | close closes =>
    obtain ⟨fuel, rfl⟩ := Nat.exists_eq_succ_of_ne_zero (Nat.ne_zero_of_lt enough)
    simp only [Json.skipMembers, skipToName_of_close closes, ok_bind]
    rfl
  | member opens string parts passed more ih =>
    exact skipMembers_member opens (skipString_complete string) parts passed short enough
      fun fuel short enough => ih short enough

theorem Lined.skipped {text inner rest : Input} {items : List Item}
    (opens : skipSpaces text = .char '[' :: inner) (lined : Lined true inner items rest) :
    Skipped text rest := by
  have shorter := skipSpaces_front opens
  unfold Skipped skipValue
  rw [opens]
  exact lined.skipItems (by omega) (by omega)

theorem Laid.skipped {text inner rest : Input} {members : List Member}
    (opens : skipSpaces text = .char '\x7b' :: inner) (laid : Laid true inner members rest) :
    Skipped text rest := by
  have shorter := skipSpaces_front opens
  unfold Skipped skipValue
  rw [opens]
  exact laid.skipMembers (by omega) (by omega)

/-! Values -/

def named (one : Member × Value) : String × Value := (one.1.name, one.2)

/-- A text that begins with a value of at most the given number of levels, and the rest behind it. -/
inductive ValueText : Nat → Input → Value → Input → Prop where
  | scalar {levels : Nat} {text rest : Input} {value : Value}
      (scalar : ScalarText (skipSpaces text) value rest) : ValueText levels text value rest
  | array {levels : Nat} {text inner rest : Input} {items : List (Item × Value)}
      {found : List Value} (opens : skipSpaces text = .char '[' :: inner)
      (lined : Lined true inner (items.map Prod.fst) rest)
      (each : ∀ one ∈ items, ValueText levels one.1.value one.2 one.1.rest)
      (listed : items.map Prod.snd = found) : ValueText (levels + 1) text (.array found) rest
  | object {levels : Nat} {text inner rest : Input} {members : List (Member × Value)}
      {found : List (String × Value)} (opens : skipSpaces text = .char '\x7b' :: inner)
      (laid : Laid true inner (members.map Prod.fst) rest)
      (each : ∀ one ∈ members, ValueText levels one.1.value one.2 one.1.rest)
      (listed : members.map named = found) :
      ValueText (levels + 1) text (.object (Members.ofList found)) rest

theorem ValueText.skipped {levels : Nat} {text rest : Input} {value : Value}
    (form : ValueText levels text value rest) : Skipped text rest := by
  cases form with
  | scalar scalar => exact scalar.skipped
  | array opens lined => exact Lined.skipped opens lined
  | object opens laid => exact Laid.skipped opens laid

theorem valueText_behind_spaces {levels : Nat} {text rest : Input} {value : Value} :
    ValueText levels (skipSpaces text) value rest ↔ ValueText levels text value rest := by
  constructor
  · intro form
    cases form with
    | scalar scalar => exact .scalar (by rwa [skipSpaces_again] at scalar)
    | array opens lined each listed => exact .array (by rwa [skipSpaces_again] at opens) lined each listed
    | object opens laid each listed => exact .object (by rwa [skipSpaces_again] at opens) laid each listed
  · intro form
    cases form with
    | scalar scalar => exact .scalar (by rwa [skipSpaces_again])
    | array opens lined each listed => exact .array (by rwa [skipSpaces_again]) lined each listed
    | object opens laid each listed => exact .object (by rwa [skipSpaces_again]) laid each listed

theorem ValueText.stands {levels : Nat} {text rest : Input} {value : Value}
    (form : ValueText levels text value rest) : Stands (skipSpaces text) := by
  cases form with
  | scalar scalar =>
    obtain ⟨c, more, front, _, _, closed⟩ := scalar.front
    rw [front]
    refine ⟨List.cons_ne_nil _ _, ?_⟩
    intro behind same
    cases same
    exact closed rfl
  | array opens =>
    rw [opens]
    exact ⟨List.cons_ne_nil _ _, nofun⟩
  | object opens =>
    rw [opens]
    exact ⟨List.cons_ne_nil _ _, nofun⟩

theorem ValueText.more_levels {levels : Nat} {text rest : Input} {value : Value}
    (form : ValueText levels text value rest) {more : Nat} (enough : levels ≤ more) :
    ValueText more text value rest := by
  induction form generalizing more with
  | scalar scalar => exact .scalar scalar
  | @array levels _ _ _ items found opens lined each listed ih =>
    obtain ⟨more, rfl⟩ := Nat.exists_eq_succ_of_ne_zero (Nat.ne_zero_of_lt enough)
    exact .array opens lined (fun one member => ih one member (Nat.le_of_succ_le_succ enough)) listed
  | @object levels _ _ _ members found opens laid each listed ih =>
    obtain ⟨more, rfl⟩ := Nat.exists_eq_succ_of_ne_zero (Nat.ne_zero_of_lt enough)
    exact .object opens laid (fun one member => ih one member (Nat.le_of_succ_le_succ enough)) listed

theorem valueText_object_iff {levels : Nat} {text rest : Input} {members : Members} :
    ValueText (levels + 1) text (.object members) rest ↔
      ∃ (inner : Input) (found : List (Member × Value)), skipSpaces text = .char '\x7b' :: inner ∧
        Laid true inner (found.map Prod.fst) rest ∧
        (∀ one ∈ found, ValueText levels one.1.value one.2 one.1.rest) ∧
        members = Members.ofList (found.map named) := by
  constructor
  · intro form
    cases form with
    | scalar scalar =>
      generalize skipSpaces text = front at scalar
      cases scalar
    | object opens laid each listed => exact ⟨_, _, opens, laid, each, by rw [listed]⟩
  · intro given
    obtain ⟨inner, found, opens, laid, each, rfl⟩ := given
    exact .object opens laid each rfl

/-! The strict reader -/

def setsMember (levels : Nat) (state : Members) (one : Member) (next : Members) : Prop :=
  ∃ value, ValueText levels one.value value one.rest ∧ next = Members.insert state one.name value

theorem folds_set_iff (levels : Nat) (members : List Member) (state final : Members) :
    Folds (setsMember levels) state members final ↔
      ∃ found : List (Member × Value), found.map Prod.fst = members ∧
        (∀ one ∈ found, ValueText levels one.1.value one.2 one.1.rest) ∧
        final = Members.insertAll state (found.map named) := by
  induction members generalizing state with
  | nil =>
    constructor
    · intro same
      exact ⟨[], rfl, nofun, same⟩
    · intro given
      obtain ⟨found, none, _, same⟩ := given
      rw [List.map_eq_nil_iff.mp none] at same
      exact same
  | cons one others ih =>
    simp only [Folds, ih]
    constructor
    · intro given
      obtain ⟨next, ⟨value, form, rfl⟩, found, rfl, each, rfl⟩ := given
      refine ⟨(one, value) :: found, rfl, ?_, rfl⟩
      intro other member
      rcases List.mem_cons.mp member with rfl | among
      · exact form
      · exact each other among
    · intro given
      obtain ⟨found, all, each, rfl⟩ := given
      obtain ⟨first, rest, rfl, rfl, rfl⟩ := List.map_eq_cons_iff.mp all
      exact ⟨_, ⟨first.2, each first List.mem_cons_self, rfl⟩, rest, rfl,
        fun other member => each other (List.mem_cons_of_mem _ member), rfl⟩

theorem kept_ok_iff {σ : Type} {levels fuel : Nat}
    (reading : ∀ text value rest, text.length < fuel →
      (readValue fuel levels text = .ok (value, rest) ↔ ValueText levels text value rest))
    (keep : Value → σ) {text : Input} (short : text.length < fuel) (next : σ) (rest : Input) :
    (readColon text >>= fun value => readValue fuel levels value >>= fun found =>
        pure (keep found.1, found.2)) = .ok (next, rest) ↔
      ∃ value, skipSpaces text = .char ':' :: value ∧ Skipped value rest ∧
        ∃ found, ValueText levels value found rest ∧ next = keep found := by
  constructor
  · intro read
    obtain ⟨value, colon, later⟩ := (bind_ok_iff _ _ _).mp read
    obtain ⟨⟨found, behind⟩, known, same⟩ := (bind_ok_iff _ _ _).mp later
    cases same
    have front := (readColon_ok_iff _ _).mp colon
    have length := skipSpaces_front front
    have form := (reading _ _ _ (by omega)).mp known
    exact ⟨value, front, form.skipped, found, form, rfl⟩
  · intro given
    obtain ⟨value, front, _, found, form, rfl⟩ := given
    have length := skipSpaces_front front
    have known := (reading value found rest (by omega)).mpr form
    simp only [(readColon_ok_iff _ _).mpr front, ok_bind, known]
    rfl

theorem setting_takes {levels fuel : Nat}
    (reading : ∀ text value rest, text.length < fuel →
      (readValue fuel levels text = .ok (value, rest) ↔ ValueText levels text value rest)) :
    Takes (fun members name text => do
      let text ← readColon text
      let (value, rest) ← readValue fuel levels text
      return (Members.insert members name value, rest)) fuel (setsMember levels) :=
  fun state name _ next rest short =>
    kept_ok_iff reading (Members.insert state name) short next rest

theorem readValue_of_scalar (fuel levels : Nat) {text rest : Input} {value : Value}
    (scalar : ScalarText (skipSpaces text) value rest) :
    readValue fuel levels text = .ok (value, rest) := by
  obtain ⟨c, more, front, list, object, _⟩ := scalar.front
  have read := (readScalar_ok_iff _ _ _).mpr scalar
  rw [front] at read
  unfold readValue
  rw [front]
  split
  · rename_i opened
    cases opened
    exact absurd rfl list
  · rename_i opened
    cases opened
    exact absurd rfl object
  · exact read

theorem readValue_ok_iff (levels : Nat) {fuel : Nat} {text rest : Input} {value : Value}
    (enough : text.length < fuel) :
    readValue fuel levels text = .ok (value, rest) ↔ ValueText levels text value rest := by
  induction levels generalizing text rest value with
  | zero =>
    constructor
    · intro read
      unfold readValue at read
      split at read
      · cases read
      · cases read
      · exact .scalar ((readScalar_ok_iff _ _ _).mp read)
    · intro form
      cases form with
      | scalar scalar => exact readValue_of_scalar fuel 0 scalar
  | succ levels ih =>
    have items {text rest : Input} {found : List Value} (short : text.length < fuel) :
        readItems (fun text => readValue fuel levels text) fuel true text = .ok (found, rest) ↔
          ∃ items : List (Item × Value), Lined true text (items.map Prod.fst) rest ∧
            items.map Prod.snd = found ∧
            ∀ one ∈ items, ValueText levels one.1.value one.2 one.1.rest :=
      readItems_ok_iff (fun _ _ _ short' => ih (Nat.lt_of_le_of_lt short' short))
        (fun _ _ _ form => form.skipped) fuel (Nat.le_refl text.length) short
    have setting := setting_takes fun _ _ _ (short : _ < fuel) => ih short
    have members {text rest : Input} {found : Members} (short : text.length < fuel) :=
      @readMembers_ok_iff Members _ _ _ setting fuel true [] found text rest (Nat.le_of_lt short)
        short
    constructor
    · intro read
      unfold readValue at read
      split at read
      · rename_i inner opens
        have shorter := skipSpaces_front opens
        obtain ⟨⟨found, behind⟩, known, same⟩ := (bind_ok_iff _ _ _).mp read
        cases same
        obtain ⟨each, lined, listed, forms⟩ := (items (by omega)).mp known
        exact .array opens lined forms listed
      · rename_i inner opens
        have shorter := skipSpaces_front opens
        obtain ⟨⟨found, behind⟩, known, same⟩ := (bind_ok_iff _ _ _).mp read
        cases same
        obtain ⟨all, laid, folds⟩ := (members (by omega)).mp known
        obtain ⟨found, rfl, forms, rfl⟩ := (folds_set_iff _ _ _ _).mp folds
        exact .object opens laid forms rfl
      · exact .scalar ((readScalar_ok_iff _ _ _).mp read)
    · intro form
      cases form with
      | scalar scalar => exact readValue_of_scalar fuel (levels + 1) scalar
      | array opens lined each listed =>
        have shorter := skipSpaces_front opens
        have known := (items (by omega)).mpr ⟨_, lined, listed, each⟩
        unfold readValue
        rw [opens]
        simp only [known, ok_bind]
        rfl
      | object opens laid each listed =>
        have shorter := skipSpaces_front opens
        have folds := (folds_set_iff levels _ [] _).mpr ⟨_, rfl, each, rfl⟩
        have known := (members (by omega)).mpr ⟨_, laid, folds⟩
        unfold readValue
        rw [opens]
        simp only [known, ok_bind, listed]
        rfl

theorem ValueText.unique {levels more : Nat} {text rest other : Input} {value value' : Value}
    (one : ValueText levels text value rest) (two : ValueText more text value' other) :
    value = value' ∧ rest = other := by
  have first := (readValue_ok_iff (max levels more) (Nat.lt_succ_self _)).mpr
    (one.more_levels (Nat.le_max_left levels more))
  have second := (readValue_ok_iff (max levels more) (Nat.lt_succ_self _)).mpr
    (two.more_levels (Nat.le_max_right levels more))
  exact Prod.mk.inj (Except.ok.inj (first.symm.trans second))

/-! Documents -/

theorem read_ok_iff (text : Input) (value : Value) :
    read text = .ok value ↔ ∃ rest, ValueText maxLevels text value rest ∧ skipSpaces rest = [] := by
  unfold read
  rw [readEntire_ok_iff]
  simp only [readValue_ok_iff maxLevels (Nat.lt_succ_self text.length)]

def DocumentText (text : Input) (listed : List (String × Value)) : Prop :=
  ∃ members : List (Member × Value), ObjectText text (members.map Prod.fst) ∧
    (∀ one ∈ members, ValueText (maxLevels - 1) one.1.value one.2 one.1.rest) ∧
    members.map named = listed

/-- Of equal names the last one counts. -/
theorem readMap_ok_iff (text : Input) (entries : Members) :
    readMap text = .ok entries ↔
      ∃ listed, DocumentText text listed ∧ entries = Members.ofList listed := by
  unfold readMap
  rw [readEntire_ok_iff]
  have setting := setting_takes fun _ _ _ (short : _ < text.length + 1) =>
    readValue_ok_iff (maxLevels - 1) short
  have object {rest : Input} := @readObject_ok_iff Members .map _ _ _ setting [] entries text rest
    (Nat.lt_succ_self text.length)
  constructor
  · intro given
    obtain ⟨rest, known, blank⟩ := given
    obtain ⟨inner, all, opens, laid, folds⟩ := object.mp known
    obtain ⟨members, rfl, forms, rfl⟩ := (folds_set_iff _ _ _ _).mp folds
    exact ⟨_, ⟨members, ⟨inner, rest, opens, laid, blank⟩, forms, rfl⟩, rfl⟩
  · intro given
    obtain ⟨_, ⟨members, ⟨inner, rest, opens, laid, blank⟩, forms, rfl⟩, rfl⟩ := given
    have folds := (folds_set_iff _ _ [] _).mpr ⟨members, rfl, forms, rfl⟩
    exact ⟨rest, object.mpr ⟨inner, _, opens, laid, folds⟩, blank⟩

theorem read_object_iff (text : Input) (entries : Members) :
    read text = .ok (.object entries) ↔
      ∃ listed, DocumentText text listed ∧ entries = Members.ofList listed := by
  rw [read_ok_iff]
  constructor
  · intro given
    obtain ⟨rest, form, blank⟩ := given
    obtain ⟨inner, members, opens, laid, forms, rfl⟩ := valueText_object_iff.mp form
    exact ⟨_, ⟨members, ⟨inner, rest, opens, laid, blank⟩, forms, rfl⟩, rfl⟩
  · intro given
    obtain ⟨_, ⟨members, ⟨inner, rest, opens, laid, blank⟩, forms, rfl⟩, rfl⟩ := given
    exact ⟨rest, .object opens laid forms rfl, blank⟩

end SessionGate.Json
