import SessionGate.Proofs.Json.Forms

/- How an object is laid out: its members in turn, each with a name and a text that begins with its
   value. Which names matter and what their values have to be is left to the reader of one member;
   all of them agree on the layout. -/
namespace SessionGate.Json

open Text (Symbol)

/-- A member of an object: its name, the text that begins with its value, and what follows that. -/
structure Member where
  name : String
  value : Input
  rest : Input

def Opens (first : Bool) (text quoted : Input) : Prop :=
  if first then skipSpaces text = .char '"' :: quoted
  else ∃ behind, skipSpaces text = .char ',' :: behind ∧ skipSpaces behind = .char '"' :: quoted

/-- The members of an object from behind its brace, or from behind one of them, and the text behind
the closing brace. -/
inductive Laid : Bool → Input → List Member → Input → Prop where
  | close {first : Bool} {text rest : Input} (closes : skipSpaces text = .char '\x7d' :: rest) :
      Laid first text [] rest
  | member {first : Bool} {text quoted colon final : Input} {one : Member} {others : List Member}
      (opens : Opens first text quoted) (string : StringText quoted one.name.toList colon)
      (parts : skipSpaces colon = .char ':' :: one.value) (passed : Skipped one.value one.rest)
      (more : Laid false one.rest others final) : Laid first text (one :: others) final

theorem nextName_closed_iff (first : Bool) (text rest : Input) :
    nextName first text = .ok (.closed rest) ↔ skipSpaces text = .char '\x7d' :: rest := by
  unfold nextName
  constructor
  · intro next
    split at next
    · cases next
    · rename_i front
      cases next
      exact front
    · cases first with
      | true =>
        simp only [if_true] at next
        split at next <;> cases next
      | false =>
        simp only [Bool.false_eq_true, if_false] at next
        split at next
        · split at next <;> cases next
        · cases next
  · intro front
    rw [front]
    rfl

theorem nextName_more_iff (first : Bool) (text quoted : Input) :
    nextName first text = .ok (.more quoted) ↔ Opens first text quoted := by
  unfold nextName Opens
  cases first with
  | true =>
    simp only [if_true]
    constructor
    · intro next
      split at next
      · cases next
      · cases next
      · split at next
        · rename_i front
          cases next
          exact front
        · cases next
    · intro front
      rw [front]
      rfl
  | false =>
    simp only [Bool.false_eq_true, if_false]
    constructor
    · intro next
      split at next
      · cases next
      · cases next
      · split at next
        · rename_i behind front
          split at next
          · cases next
          · rename_i inner
            cases next
            exact ⟨behind, front, inner⟩
          · cases next
          · cases next
        · cases next
    · intro given
      obtain ⟨behind, front, inner⟩ := given
      rw [front]
      split
      · rename_i none
        cases none
      · rename_i last
        cases last
      · split
        · rename_i rest same
          cases same
          rw [inner]
          rfl
        · rename_i other
          exact absurd rfl (other behind)

theorem Opens.shorter {first : Bool} {text quoted : Input} (opens : Opens first text quoted) :
    quoted.length < text.length := by
  cases first with
  | true => exact skipSpaces_front opens
  | false =>
    obtain ⟨behind, front, inner⟩ := opens
    exact Nat.lt_trans (skipSpaces_front inner) (skipSpaces_front front)

theorem Opens.not_closed {first : Bool} {text quoted rest : Input} (opens : Opens first text quoted) :
    skipSpaces text ≠ .char '\x7d' :: rest := by
  intro closes
  cases first with
  | true => cases closes.symm.trans opens
  | false =>
    obtain ⟨behind, front, _⟩ := opens
    cases closes.symm.trans front

theorem Opens.unique {first : Bool} {text quoted other : Input} (one : Opens first text quoted)
    (two : Opens first text other) : quoted = other := by
  have same := ((nextName_more_iff first text quoted).mpr one).symm.trans
    ((nextName_more_iff first text other).mpr two)
  cases same
  rfl

theorem Laid.unique {first : Bool} {text final end' : Input} {members others : List Member}
    (one : Laid first text members final) (two : Laid first text others end') :
    members = others ∧ final = end' := by
  induction one generalizing others with
  | close closes =>
    cases two with
    | close closes' =>
      cases closes.symm.trans closes'
      exact ⟨rfl, rfl⟩
    | member opens => exact absurd closes opens.not_closed
  | @member _ _ _ _ _ left _ opens string parts passed more ih =>
    cases two with
    | close closes => exact absurd closes opens.not_closed
    | @member _ _ _ _ _ right _ opens' string' parts' passed' more' =>
      obtain rfl := opens.unique opens'
      obtain ⟨name, rfl⟩ := string.unique string'
      have value : left.value = right.value := (List.cons.inj (parts.symm.trans parts')).2
      rw [value] at passed
      have rest := passed.unique passed'
      rw [rest] at ih
      obtain ⟨later, rfl⟩ := ih more'
      have same : left = right := by
        cases left
        cases right
        simp_all [String.toList_inj]
      exact ⟨by rw [same, later], rfl⟩

def ObjectText (text : Input) (members : List Member) : Prop :=
  ∃ inner final, skipSpaces text = .char '\x7b' :: inner ∧ Laid true inner members final ∧
    skipSpaces final = []

theorem ObjectText.unique {text : Input} {members others : List Member}
    (one : ObjectText text members) (two : ObjectText text others) : members = others := by
  obtain ⟨inner, final, front, laid, _⟩ := one
  obtain ⟨inner', final', front', laid', _⟩ := two
  cases front.symm.trans front'
  exact (laid.unique laid').1

def Distinct (text : Input) : Prop :=
  ∀ inner members rest, skipSpaces text = .char '\x7b' :: inner → Laid true inner members rest →
    (members.map Member.name).Nodup

theorem Laid.distinct {text inner final : Input} {members : List Member}
    (laid : Laid true inner members final) (opens : skipSpaces text = .char '\x7b' :: inner)
    (names : (members.map Member.name).Nodup) : Distinct text := by
  intro inner' others final' opens' laid'
  cases opens.symm.trans opens'
  obtain ⟨rfl, _⟩ := laid.unique laid'
  exact names

section Taking

variable {σ : Type}

def Folds (takes : σ → Member → σ → Prop) : σ → List Member → σ → Prop
  | state, [], final => final = state
  | state, one :: others, final => ∃ next, takes state one next ∧ Folds takes next others final

/-- The reader of one member takes it as told, on texts within a bound. Whatever it accepts as a
value, the lenient reader passes over to the same rest. -/
def Takes (member : σ → String → Input → Except Error (σ × Input)) (bound : Nat)
    (takes : σ → Member → σ → Prop) : Prop :=
  ∀ state name text next rest, text.length < bound →
    (member state name text = .ok (next, rest) ↔ ∃ value, skipSpaces text = .char ':' :: value ∧
      Skipped value rest ∧ takes state ⟨name, value, rest⟩ next)

theorem readMembers_ok_iff {member : σ → String → Input → Except Error (σ × Input)} {bound : Nat}
    {takes : σ → Member → σ → Prop} (taking : Takes member bound takes) (fuel : Nat)
    {first : Bool} {state final : σ} {text rest : Input} (short : text.length ≤ bound)
    (enough : text.length < fuel) :
    readMembers member fuel first state text = .ok (final, rest) ↔
      ∃ members, Laid first text members rest ∧ Folds takes state members final := by
  induction fuel generalizing first state text with
  | zero => exact absurd enough (Nat.not_lt_zero _)
  | succ fuel ih =>
    constructor
    · intro read
      obtain ⟨next, found, later⟩ := (bind_ok_iff _ _ _).mp read
      cases next with
      | closed behind =>
        cases later
        exact ⟨[], .close ((nextName_closed_iff _ _ _).mp found), rfl⟩
      | more quoted =>
        have opens := (nextName_more_iff _ _ _).mp found
        obtain ⟨⟨name, colon⟩, string, later⟩ := (bind_ok_iff _ _ _).mp later
        obtain ⟨⟨next, behind⟩, one, others⟩ := (bind_ok_iff _ _ _).mp later
        have string := (readString_ok_iff _ _ _).mp string
        have start := opens.shorter
        have colonLength := string.shorter
        obtain ⟨value, parts, passed, taken⟩ :=
          (taking state name colon next behind (by omega)).mp one
        have valueLength := skipSpaces_front parts
        have restLength := passed.shorter
        obtain ⟨members, laid, folds⟩ := (ih (by omega) (by omega)).mp others
        exact ⟨⟨name, value, behind⟩ :: members, .member opens string parts passed laid, next, taken,
          folds⟩
    · intro given
      obtain ⟨members, laid, folds⟩ := given
      cases laid with
      | close closes =>
        have found := (nextName_closed_iff first text rest).mpr closes
        cases folds
        simp only [readMembers, found, ok_bind]
        rfl
      | @member _ _ quoted colon _ one others opens string parts passed more =>
        obtain ⟨next, taken, folds⟩ := folds
        have found := (nextName_more_iff first text quoted).mpr opens
        have name := (readString_ok_iff quoted one.name colon).mpr string
        have start := opens.shorter
        have colonLength := string.shorter
        have valueLength := skipSpaces_front parts
        have restLength := passed.shorter
        have read := (taking state one.name colon next one.rest (by omega)).mpr
          ⟨one.value, parts, passed, taken⟩
        simp only [readMembers, found, name, read, ok_bind]
        exact (ih (by omega) (by omega)).mpr ⟨others, more, folds⟩

theorem readObject_ok_iff (expected : Shape)
    {member : σ → String → Input → Except Error (σ × Input)} {fuel : Nat}
    {takes : σ → Member → σ → Prop} (taking : Takes member fuel takes) {start final : σ}
    {text rest : Input} (enough : text.length < fuel) :
    readObject expected member start fuel text = .ok (final, rest) ↔
      ∃ inner members, skipSpaces text = .char '\x7b' :: inner ∧ Laid true inner members rest ∧
        Folds takes start members final := by
  unfold readObject
  constructor
  · intro read
    split at read
    · rename_i inner front
      have length := skipSpaces_front front
      obtain ⟨members, laid, folds⟩ :=
        (readMembers_ok_iff taking fuel (by omega) (by omega)).mp read
      exact ⟨inner, members, front, laid, folds⟩
    · exact absurd read (refuse_fails _ _ _)
  · intro given
    obtain ⟨inner, members, front, laid, folds⟩ := given
    have length := skipSpaces_front front
    rw [front]
    exact (readMembers_ok_iff taking fuel (by omega) (by omega)).mpr ⟨members, laid, folds⟩

theorem readEntire_ok_iff {α : Type} (reader : Nat → Input → Except Error (α × Input))
    (text : Input) (a : α) :
    readEntire reader text = .ok a ↔
      ∃ rest, reader (text.length + 1) text = .ok (a, rest) ∧ skipSpaces rest = [] := by
  constructor
  · intro read
    obtain ⟨⟨found, rest⟩, known, next⟩ := (bind_ok_iff _ _ _).mp read
    cases blank : skipSpaces rest with
    | nil =>
      simp only [blank] at next
      cases next
      exact ⟨rest, known, blank⟩
    | cons symbol more =>
      simp only [blank] at next
      cases next
  · intro given
    obtain ⟨rest, known, blank⟩ := given
    simp only [readEntire, known, ok_bind, blank]
    rfl

def readRecord {α : Type} (list : Input → Except Error (α × Input)) (expected : Shape)
    (member : Nat → σ → String → Input → Except Error (σ × Input)) (start : σ)
    (finish : σ → Except Error α) (fuel : Nat) (text : Input) : Except Error (α × Input) :=
  match skipSpaces text with
  | .char '[' :: rest => list rest
  | text => do
    let (final, rest) ← readObject expected (member fuel) start fuel text
    return (← finish final, rest)

theorem readRecord_ok_iff {α : Type} (list : Input → Except Error (α × Input)) (expected : Shape)
    {member : Nat → σ → String → Input → Except Error (σ × Input)}
    {takes : σ → Member → σ → Prop} (taking : ∀ fuel, Takes (member fuel) fuel takes) (start : σ)
    (finish : σ → Except Error α) (text : Input) (a : α) :
    readEntire (readRecord list expected member start finish) text = .ok a ↔
      (∃ inner rest, skipSpaces text = .char '[' :: inner ∧ list inner = .ok (a, rest) ∧
          skipSpaces rest = []) ∨
        ∃ members final, ObjectText text members ∧ Folds takes start members final ∧
          finish final = .ok a := by
  have length := skipSpaces_length text
  rw [readEntire_ok_iff]
  constructor
  · intro read
    obtain ⟨rest, known, blank⟩ := read
    unfold readRecord at known
    split at known
    · rename_i inner opens
      exact Or.inl ⟨inner, rest, opens, known, blank⟩
    · obtain ⟨⟨final, behind⟩, taken, later⟩ := (bind_ok_iff _ _ _).mp known
      obtain ⟨made, finished, same⟩ := (bind_ok_iff _ _ _).mp later
      cases same
      obtain ⟨inner, members, front, laid, folds⟩ :=
        (readObject_ok_iff expected (taking _) (by omega)).mp taken
      rw [skipSpaces_again] at front
      exact Or.inr ⟨members, final, ⟨inner, rest, front, laid, blank⟩, folds, finished⟩
  · intro form
    unfold readRecord
    rcases form with ⟨inner, rest, opens, known, blank⟩ |
      ⟨members, final, ⟨inner, rest, front, laid, blank⟩, folds, finished⟩
    · refine ⟨rest, ?_, blank⟩
      rw [opens]
      exact known
    · have taken : readObject expected (member (text.length + 1)) start (text.length + 1)
          (skipSpaces text) = .ok (final, rest) :=
        (readObject_ok_iff expected (taking _) (by omega)).mpr
          ⟨inner, members, (skipSpaces_again text).trans front, laid, folds⟩
      refine ⟨rest, ?_, blank⟩
      rw [front] at taken ⊢
      split
      · rename_i opened
        cases opened
      · simp only [taken, ok_bind, finished]
        rfl

end Taking

/-! Fields -/

section Fields

variable {α : Type}

/-- A field is set by the one member of its name, or left as it was where there is none. -/
def Fills (reads : Member → α → Prop) (name : String) (before : Option α) (members : List Member)
    (after : Option α) : Prop :=
  (members.filter (fun one => one.name = name) = [] ∧ after = before) ∨
    ∃ one a, before = none ∧ members.filter (fun one => one.name = name) = [one] ∧ reads one a ∧
      after = some a

def Sets {σ : Type} (reads : Member → α → Prop) (field : Option α) (build : α → σ) (one : Member)
    (next : σ) : Prop :=
  field = none ∧ ∃ a, reads one a ∧ next = build a

theorem once_ok_iff (field : Option α) (name : String) (done : Unit) :
    once field name = .ok done ↔ field = none := by
  cases field <;> simp [once]

theorem field_within_ok_iff {σ : Type} {reader : Input → Except Error (α × Input)}
    (reads : Member → α → Prop) {name : String} {text : Input}
    (exact : ∀ value a rest, value.length < text.length →
      (reader value = .ok (a, rest) ↔ reads ⟨name, value, rest⟩ a))
    (passes : ∀ value a rest, reads ⟨name, value, rest⟩ a → Skipped value rest)
    (field : Option α) (build : α → σ) (next : σ) (rest : Input) :
    (once field name >>= fun _ => readColon text >>= fun value => reader value >>= fun read =>
        pure (build read.1, read.2)) = .ok (next, rest) ↔
      ∃ value, skipSpaces text = .char ':' :: value ∧ Skipped value rest ∧
        Sets reads field build ⟨name, value, rest⟩ next := by
  constructor
  · intro read
    obtain ⟨done, free, later⟩ := (bind_ok_iff _ _ _).mp read
    obtain ⟨value, colon, later⟩ := (bind_ok_iff _ _ _).mp later
    obtain ⟨⟨a, behind⟩, found, same⟩ := (bind_ok_iff _ _ _).mp later
    cases same
    have front := (readColon_ok_iff _ _).mp colon
    have form := (exact _ _ _ (skipSpaces_front front)).mp found
    exact ⟨value, front, passes _ _ _ form, (once_ok_iff _ _ _).mp free, a, form, rfl⟩
  · intro given
    obtain ⟨value, front, _, free, a, form, rfl⟩ := given
    rw [(once_ok_iff field name ()).mpr free, ok_bind, (readColon_ok_iff _ _).mpr front, ok_bind,
      (exact _ _ _ (skipSpaces_front front)).mpr form]
    rfl

theorem field_ok_iff {σ : Type} {reader : Input → Except Error (α × Input)}
    (reads : Member → α → Prop) {name : String}
    (exact : ∀ value a rest, reader value = .ok (a, rest) ↔ reads ⟨name, value, rest⟩ a)
    (passes : ∀ value a rest, reads ⟨name, value, rest⟩ a → Skipped value rest)
    (field : Option α) (build : α → σ) (text : Input) (next : σ) (rest : Input) :
    (once field name >>= fun _ => readColon text >>= fun value => reader value >>= fun read =>
        pure (build read.1, read.2)) = .ok (next, rest) ↔
      ∃ value, skipSpaces text = .char ':' :: value ∧ Skipped value rest ∧
        Sets reads field build ⟨name, value, rest⟩ next :=
  field_within_ok_iff reads (fun value a rest _ => exact value a rest) passes field build next rest

theorem passed_ok_iff {σ : Type} {fuel : Nat} {text : Input} (enough : text.length < fuel)
    (state next : σ) (rest : Input) :
    (readColon text >>= fun value => skipValue fuel value >>= fun rest => pure (state, rest)) =
        .ok (next, rest) ↔
      ∃ value, skipSpaces text = .char ':' :: value ∧ Skipped value rest ∧ next = state := by
  constructor
  · intro read
    obtain ⟨value, colon, later⟩ := (bind_ok_iff _ _ _).mp read
    obtain ⟨behind, skipped, same⟩ := (bind_ok_iff _ _ _).mp later
    cases same
    have front := (readColon_ok_iff _ _).mp colon
    have length := skipSpaces_front front
    exact ⟨value, front, (skipValue_ok_iff (by omega) _).mp skipped, rfl⟩
  · intro given
    obtain ⟨value, front, skipped, rfl⟩ := given
    have length := skipSpaces_front front
    rw [(readColon_ok_iff _ _).mpr front, ok_bind, (skipValue_ok_iff (by omega) _).mpr skipped]
    rfl

theorem fills_nil_iff (reads : Member → α → Prop) (name : String) (before after : Option α) :
    Fills reads name before [] after ↔ after = before := by
  simp [Fills]

theorem fills_other_iff (reads : Member → α → Prop) {name : String} {one : Member}
    (different : one.name ≠ name) (before : Option α) (others : List Member) (after : Option α) :
    Fills reads name before (one :: others) after ↔ Fills reads name before others after := by
  simp [Fills, different]

theorem fills_same_iff (reads : Member → α → Prop) {name : String} {one : Member}
    (same : one.name = name) (before : Option α) (others : List Member) (after : Option α) :
    Fills reads name before (one :: others) after ↔
      before = none ∧ ∃ a, reads one a ∧ Fills reads name (some a) others after := by
  constructor
  · intro given
    rcases given with ⟨absent, _⟩ | ⟨only, a, free, found, read, rfl⟩
    · simp [same] at absent
    · simp only [same, decide_true, List.filter_cons_of_pos, List.cons.injEq] at found
      obtain ⟨rfl, absent⟩ := found
      exact ⟨free, a, read, Or.inl ⟨absent, rfl⟩⟩
  · intro given
    obtain ⟨free, a, read, later⟩ := given
    rcases later with ⟨absent, rfl⟩ | ⟨_, _, taken, _⟩
    · refine Or.inr ⟨one, a, free, ?_, read, rfl⟩
      simp [same, absent]
    · cases taken

end Fields

end SessionGate.Json
