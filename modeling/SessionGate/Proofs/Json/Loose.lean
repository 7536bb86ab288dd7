import SessionGate.Proofs.Json.Written

/- The strings and numbers that the lenient reader passes over, each told by its own text and not with what
   is left behind it. -/
namespace SessionGate.Json

open Text (Symbol)

/-! Strings -/

theorem readHex_ok_iff (text rest : Input) (n : Nat) :
    readHex text = .ok (n, rest) ↔ ∃ digits, text = digits ++ rest ∧ readHex digits = .ok (n, []) := by
  constructor
  · intro read
    unfold readHex at read
    split at read
    · rename_i a b c d behind
      split at read
      · rename_i first second third fourth
        cases read
        refine ⟨[a, b, c, d], rfl, ?_⟩
        simp only [readHex, first, second, third, fourth]
      · cases read
    · split at read <;> cases read
  · intro given
    obtain ⟨digits, rfl, read⟩ := given
    unfold readHex at read
    split at read
    · rename_i a b c d behind
      split at read
      · rename_i first second third fourth
        cases read
        simp only [List.cons_append, List.nil_append, readHex, first, second, third, fourth]
      · cases read
    · split at read <;> cases read

/-- A text from behind the opening quote up to the closing quote, surrogates in any order. -/
inductive LooseString : Input → Prop where
  | close : LooseString [.char '"']
  | stray {bytes : List UInt8} {text : Input} (more : LooseString text) :
      LooseString (.stray bytes :: text)
  | plain {c : Char} {text : Input} (quote : c ≠ '"') (slash : c ≠ '\\')
      (printable : 0x20 ≤ c.toNat) (more : LooseString text) : LooseString (.char c :: text)
  | short {c escaped : Char} {text : Input} (named : shortEscape? c = some escaped)
      (more : LooseString text) : LooseString (.char '\\' :: .char c :: text)
  | unit {n : Nat} {digits text : Input} (four : readHex digits = .ok (n, []))
      (more : LooseString text) : LooseString (.char '\\' :: .char 'u' :: (digits ++ text))

theorem skipEscape_ok {text rest : Input} (skipped : skipEscape text = .ok rest) :
    (∃ c escaped, text = .char c :: rest ∧ shortEscape? c = some escaped) ∨
      ∃ digits n, text = .char 'u' :: (digits ++ rest) ∧ readHex digits = .ok (n, []) := by
  unfold skipEscape at skipped
  split at skipped
  · cases skipped
  · cases skipped
  · rename_i c behind
    by_cases unicode : c = 'u'
    · subst unicode
      simp only [if_true] at skipped
      obtain ⟨⟨n, after⟩, hex, found⟩ := (bind_ok_iff _ _ _).mp skipped
      cases found
      obtain ⟨digits, rfl, four⟩ := (readHex_ok_iff _ _ _).mp hex
      exact Or.inr ⟨digits, n, rfl, four⟩
    · simp only [unicode, if_false] at skipped
      split at skipped
      · rename_i named
        cases skipped
        obtain ⟨escaped, known⟩ := Option.isSome_iff_exists.mp named
        exact Or.inl ⟨c, escaped, rfl, known⟩
      · cases skipped

theorem skipSymbols_sound {μ : Type} (measure : List μ) {text rest : Input}
    (skipped : skipSymbols measure text = .ok rest) :
    ∃ used, text = used ++ rest ∧ LooseString used := by
  induction measure generalizing text with
  | nil => cases skipped
  | cons step measure ih =>
    match text with
    | [] => cases skipped
    | .stray bytes :: behind =>
      obtain ⟨used, rfl, more⟩ := ih skipped
      exact ⟨.stray bytes :: used, rfl, .stray more⟩
    | .char c :: behind =>
      unfold skipSymbols at skipped
      split at skipped
      · rename_i quote
        cases skipped
        rw [quote]
        exact ⟨[.char '"'], rfl, .close⟩
      · rename_i quote
        split at skipped
        · rename_i slash
          subst slash
          obtain ⟨after, escape, later⟩ := (bind_ok_iff _ _ _).mp skipped
          obtain ⟨used, rfl, more⟩ := ih later
          rcases skipEscape_ok escape with ⟨c, escaped, rfl, named⟩ | ⟨digits, n, rfl, four⟩
          · exact ⟨_, rfl, .short named more⟩
          · refine ⟨_, ?_, .unit four more⟩
            simp only [List.cons_append, List.append_assoc]
        · rename_i slash
          split at skipped
          · cases skipped
          · rename_i control
            obtain ⟨used, rfl, more⟩ := ih skipped
            exact ⟨.char c :: used, rfl, .plain quote slash (Nat.le_of_not_lt control) more⟩

theorem LooseString.skips {μ : Type} {used : Input} (string : LooseString used) (rest : Input)
    (measure : List μ) (enough : used.length ≤ measure.length) :
    skipSymbols measure (used ++ rest) = .ok rest := by
  induction string generalizing measure with
  | close =>
    obtain ⟨_, measure, rfl, _⟩ := measure_cons enough
    rfl
  | stray more ih =>
    obtain ⟨_, measure, rfl, lasts⟩ := measure_cons enough
    exact ih measure lasts
  | plain quote slash printable more ih =>
    obtain ⟨_, measure, rfl, lasts⟩ := measure_cons enough
    have control := Nat.not_lt.mpr printable
    simp only [List.cons_append, skipSymbols, quote, slash, control, if_false]
    exact ih measure lasts
  | @short c escaped text named more ih =>
    obtain ⟨_, measure, rfl, lasts⟩ := measure_cons enough
    have escape : skipEscape (.char c :: (text ++ rest)) = .ok (text ++ rest) := by
      simp only [skipEscape, short_not_unicode named, if_false, named, Option.isSome_some, if_true]
    rw [List.cons_append, List.cons_append, skipSymbols_escape _ escape]
    exact ih measure (by simp only [List.length_cons] at lasts; omega)
  | @unit n digits text four more ih =>
    obtain ⟨_, measure, rfl, lasts⟩ := measure_cons enough
    have hex := (readHex_ok_iff (digits ++ (text ++ rest)) (text ++ rest) n).mpr ⟨digits, rfl, four⟩
    have escape : skipEscape (.char 'u' :: (digits ++ (text ++ rest))) = .ok (text ++ rest) := by
      simp only [skipEscape, hex, if_true]
      rfl
    rw [List.cons_append, List.cons_append, List.append_assoc, skipSymbols_escape _ escape]
    exact ih measure (by simp only [List.length_cons, List.length_append] at lasts; omega)

theorem skipString_ok_iff (text rest : Input) :
    skipString text = .ok rest ↔ ∃ used, text = used ++ rest ∧ LooseString used := by
  constructor
  · exact skipSymbols_sound text
  · intro given
    obtain ⟨used, rfl, string⟩ := given
    exact string.skips rest _ (by simp)

/-! Numbers -/

def IsDigits (text : Input) : Prop :=
  ∃ ds : List Nat, ds ≠ [] ∧ (∀ d ∈ ds, d < 10) ∧ text = digitText ds

def IsWhole (text : Input) : Prop :=
  ∃ ds : List Nat, Plain ds ∧ (∀ d ∈ ds, d < 10) ∧ text = digitText ds

def IsFraction (text : Input) : Prop :=
  text = [] ∨ ∃ digits, IsDigits digits ∧ text = .char '.' :: digits

def IsExponent (text : Input) : Prop :=
  text = [] ∨ ∃ c sign digits, (c = 'e' ∨ c = 'E') ∧
    (sign = [] ∨ sign = [.char '-'] ∨ sign = [.char '+']) ∧ IsDigits digits ∧
    text = .char c :: (sign ++ digits)

def LooseNumber (text : Input) : Prop :=
  ∃ whole fraction exponent, IsWhole whole ∧ IsFraction fraction ∧ IsExponent exponent ∧
    text = whole ++ (fraction ++ exponent)

theorem skipSomeDigits_sound {text rest : Input} (skipped : skipSomeDigits text = .ok rest) :
    ∃ used, text = used ++ rest ∧ IsDigits used := by
  unfold skipSomeDigits at skipped
  split at skipped
  · cases skipped
  · rename_i d ds behind known
    cases skipped
    obtain ⟨written, small⟩ := readDigits_written known
    exact ⟨_, written, d :: ds, List.cons_ne_nil d ds, small, rfl⟩

theorem IsDigits.skips {digits rest : Input} (form : IsDigits digits)
    (ends : ∀ symbol ∈ rest.head?, digit? symbol = none) :
    skipSomeDigits (digits ++ rest) = .ok rest := by
  obtain ⟨ds, present, small, rfl⟩ := form
  obtain ⟨d, more, rfl⟩ := List.exists_cons_of_ne_nil present
  simp only [skipSomeDigits, readDigits_digitText small ends]

theorem IsDigits.front {digits : Input} (form : IsDigits digits) :
    ∃ c more, digits = .char c :: more ∧ '0' ≤ c ∧ c ≤ '9' := by
  obtain ⟨ds, present, small, rfl⟩ := form
  obtain ⟨d, more, rfl⟩ := List.exists_cons_of_ne_nil present
  exact ⟨_, _, rfl, digitChar_digit (small d List.mem_cons_self)⟩

theorem skipFraction_sound {text rest : Input} (skipped : skipFraction text = .ok rest) :
    ∃ used, text = used ++ rest ∧ IsFraction used := by
  unfold skipFraction at skipped
  split at skipped
  · obtain ⟨used, rfl, digits⟩ := skipSomeDigits_sound skipped
    exact ⟨_, rfl, Or.inr ⟨used, digits, rfl⟩⟩
  · cases skipped
    exact ⟨[], rfl, Or.inl rfl⟩

theorem skipExponent_sound {text rest : Input} (skipped : skipExponent text = .ok rest) :
    ∃ used, text = used ++ rest ∧ IsExponent used := by
  unfold skipExponent at skipped
  split at skipped
  · split at skipped
    · rename_i c behind letter
      split at skipped
      · obtain ⟨used, rfl, digits⟩ := skipSomeDigits_sound skipped
        exact ⟨_, rfl, Or.inr ⟨c, _, used, letter, Or.inr (Or.inl rfl), digits, rfl⟩⟩
      · obtain ⟨used, rfl, digits⟩ := skipSomeDigits_sound skipped
        exact ⟨_, rfl, Or.inr ⟨c, _, used, letter, Or.inr (Or.inr rfl), digits, rfl⟩⟩
      · obtain ⟨used, rfl, digits⟩ := skipSomeDigits_sound skipped
        exact ⟨_, rfl, Or.inr ⟨c, _, used, letter, Or.inl rfl, digits, rfl⟩⟩
    · cases skipped
      exact ⟨[], rfl, Or.inl rfl⟩
  · cases skipped
    exact ⟨[], rfl, Or.inl rfl⟩

theorem skipNumber_sound {text rest : Input} (skipped : skipNumber text = .ok rest) :
    ∃ used, text = used ++ rest ∧ LooseNumber used := by
  unfold skipNumber at skipped
  split at skipped
  · cases skipped
  · cases skipped
  · rename_i ds behind absent zero known
    obtain ⟨after, first, second⟩ := (bind_ok_iff _ _ _).mp skipped
    obtain ⟨exponent, rfl, powers⟩ := skipExponent_sound second
    obtain ⟨fraction, rfl, parts⟩ := skipFraction_sound first
    obtain ⟨written, small⟩ := readDigits_written known
    have plain : Plain ds := by
      refine ⟨absent, ?_⟩
      intro d e more same leads
      subst leads
      exact zero e more same
    refine ⟨_, ?_, digitText ds, fraction, exponent, ⟨ds, plain, small, rfl⟩, parts, powers, rfl⟩
    rw [written]
    simp only [List.append_assoc]

/-- What may follow the whole part, and what may follow the fraction. -/
theorem IsExponent.no_point {exponent rest : Input} (form : IsExponent exponent)
    (ends : EndsNumber rest) :
    ∀ symbol ∈ (exponent ++ rest).head?, digit? symbol = none ∧ symbol ≠ .char '.' := by
  intro symbol front
  rcases form with rfl | ⟨c, sign, digits, letter, _, _, rfl⟩
  · exact ⟨(ends symbol front).1, (ends symbol front).2.1⟩
  · cases front
    rcases letter with rfl | rfl <;> decide

theorem IsFraction.no_digit {fraction behind : Input} (form : IsFraction fraction)
    (ends : ∀ symbol ∈ behind.head?, digit? symbol = none ∧ symbol ≠ .char '.') :
    ∀ symbol ∈ (fraction ++ behind).head?, digit? symbol = none := by
  intro symbol front
  rcases form with rfl | ⟨digits, _, rfl⟩
  · exact (ends symbol front).1
  · cases front
    rfl

theorem IsFraction.skips {fraction behind : Input} (form : IsFraction fraction)
    (ends : ∀ symbol ∈ behind.head?, digit? symbol = none ∧ symbol ≠ .char '.') :
    skipFraction (fraction ++ behind) = .ok behind := by
  rcases form with rfl | ⟨digits, form, rfl⟩
  · rw [List.nil_append]
    unfold skipFraction
    split
    · exact absurd rfl (ends _ rfl).2
    · rfl
  · exact form.skips fun symbol front => (ends symbol front).1

theorem IsExponent.skips {exponent rest : Input} (form : IsExponent exponent)
    (ends : EndsNumber rest) : skipExponent (exponent ++ rest) = .ok rest := by
  rcases form with rfl | ⟨c, sign, digits, letter, signs, form, rfl⟩
  · rw [List.nil_append]
    unfold skipExponent
    split
    · rename_i c behind
      have letter : ¬ (c = 'e' ∨ c = 'E') := by
        obtain ⟨_, _, small, large⟩ := ends _ rfl
        rintro (rfl | rfl)
        · exact small rfl
        · exact large rfl
      simp only [letter, if_false]
    · rfl
  · have passed := form.skips ends.no_digit
    simp only [List.cons_append, skipExponent, letter, if_true]
    rcases signs with rfl | rfl | rfl
    · obtain ⟨d, more, rfl, digit⟩ := form.front
      simp only [List.nil_append]
      split
      · rename_i same
        cases same
        exact absurd digit (by decide)
      · rename_i same
        cases same
        exact absurd digit (by decide)
      · exact passed
    · exact passed
    · exact passed

theorem LooseNumber.skips {number rest : Input} (form : LooseNumber number)
    (ends : EndsNumber rest) : skipNumber (number ++ rest) = .ok rest := by
  obtain ⟨whole, fraction, exponent, ⟨ds, plain, small, rfl⟩, parts, powers, rfl⟩ := form
  have point := powers.no_point ends
  have known := readDigits_digitText small (parts.no_digit point)
  have first := parts.skips point
  have second := powers.skips ends
  rw [List.append_assoc, List.append_assoc]
  unfold skipNumber
  rw [known]
  split
  · rename_i same
    cases same
    exact absurd rfl plain.1
  · rename_i e more behind same
    cases same
    exact absurd rfl (plain.2 0 e more rfl)
  · rename_i same
    cases same
    rw [first, ok_bind, second]

theorem LooseNumber.front {number : Input} (form : LooseNumber number) :
    ∃ c more, number = .char c :: more ∧ '0' ≤ c ∧ c ≤ '9' := by
  obtain ⟨whole, fraction, exponent, ⟨ds, plain, small, rfl⟩, _, _, rfl⟩ := form
  obtain ⟨c, more, front, digit⟩ := IsDigits.front ⟨ds, plain.1, small, rfl⟩
  exact ⟨c, more ++ (fraction ++ exponent), by rw [front]; rfl, digit⟩

end SessionGate.Json
