import SessionGate.Json.Skip
import SessionGate.Proofs.Text.Encoding

/- Which texts are strings and which characters they stand for. The strict reader accepts exactly
   these, and the lenient one passes over each of them to the same rest. -/
namespace SessionGate.Json

open Text (Symbol)

theorem bind_ok_iff {ε α β : Type} (first : Except ε α) (next : α → Except ε β) (b : β) :
    (first >>= next) = .ok b ↔ ∃ a, first = .ok a ∧ next a = .ok b := by
  cases first with
  | error e =>
    constructor
    · intro failed
      cases failed
    · intro given
      obtain ⟨a, failed, _⟩ := given
      cases failed
  | ok a =>
    constructor
    · intro done
      exact ⟨a, rfl, done⟩
    · intro given
      obtain ⟨_, same, done⟩ := given
      cases same
      exact done

theorem ok_bind {ε α β : Type} (a : α) (next : α → Except ε β) :
    ((.ok a : Except ε α) >>= next) = next a := rfl

theorem ok_of_mapError {ε ζ α : Type} {f : ε → ζ} {result : Except ε α} {a : α}
    (same : result.mapError f = .ok a) : result = .ok a := by
  cases result with
  | error e => cases same
  | ok found =>
    cases same
    rfl

def paired (leading trailing : Nat) : Char :=
  Char.ofNat (0x10000 + (leading - 0xD800) * 0x400 + (trailing - 0xDC00))

/-- A text from behind the opening quote, the characters of the string, and the rest behind the
closing quote. -/
inductive StringText : Input → List Char → Input → Prop where
  | close (rest : Input) : StringText (.char '"' :: rest) [] rest
  | plain {c : Char} {text rest : Input} {cs : List Char} (quote : c ≠ '"') (slash : c ≠ '\\')
      (printable : 0x20 ≤ c.toNat) (more : StringText text cs rest) :
      StringText (.char c :: text) (c :: cs) rest
  | short {c escaped : Char} {text rest : Input} {cs : List Char}
      (named : shortEscape? c = some escaped) (more : StringText text cs rest) :
      StringText (.char '\\' :: .char c :: text) (escaped :: cs) rest
  | unit {n : Nat} {text behind rest : Input} {cs : List Char}
      (digits : readHex text = .ok (n, behind)) (leads : isLeading n = false)
      (trails : isTrailing n = false) (more : StringText behind cs rest) :
      StringText (.char '\\' :: .char 'u' :: text) (Char.ofNat n :: cs) rest
  | pair {high low : Nat} {text middle behind rest : Input} {cs : List Char}
      (first : readHex text = .ok (high, .char '\\' :: .char 'u' :: middle))
      (leads : isLeading high = true) (second : readHex middle = .ok (low, behind))
      (trails : isTrailing low = true) (more : StringText behind cs rest) :
      StringText (.char '\\' :: .char 'u' :: text) (paired high low :: cs) rest

theorem readHex_shorter {text rest : Input} {n : Nat} (read : readHex text = .ok (n, rest)) :
    text.length = rest.length + 4 := by
  unfold readHex at read
  split at read
  · split at read
    · cases read
      rfl
    · cases read
  · split at read <;> cases read

theorem leading_not_trailing {n : Nat} (leads : isLeading n = true) : isTrailing n = false := by
  simp only [isLeading, Bool.and_eq_true, decide_eq_true_eq] at leads
  simp only [isTrailing, Bool.and_eq_false_iff, decide_eq_false_iff_not]
  omega

theorem readTrailing_ok {leading : Nat} {text rest : Input} {c : Char}
    (read : readTrailing leading text = .ok (c, rest)) :
    ∃ middle low, text = .char '\\' :: .char 'u' :: middle ∧ readHex middle = .ok (low, rest) ∧
      isTrailing low = true ∧
      c = paired leading low := by
  unfold readTrailing at read
  split at read
  · cases read
  · cases read
  · rename_i middle
    obtain ⟨⟨low, behind⟩, digits, found⟩ := (bind_ok_iff _ _ _).mp read
    by_cases trails : isTrailing low = true
    · simp only [trails, if_true] at found
      obtain ⟨written, rfl⟩ := Prod.mk.inj (Except.ok.inj found)
      exact ⟨middle, low, rfl, digits, trails, written.symm⟩
    · simp only [trails] at found
      cases found
  · cases read

theorem readEscape_ok {text rest : Input} {c : Char} (read : readEscape text = .ok (c, rest)) :
    (∃ named, text = .char named :: rest ∧ shortEscape? named = some c) ∨
    (∃ digits n, text = .char 'u' :: digits ∧ readHex digits = .ok (n, rest) ∧
      isLeading n = false ∧ isTrailing n = false ∧ c = Char.ofNat n) ∨
    ∃ digits high middle low, text = .char 'u' :: digits ∧
      readHex digits = .ok (high, .char '\\' :: .char 'u' :: middle) ∧ isLeading high = true ∧
      readHex middle = .ok (low, rest) ∧ isTrailing low = true ∧
      c = paired high low := by
  unfold readEscape at read
  split at read
  · cases read
  · cases read
  · rename_i named behind
    by_cases unicode : named = 'u'
    · subst unicode
      simp only [if_true] at read
      obtain ⟨⟨n, after⟩, digits, found⟩ := (bind_ok_iff _ _ _).mp read
      by_cases trails : isTrailing n = true
      · simp only [trails, if_true] at found
        cases found
      · by_cases leads : isLeading n = true
        · simp only [trails, leads, if_true] at found
          obtain ⟨middle, low, rfl, second, trailing, written⟩ := readTrailing_ok found
          exact Or.inr (Or.inr ⟨behind, n, middle, low, rfl, digits, leads, second, trailing, written⟩)
        · simp only [trails, leads] at found
          cases found
          exact Or.inr (Or.inl ⟨behind, n, rfl, digits, by simpa using leads, by simpa using trails,
            rfl⟩)
    · simp only [unicode, if_false] at read
      split at read
      · rename_i escaped known
        cases read
        exact Or.inl ⟨named, rfl, known⟩
      · cases read

/-- The induction is on the measure, which every escape outlasts. -/
theorem readSymbols_sound {μ : Type} (measure : List μ) {text rest : Input}
    {symbols : List Symbol} {cs : List Char}
    (read : readSymbols measure text = .ok (symbols, rest))
    (chars : Text.chars? symbols = some cs) : StringText text cs rest := by
  induction measure generalizing text symbols cs with
  | nil => cases read
  | cons _ measure ih =>
    match text with
    | [] => cases read
    | .stray bytes :: behind =>
      obtain ⟨⟨more, after⟩, _, found⟩ := (bind_ok_iff _ _ _).mp read
      cases found
      cases chars
    | .char c :: behind =>
      unfold readSymbols at read
      by_cases quote : c = '"'
      · simp only [quote, if_true] at read
        cases read
        cases chars
        rw [quote]
        exact .close rest
      · simp only [quote, if_false] at read
        by_cases slash : c = '\\'
        · simp only [slash, if_true] at read
          obtain ⟨⟨escaped, middle⟩, escape, next⟩ := (bind_ok_iff _ _ _).mp read
          obtain ⟨⟨more, after⟩, later, found⟩ := (bind_ok_iff _ _ _).mp next
          obtain ⟨rfl, rfl⟩ := Prod.mk.inj (Except.ok.inj found)
          obtain ⟨tail, known, rfl⟩ := Option.map_eq_some_iff.mp chars
          dsimp only at later known ⊢
          have string := ih later known
          rw [slash]
          rcases readEscape_ok escape with ⟨named, rfl, short⟩ |
            ⟨digits, n, rfl, hex, leads, trails, written⟩ |
            ⟨digits, high, after, low, rfl, first, leads, second, trails, written⟩
          · exact .short short string
          · rw [written]
            exact .unit hex leads trails string
          · rw [written]
            exact .pair first leads second trails string
        · simp only [slash, if_false] at read
          by_cases control : c.toNat < 0x20
          · simp only [control, if_true] at read
            cases read
          · simp only [control, if_false] at read
            obtain ⟨⟨more, after⟩, later, found⟩ := (bind_ok_iff _ _ _).mp read
            cases found
            obtain ⟨tail, known, rfl⟩ := Option.map_eq_some_iff.mp chars
            exact .plain quote slash (Nat.le_of_not_lt control) (ih later known)

theorem StringText.shorter {text rest : Input} {cs : List Char} (string : StringText text cs rest) :
    rest.length < text.length := by
  induction string with
  | close rest => exact Nat.lt_succ_self _
  | plain quote slash printable more ih => exact Nat.lt_succ_of_lt ih
  | short named more ih =>
    simp only [List.length_cons]
    omega
  | unit digits leads trails more ih =>
    have hex := readHex_shorter digits
    simp only [List.length_cons]
    omega
  | pair first leads second trails more ih =>
    have hex := readHex_shorter first
    have other := readHex_shorter second
    simp only [List.length_cons] at hex ⊢
    omega

theorem short_not_unicode {c escaped : Char} (named : shortEscape? c = some escaped) : c ≠ 'u' := by
  intro same
  subst same
  cases named

theorem measure_cons {μ : Type} {n : Nat} {measure : List μ} (enough : n + 1 ≤ measure.length) :
    ∃ step more, measure = step :: more ∧ n ≤ more.length := by
  cases measure with
  | nil => exact absurd enough (Nat.not_succ_le_zero _)
  | cons step more => exact ⟨step, more, rfl, Nat.le_of_succ_le_succ enough⟩

theorem readSymbols_escape {μ : Type} {text behind rest : Input} {escaped : Char}
    {symbols : List Symbol} {measure : List μ} (step : μ)
    (escape : readEscape text = .ok (escaped, behind))
    (later : readSymbols measure behind = .ok (symbols, rest)) :
    readSymbols (step :: measure) (.char '\\' :: text) = .ok (.char escaped :: symbols, rest) := by
  have opened : readSymbols (step :: measure) (.char '\\' :: text) =
      (readEscape text >>= fun read => readSymbols measure read.2 >>= fun more =>
        pure (.char read.1 :: more.1, more.2)) := rfl
  rw [opened, escape, ok_bind, later]
  rfl

theorem readSymbols_complete {μ : Type} {text rest : Input} {cs : List Char}
    (string : StringText text cs rest) (measure : List μ) (enough : text.length ≤ measure.length) :
    readSymbols measure text = .ok (cs.map .char, rest) := by
  induction string generalizing measure with
  | close rest =>
    obtain ⟨_, measure, rfl, lasts⟩ := measure_cons enough
    rfl
  | @plain c text rest cs quote slash printable more ih =>
    obtain ⟨_, measure, rfl, lasts⟩ := measure_cons enough
    have later := ih measure lasts
    have control : ¬ c.toNat < 0x20 := Nat.not_lt.mpr printable
    simp only [readSymbols, quote, slash, control, if_false, later]
    rfl
  | @short c escaped text rest cs named more ih =>
    obtain ⟨_, measure, rfl, lasts⟩ := measure_cons enough
    have later := ih measure (by simp only [List.length_cons] at lasts; omega)
    have escape : readEscape (.char c :: text) = .ok (escaped, text) := by
      simp only [readEscape, short_not_unicode named, if_false, named]
    exact readSymbols_escape _ escape later
  | @unit n text behind rest cs digits leads trails more ih =>
    obtain ⟨_, measure, rfl, lasts⟩ := measure_cons enough
    have hex := readHex_shorter digits
    have later := ih measure (by simp only [List.length_cons] at lasts; omega)
    have escape : readEscape (.char 'u' :: text) = .ok (Char.ofNat n, behind) := by
      simp only [readEscape, readUnicode, digits, ok_bind, leads, trails, if_true]
      rfl
    exact readSymbols_escape _ escape later
  | @pair high low text middle behind rest cs first leads second trails more ih =>
    obtain ⟨_, measure, rfl, lasts⟩ := measure_cons enough
    have hex := readHex_shorter first
    have other := readHex_shorter second
    have later := ih measure (by simp only [List.length_cons] at lasts hex; omega)
    have escape : readEscape (.char 'u' :: text) =
        .ok (paired high low, behind) := by
      simp only [readEscape, readUnicode, first, ok_bind, leads, leading_not_trailing leads, if_true,
        readTrailing, second, trails]
      rfl
    exact readSymbols_escape _ escape later

theorem readString_ok_iff (text : Input) (s : String) (rest : Input) :
    readString text = .ok (s, rest) ↔ StringText text s.toList rest := by
  constructor
  · intro read
    obtain ⟨⟨symbols, after⟩, known, found⟩ := (bind_ok_iff _ _ _).mp read
    cases chars : Text.chars? symbols with
    | none =>
      simp only [chars] at found
      cases found
    | some cs =>
      simp only [chars] at found
      obtain ⟨rfl, rfl⟩ := Prod.mk.inj (Except.ok.inj found)
      rw [String.toList_ofList]
      exact readSymbols_sound text known chars
  · intro string
    have read := readSymbols_complete string text (Nat.le_refl _)
    simp only [readString, read, bind, Except.bind, (Text.chars_iff _ _).mpr rfl]
    rw [String.ofList_toList]
    rfl

theorem StringText.unique {text rest other : Input} {cs ds : List Char}
    (one : StringText text cs rest) (two : StringText text ds other) : cs = ds ∧ rest = other := by
  rw [← String.toList_ofList (l := cs), ← readString_ok_iff] at one
  rw [← String.toList_ofList (l := ds), ← readString_ok_iff] at two
  rw [one] at two
  obtain ⟨same, rfl⟩ := Prod.mk.inj (Except.ok.inj two)
  exact ⟨String.ofList_injective same, rfl⟩

theorem skipSymbols_escape {μ : Type} {text behind : Input} {measure : List μ} (step : μ)
    (escape : skipEscape text = .ok behind) :
    skipSymbols (step :: measure) (.char '\\' :: text) = skipSymbols measure behind := by
  have opened : skipSymbols (step :: measure) (.char '\\' :: text) =
      (skipEscape text >>= fun rest => skipSymbols measure rest) := rfl
  rw [opened, escape, ok_bind]

theorem skipSymbols_complete {μ : Type} {text rest : Input} {cs : List Char}
    (string : StringText text cs rest) (measure : List μ) (enough : text.length ≤ measure.length) :
    skipSymbols measure text = .ok rest := by
  induction string generalizing measure with
  | close rest =>
    obtain ⟨_, measure, rfl, lasts⟩ := measure_cons enough
    rfl
  | @plain c text rest cs quote slash printable more ih =>
    obtain ⟨_, measure, rfl, lasts⟩ := measure_cons enough
    have control : ¬ c.toNat < 0x20 := Nat.not_lt.mpr printable
    simp only [skipSymbols, quote, slash, control, if_false]
    exact ih measure lasts
  | @short c escaped text rest cs named more ih =>
    obtain ⟨_, measure, rfl, lasts⟩ := measure_cons enough
    have escape : skipEscape (.char c :: text) = .ok text := by
      simp only [skipEscape, short_not_unicode named, if_false, named, Option.isSome_some, if_true]
    rw [skipSymbols_escape _ escape]
    exact ih measure (by simp only [List.length_cons] at lasts; omega)
  | @unit n text behind rest cs digits leads trails more ih =>
    obtain ⟨_, measure, rfl, lasts⟩ := measure_cons enough
    have hex := readHex_shorter digits
    have escape : skipEscape (.char 'u' :: text) = .ok behind := by
      simp only [skipEscape, digits, if_true]
      rfl
    rw [skipSymbols_escape _ escape]
    exact ih measure (by simp only [List.length_cons] at lasts; omega)
  | @pair high low text middle behind rest cs first leads second trails more ih =>
    have hex := readHex_shorter first
    have other := readHex_shorter second
    simp only [List.length_cons] at enough hex
    obtain ⟨_, measure, rfl, lasts⟩ := measure_cons enough
    obtain ⟨_, measure, rfl, lasts⟩ := measure_cons lasts
    have escape : skipEscape (.char 'u' :: text) = .ok (.char '\\' :: .char 'u' :: middle) := by
      simp only [skipEscape, first, if_true]
      rfl
    have again : skipEscape (.char 'u' :: middle) = .ok behind := by
      simp only [skipEscape, second, if_true]
      rfl
    rw [skipSymbols_escape _ escape, skipSymbols_escape _ again]
    exact ih measure (by simp only [List.length_cons] at lasts; omega)

theorem skipString_complete {text rest : Input} {cs : List Char}
    (string : StringText text cs rest) : skipString text = .ok rest :=
  skipSymbols_complete string text (Nat.le_refl _)

end SessionGate.Json
