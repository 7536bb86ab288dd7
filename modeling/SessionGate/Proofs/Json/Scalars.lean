import SessionGate.Proofs.Json.Skipping

/- Words, strings and numbers. The strict reader takes each of them apart, and the lenient one passes over
   it to the same rest. -/
namespace SessionGate.Json

open Text (Symbol)

theorem readWord_ok_iff (word : List Char) (text rest : Input) :
    readWord word text = .ok rest ↔ text = word.map .char ++ rest := by
  induction word generalizing text with
  | nil =>
    constructor
    · intro read
      cases read
      rfl
    · intro same
      subst same
      rfl
  | cons c word ih =>
    constructor
    · intro read
      cases text with
      | nil => cases read
      | cons symbol behind =>
        simp only [readWord] at read
        by_cases same : symbol = .char c
        · simp only [same, if_true] at read
          rw [same, (ih behind).mp read]
          rfl
        · simp only [same, if_false] at read
          cases read
    · intro same
      subst same
      simp only [List.map_cons, List.cons_append, readWord, if_true]
      exact (ih _).mpr rfl

/-! Numbers that are read are passed over -/

theorem skipSomeDigits_of_read {text rest : Input} {ds : List Nat}
    (read : readSomeDigits text = .ok (ds, rest)) : skipSomeDigits text = .ok rest := by
  obtain ⟨present, known⟩ := readSomeDigits_ok read
  obtain ⟨d, more, rfl⟩ := List.exists_cons_of_ne_nil present
  simp only [skipSomeDigits, known]

theorem skipFraction_of_read {text rest : Input} {ds : List Nat}
    (read : readFraction text = .ok (ds, rest)) : skipFraction text = .ok rest := by
  unfold skipFraction
  split
  · exact skipSomeDigits_of_read read
  · rename_i point
    unfold readFraction at read
    split at read
    · exact absurd rfl (point _)
    · cases read
      rfl

theorem skipExponent_of_read {text rest : Input} {exponent : Option Int}
    (read : readExponent text = .ok (exponent, rest)) : skipExponent text = .ok rest := by
  unfold skipExponent
  split
  · rename_i c behind
    simp only [readExponent] at read
    by_cases letter : c = 'e' ∨ c = 'E'
    · simp only [letter, if_true] at read ⊢
      split
      · obtain ⟨⟨ds, after⟩, digits, same⟩ := (bind_ok_iff _ _ _).mp read
        cases same
        exact skipSomeDigits_of_read digits
      · obtain ⟨⟨ds, after⟩, digits, same⟩ := (bind_ok_iff _ _ _).mp read
        cases same
        exact skipSomeDigits_of_read digits
      · rename_i minus plus
        split at read
        · exact absurd rfl (minus _)
        · exact absurd rfl (plus _)
        · obtain ⟨⟨ds, after⟩, digits, same⟩ := (bind_ok_iff _ _ _).mp read
          cases same
          exact skipSomeDigits_of_read digits
    · simp only [letter, if_false] at read ⊢
      cases read
      rfl
  · rename_i letter
    unfold readExponent at read
    split at read
    · exact absurd rfl (letter _ _)
    · cases read
      rfl

theorem skipNumber_of_read {negative : Bool} {text rest : Input} {n : Number}
    (read : readNumber negative text = .ok (n, rest)) : skipNumber text = .ok rest := by
  obtain ⟨⟨literal, behind⟩, parts, later⟩ := (bind_ok_iff _ _ _).mp read
  obtain ⟨number, _, same⟩ := (bind_ok_iff _ _ _).mp later
  cases same
  obtain ⟨⟨whole, afterWhole⟩, first, later⟩ := (bind_ok_iff _ _ _).mp parts
  obtain ⟨⟨fraction, afterFraction⟩, second, later⟩ := (bind_ok_iff _ _ _).mp later
  obtain ⟨⟨exponent, afterExponent⟩, third, same⟩ := (bind_ok_iff _ _ _).mp later
  cases same
  obtain ⟨plain, digits⟩ := readWhole_ok first
  unfold skipNumber
  split
  · rename_i known
    cases digits.symm.trans known
    exact absurd rfl plain.1
  · rename_i e more after known
    cases digits.symm.trans known
    exact absurd rfl (plain.2 0 e more rfl)
  · rename_i found after _ _ known
    cases digits.symm.trans known
    rw [skipFraction_of_read second, ok_bind]
    exact skipExponent_of_read third

/-! Scalars -/

/-- A text that is a word, a string or a number, and the rest behind it. -/
inductive ScalarText : Input → Value → Input → Prop where
  | null {rest : Input} : ScalarText (['n', 'u', 'l', 'l'].map .char ++ rest) .null rest
  | yes {rest : Input} : ScalarText (['t', 'r', 'u', 'e'].map .char ++ rest) (.boolean true) rest
  | no {rest : Input} : ScalarText (['f', 'a', 'l', 's', 'e'].map .char ++ rest) (.boolean false) rest
  | text {inner rest : Input} {s : String} (string : StringText inner s.toList rest) :
      ScalarText (.char '"' :: inner) (.text s) rest
  | negative {digits rest : Input} {n : Number} (number : readNumber true digits = .ok (n, rest)) :
      ScalarText (.char '-' :: digits) (.number n) rest
  | natural {c : Char} {behind rest : Input} {n : Number} (digit : '0' ≤ c ∧ c ≤ '9')
      (number : readNumber false (.char c :: behind) = .ok (n, rest)) :
      ScalarText (.char c :: behind) (.number n) rest

theorem readScalar_ok_iff (text : Input) (value : Value) (rest : Input) :
    readScalar text = .ok (value, rest) ↔ ScalarText text value rest := by
  constructor
  · intro read
    match text with
    | [] => cases read
    | .stray _ :: _ => cases read
    | .char c :: behind =>
      simp only [readScalar] at read
      split at read
      · rename_i first
        subst first
        obtain ⟨after, word, same⟩ := (bind_ok_iff _ _ _).mp read
        cases same
        rw [(readWord_ok_iff _ _ _).mp word]
        exact .null
      split at read
      · rename_i first
        subst first
        obtain ⟨after, word, same⟩ := (bind_ok_iff _ _ _).mp read
        cases same
        rw [(readWord_ok_iff _ _ _).mp word]
        exact .yes
      split at read
      · rename_i first
        subst first
        obtain ⟨after, word, same⟩ := (bind_ok_iff _ _ _).mp read
        cases same
        rw [(readWord_ok_iff _ _ _).mp word]
        exact .no
      split at read
      · rename_i first
        subst first
        obtain ⟨⟨s, after⟩, string, same⟩ := (bind_ok_iff _ _ _).mp read
        cases same
        exact .text ((readString_ok_iff _ _ _).mp string)
      split at read
      · rename_i first
        subst first
        obtain ⟨⟨n, after⟩, number, same⟩ := (bind_ok_iff _ _ _).mp read
        cases same
        exact .negative number
      split at read
      · rename_i digit
        obtain ⟨⟨n, after⟩, number, same⟩ := (bind_ok_iff _ _ _).mp read
        cases same
        exact .natural digit number
      · cases read
  · intro scalar
    cases scalar with
    | null => rfl
    | yes => rfl
    | no => rfl
    | text string =>
      have known := (readString_ok_iff _ _ _).mpr string
      show (readString _ >>= fun found => pure (Value.text found.1, found.2)) = _
      rw [known]
      rfl
    | negative number =>
      show (readNumber true _ >>= fun found => pure (Value.number found.1, found.2)) = _
      rw [number]
      rfl
    | natural digit number => rw [readScalar_of_digit digit, number, ok_bind]; rfl

theorem skipScalar_of_digit {c : Char} (digit : '0' ≤ c ∧ c ≤ '9') (rest : Input) :
    skipScalar (.char c :: rest) = skipNumber (.char c :: rest) := by
  obtain ⟨null, yes, no, quote, minus, _⟩ := digit_stands_apart digit
  simp only [skipScalar, null, yes, no, quote, minus, digit, and_self, if_true, if_false]

theorem ScalarText.skips {text rest : Input} {value : Value} (scalar : ScalarText text value rest) :
    skipScalar text = .ok rest := by
  cases scalar with
  | null => exact (readWord_ok_iff ['u', 'l', 'l'] _ rest).mpr rfl
  | yes => exact (readWord_ok_iff ['r', 'u', 'e'] _ rest).mpr rfl
  | no => exact (readWord_ok_iff ['a', 'l', 's', 'e'] _ rest).mpr rfl
  | text string => exact skipString_complete string
  | negative number => exact skipNumber_of_read number
  | natural digit number =>
    rw [skipScalar_of_digit digit]
    exact skipNumber_of_read number

theorem ScalarText.front {text rest : Input} {value : Value} (scalar : ScalarText text value rest) :
    ∃ c more, text = .char c :: more ∧ c ≠ '[' ∧ c ≠ '\x7b' ∧ c ≠ ']' := by
  cases scalar with
  | @natural c behind _ _ digit =>
    refine ⟨c, behind, rfl, ?_, ?_, ?_⟩ <;>
      · intro same
        subst same
        exact absurd digit (by decide)
  | _ => exact ⟨_, _, rfl, by decide, by decide, by decide⟩

theorem ScalarText.skipped {text rest : Input} {value : Value}
    (scalar : ScalarText (skipSpaces text) value rest) : Skipped text rest := by
  obtain ⟨c, more, front, list, object, _⟩ := scalar.front
  have skips := scalar.skips
  rw [front] at skips
  unfold Skipped skipValue
  rw [front]
  split
  · rename_i opened
    cases opened
    exact absurd rfl list
  · rename_i opened
    cases opened
    exact absurd rfl object
  · exact skips

end SessionGate.Json
