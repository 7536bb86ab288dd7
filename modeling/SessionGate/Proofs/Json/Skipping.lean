import SessionGate.Proofs.Json.Numbers

/- What the lenient reader passes over. It always leaves less than it was given, so that the fuel it
   is started with does not show in what it answers. -/
namespace SessionGate.Json

open Text (Symbol)

/-! Every part leaves less -/

theorem skipSpaces_length (text : Input) : (skipSpaces text).length ≤ text.length := by
  induction text with
  | nil => exact Nat.le_refl _
  | cons symbol rest ih =>
    cases symbol with
    | stray bytes => exact Nat.le_refl _
    | char c =>
      unfold skipSpaces
      split
      · exact Nat.le_succ_of_le ih
      · exact Nat.le_refl _

theorem readWord_length {word : List Char} {text rest : Input}
    (read : readWord word text = .ok rest) : rest.length ≤ text.length := by
  induction word generalizing text with
  | nil =>
    cases read
    exact Nat.le_refl _
  | cons c word ih =>
    cases text with
    | nil => cases read
    | cons symbol behind =>
      simp only [readWord] at read
      split at read
      · exact Nat.le_succ_of_le (ih read)
      · cases read

theorem skipEscape_shorter {text rest : Input} (skipped : skipEscape text = .ok rest) :
    rest.length < text.length := by
  unfold skipEscape at skipped
  split at skipped
  · cases skipped
  · cases skipped
  · rename_i c behind
    by_cases unicode : c = 'u'
    · simp only [unicode, if_true] at skipped
      obtain ⟨⟨n, after⟩, hex, found⟩ := (bind_ok_iff _ _ _).mp skipped
      cases found
      have length := readHex_shorter hex
      simp only [List.length_cons, length]
      omega
    · simp only [unicode, if_false] at skipped
      split at skipped
      · cases skipped
        exact Nat.lt_succ_self _
      · cases skipped

theorem skipSymbols_shorter {μ : Type} (measure : List μ) {text rest : Input}
    (skipped : skipSymbols measure text = .ok rest) : rest.length < text.length := by
  induction measure generalizing text with
  | nil => cases skipped
  | cons step measure ih =>
    match text with
    | [] => cases skipped
    | .stray bytes :: behind => exact Nat.lt_succ_of_lt (ih skipped)
    | .char c :: behind =>
      unfold skipSymbols at skipped
      split at skipped
      · cases skipped
        exact Nat.lt_succ_self _
      · split at skipped
        · obtain ⟨after, escape, later⟩ := (bind_ok_iff _ _ _).mp skipped
          exact Nat.lt_succ_of_lt (Nat.lt_trans (ih later) (skipEscape_shorter escape))
        · split at skipped
          · cases skipped
          · exact Nat.lt_succ_of_lt (ih skipped)

theorem readDigits_length {text rest : Input} {ds : List Nat}
    (known : readDigits text = (ds, rest)) : ds.length + rest.length = text.length := by
  have whole := congrArg List.length (readDigits_sound text).1
  rw [known] at whole
  simpa using whole.symm

theorem skipSomeDigits_length {text rest : Input} (skipped : skipSomeDigits text = .ok rest) :
    rest.length ≤ text.length := by
  unfold skipSomeDigits at skipped
  split at skipped
  · cases skipped
  · rename_i known
    have whole := readDigits_length known
    cases skipped
    omega

theorem skipFraction_length {text rest : Input} (skipped : skipFraction text = .ok rest) :
    rest.length ≤ text.length := by
  unfold skipFraction at skipped
  split at skipped
  · exact Nat.le_succ_of_le (skipSomeDigits_length skipped)
  · cases skipped
    exact Nat.le_refl _

theorem skipExponent_length {text rest : Input} (skipped : skipExponent text = .ok rest) :
    rest.length ≤ text.length := by
  unfold skipExponent at skipped
  split at skipped
  · split at skipped
    · split at skipped
      · have digits := skipSomeDigits_length skipped
        simp only [List.length_cons]
        omega
      · have digits := skipSomeDigits_length skipped
        simp only [List.length_cons]
        omega
      · exact Nat.le_succ_of_le (skipSomeDigits_length skipped)
    · cases skipped
      exact Nat.le_refl _
  · cases skipped
    exact Nat.le_refl _

theorem skipNumber_shorter {text rest : Input} (skipped : skipNumber text = .ok rest) :
    rest.length < text.length := by
  unfold skipNumber at skipped
  split at skipped
  · cases skipped
  · cases skipped
  · rename_i ds behind absent _ known
    obtain ⟨after, fraction, exponent⟩ := (bind_ok_iff _ _ _).mp skipped
    have whole := readDigits_length known
    have first := skipFraction_length fraction
    have second := skipExponent_length exponent
    have some := List.length_pos_iff.mpr absent
    omega

theorem skipScalar_shorter {text rest : Input} (skipped : skipScalar text = .ok rest) :
    rest.length < text.length := by
  match text with
  | [] => cases skipped
  | .stray _ :: _ => cases skipped
  | .char c :: behind =>
    simp only [skipScalar] at skipped
    repeat' split at skipped
    · exact Nat.lt_succ_of_le (readWord_length skipped)
    · exact Nat.lt_succ_of_le (readWord_length skipped)
    · exact Nat.lt_succ_of_le (readWord_length skipped)
    · exact Nat.lt_succ_of_lt (skipSymbols_shorter _ skipped)
    · exact Nat.lt_succ_of_lt (skipNumber_shorter skipped)
    · exact skipNumber_shorter skipped
    · cases skipped

theorem skipSpaces_front {text rest : Input} {symbol : Symbol}
    (front : skipSpaces text = symbol :: rest) : rest.length < text.length := by
  have length := skipSpaces_length text
  rw [front] at length
  exact length

theorem readColon_ok_iff (text rest : Input) :
    readColon text = .ok rest ↔ skipSpaces text = .char ':' :: rest := by
  unfold readColon
  constructor
  · intro read
    split at read
    · cases read
    · rename_i behind front
      cases read
      exact front
    · cases read
  · intro front
    rw [front]
    rfl

theorem skipToItem_closed_front {first : Bool} {text rest : Input}
    (next : skipToItem first text = .ok (.closed rest)) : skipSpaces text = .char ']' :: rest := by
  unfold skipToItem at next
  split at next
  · cases next
  · rename_i front
    cases next
    exact front
  · cases first with
    | true => cases next
    | false =>
      simp only [Bool.false_eq_true, if_false] at next
      split at next <;> cases next

theorem skipToItem_more_front {first : Bool} {text rest : Input}
    (next : skipToItem first text = .ok (.more rest)) :
    skipSpaces text = if first then rest else .char ',' :: rest := by
  unfold skipToItem at next
  split at next
  · cases next
  · cases next
  · cases first with
    | true =>
      cases next
      rfl
    | false =>
      simp only [Bool.false_eq_true, if_false] at next ⊢
      split at next
      · rename_i front
        cases next
        exact front
      · cases next

theorem skipToItem_more {first : Bool} {text rest : Input}
    (next : skipToItem first text = .ok (.more rest)) : rest.length ≤ text.length := by
  have front := skipToItem_more_front next
  cases first with
  | true =>
    have length := skipSpaces_length text
    rw [front] at length
    exact length
  | false => exact Nat.le_of_lt (skipSpaces_front front)

theorem opening_more {text rest : Input} (opened : skipToName.opening text = .ok (.more rest)) :
    text = .char '"' :: rest := by
  unfold skipToName.opening at opened
  split at opened
  · cases opened
  · cases opened
    rfl
  · cases opened

theorem opening_not_closed {text rest : Input} :
    skipToName.opening text ≠ .ok (.closed rest) := by
  intro opened
  unfold skipToName.opening at opened
  split at opened <;> cases opened

theorem skipToName_closed_front {first : Bool} {text rest : Input}
    (next : skipToName first text = .ok (.closed rest)) : skipSpaces text = .char '\x7d' :: rest := by
  unfold skipToName at next
  split at next
  · cases next
  · rename_i front
    cases next
    exact front
  · cases first with
    | true => exact absurd next opening_not_closed
    | false =>
      simp only [Bool.false_eq_true, if_false] at next
      split at next
      · exact absurd next opening_not_closed
      · cases next

theorem skipToName_more_front {first : Bool} {text rest : Input}
    (next : skipToName first text = .ok (.more rest)) :
    if first then skipSpaces text = .char '"' :: rest
    else ∃ behind, skipSpaces text = .char ',' :: behind ∧ skipSpaces behind = .char '"' :: rest := by
  unfold skipToName at next
  split at next
  · cases next
  · cases next
  · cases first with
    | true => exact opening_more next
    | false =>
      simp only [Bool.false_eq_true, if_false] at next
      split at next
      · rename_i behind front
        exact ⟨behind, front, opening_more next⟩
      · cases next

theorem skipToName_more {first : Bool} {text rest : Input}
    (next : skipToName first text = .ok (.more rest)) : rest.length < text.length := by
  have front := skipToName_more_front next
  cases first with
  | true => exact skipSpaces_front front
  | false =>
    obtain ⟨behind, comma, quote⟩ := front
    exact Nat.lt_trans (skipSpaces_front quote) (skipSpaces_front comma)

/-! Fuel -/

/-- What the reader of one item has to do for the loops around it. -/
def Shortens (item : Input → Except Error Input) : Prop :=
  ∀ text rest, item text = .ok rest → rest.length < text.length

theorem skipItems_shorter {item : Input → Except Error Input} (shortens : Shortens item)
    (fuel : Nat) {first : Bool} {text rest : Input}
    (skipped : skipItems item fuel first text = .ok rest) : rest.length < text.length := by
  induction fuel generalizing first text with
  | zero => cases skipped
  | succ fuel ih =>
    obtain ⟨next, found, later⟩ := (bind_ok_iff _ _ _).mp skipped
    cases next with
    | closed behind =>
      cases later
      exact skipSpaces_front (skipToItem_closed_front found)
    | more behind =>
      obtain ⟨after, one, others⟩ := (bind_ok_iff _ _ _).mp later
      have start := skipToItem_more found
      exact Nat.lt_of_lt_of_le (Nat.lt_trans (ih others) (shortens _ _ one)) start

theorem skipMembers_shorter {item : Input → Except Error Input} (shortens : Shortens item)
    (fuel : Nat) {first : Bool} {text rest : Input}
    (skipped : skipMembers item fuel first text = .ok rest) : rest.length < text.length := by
  induction fuel generalizing first text with
  | zero => cases skipped
  | succ fuel ih =>
    obtain ⟨next, found, later⟩ := (bind_ok_iff _ _ _).mp skipped
    cases next with
    | closed behind =>
      cases later
      exact skipSpaces_front (skipToName_closed_front found)
    | more behind =>
      obtain ⟨colon, name, later⟩ := (bind_ok_iff _ _ _).mp later
      obtain ⟨value, colonRead, later⟩ := (bind_ok_iff _ _ _).mp later
      obtain ⟨after, one, others⟩ := (bind_ok_iff _ _ _).mp later
      have start := skipToName_more found
      have string := skipSymbols_shorter behind name
      have colonLength := skipSpaces_front ((readColon_ok_iff _ _).mp colonRead)
      have item := shortens _ _ one
      have rest := ih others
      omega

theorem skipValue_shorter (fuel : Nat) : Shortens (skipValue fuel) := by
  induction fuel with
  | zero =>
    intro text rest skipped
    cases skipped
  | succ fuel ih =>
    intro text rest skipped
    have spaces := skipSpaces_length text
    unfold skipValue at skipped
    split at skipped
    · rename_i front
      exact Nat.lt_trans (skipItems_shorter ih _ skipped) (skipSpaces_front front)
    · rename_i front
      exact Nat.lt_trans (skipMembers_shorter ih _ skipped) (skipSpaces_front front)
    · exact Nat.lt_of_lt_of_le (skipScalar_shorter skipped) spaces

theorem skipItems_same {item other : Input → Except Error Input} (shortens : Shortens item)
    {bound : Nat} (same : ∀ text, text.length ≤ bound → item text = other text) (fuel : Nat)
    {more : Nat} {first : Bool} {text : Input} (short : text.length ≤ bound)
    (enough : text.length < fuel) (plenty : text.length < more) :
    skipItems item fuel first text = skipItems other more first text := by
  induction fuel generalizing more first text with
  | zero => exact absurd enough (Nat.not_lt_zero _)
  | succ fuel ih =>
    obtain ⟨more, rfl⟩ := Nat.exists_eq_succ_of_ne_zero (Nat.ne_zero_of_lt plenty)
    unfold skipItems
    cases found : skipToItem first text with
    | error e => rfl
    | ok next =>
      cases next with
      | closed behind => rfl
      | more behind =>
        have start := skipToItem_more found
        simp only [ok_bind, ← same behind (Nat.le_trans start short)]
        cases one : item behind with
        | error e => rfl
        | ok after =>
          have shorter := shortens _ _ one
          exact ih (by omega) (by omega) (by omega)

theorem skipMembers_same {item other : Input → Except Error Input} (shortens : Shortens item)
    {bound : Nat} (same : ∀ text, text.length ≤ bound → item text = other text) (fuel : Nat)
    {more : Nat} {first : Bool} {text : Input} (short : text.length ≤ bound)
    (enough : text.length < fuel) (plenty : text.length < more) :
    skipMembers item fuel first text = skipMembers other more first text := by
  induction fuel generalizing more first text with
  | zero => exact absurd enough (Nat.not_lt_zero _)
  | succ fuel ih =>
    obtain ⟨more, rfl⟩ := Nat.exists_eq_succ_of_ne_zero (Nat.ne_zero_of_lt plenty)
    unfold skipMembers
    cases found : skipToName first text with
    | error e => rfl
    | ok next =>
      cases next with
      | closed behind => rfl
      | more behind =>
        have start := skipToName_more found
        simp only [ok_bind]
        cases name : skipString behind with
        | error e => rfl
        | ok colon =>
          have string := skipSymbols_shorter behind name
          simp only [ok_bind]
          cases colonRead : readColon colon with
          | error e => rfl
          | ok value =>
            have colonLength := skipSpaces_front ((readColon_ok_iff _ _).mp colonRead)
            simp only [ok_bind, ← same value (by omega)]
            cases one : item value with
            | error e => rfl
            | ok after =>
              have shorter := shortens _ _ one
              exact ih (by omega) (by omega) (by omega)

theorem skipValue_same (fuel : Nat) {more : Nat} {text : Input} (enough : text.length < fuel)
    (plenty : text.length < more) : skipValue fuel text = skipValue more text := by
  induction fuel generalizing more text with
  | zero => exact absurd enough (Nat.not_lt_zero _)
  | succ fuel ih =>
    obtain ⟨more, rfl⟩ := Nat.exists_eq_succ_of_ne_zero (Nat.ne_zero_of_lt plenty)
    unfold skipValue
    split
    · rename_i rest front
      have shorter := skipSpaces_front front
      exact skipItems_same (skipValue_shorter fuel)
        (fun text short => ih (by omega) (by omega)) _ (Nat.le_refl rest.length) (by omega) (by omega)
    · rename_i rest front
      have shorter := skipSpaces_front front
      exact skipMembers_same (skipValue_shorter fuel)
        (fun text short => ih (by omega) (by omega)) _ (Nat.le_refl rest.length) (by omega) (by omega)
    · rfl

/-- A text that begins with something the lenient reader takes for a value, and the rest. -/
def Skipped (text rest : Input) : Prop := skipValue (text.length + 1) text = .ok rest

theorem skipValue_ok_iff {fuel : Nat} {text : Input} (enough : text.length < fuel) (rest : Input) :
    skipValue fuel text = .ok rest ↔ Skipped text rest := by
  rw [Skipped, skipValue_same fuel enough (Nat.lt_succ_self text.length)]

theorem Skipped.shorter {text rest : Input} (skipped : Skipped text rest) :
    rest.length < text.length :=
  skipValue_shorter _ _ _ skipped

theorem Skipped.unique {text rest other : Input} (one : Skipped text rest)
    (two : Skipped text other) : rest = other :=
  Except.ok.inj (one.symm.trans two)

end SessionGate.Json
