import SessionGate.Proofs.Json.Scalars

/- Values that can be written in one form only, and the places of the items of a list. Of each such
   value it is shown that its reader finds exactly that form, and that the lenient reader passes
   over it to the same rest. -/
namespace SessionGate.Json

open Text (Symbol)

/-! Values with one form -/

def IsText (value : Input) (s : String) (rest : Input) : Prop :=
  ∃ inner, skipSpaces value = .char '"' :: inner ∧ StringText inner s.toList rest

def IsNull (value rest : Input) : Prop :=
  skipSpaces value = Text.symbols "null" ++ rest

def IsTextOrNull (value : Input) : Option String → Input → Prop
  | none, rest => IsNull value rest
  | some s, rest => IsText value s rest

theorem skipSpaces_again (text : Input) : skipSpaces (skipSpaces text) = skipSpaces text := by
  induction text with
  | nil => rfl
  | cons symbol rest ih =>
    cases symbol with
    | stray bytes => rfl
    | char c =>
      by_cases space : isSpace c = true
      · simp only [skipSpaces, space, if_true]
        exact ih
      · simp only [skipSpaces, space]
        simp [skipSpaces, space]

theorem isText_behind_spaces {value rest : Input} {s : String} :
    IsText (skipSpaces value) s rest ↔ IsText value s rest := by
  unfold IsText
  rw [skipSpaces_again]

theorem isTextOrNull_behind_spaces {value rest : Input} {found : Option String} :
    IsTextOrNull (skipSpaces value) found rest ↔ IsTextOrNull value found rest := by
  cases found with
  | none =>
    unfold IsTextOrNull IsNull
    rw [skipSpaces_again]
  | some s => exact isText_behind_spaces

theorem isSigned_behind_spaces {value rest : Input} {n : Int} :
    IsSigned (skipSpaces value) n rest ↔ IsSigned value n rest := by
  unfold IsSigned
  rw [skipSpaces_again]

theorem readText_ok_iff (value : Input) (s : String) (rest : Input) :
    readText value = .ok (s, rest) ↔ IsText value s rest := by
  unfold readText
  constructor
  · intro read
    split at read
    · rename_i inner front
      exact ⟨inner, front, (readString_ok_iff inner s rest).mp read⟩
    · exact absurd read (refuse_fails _ _ _)
  · intro given
    obtain ⟨inner, front, string⟩ := given
    rw [front]
    exact (readString_ok_iff inner s rest).mpr string

theorem readOptional_ok_iff {α : Type} (reader : Input → Except Error (α × Input)) (value : Input)
    (found : Option α) (rest : Input) :
    readOptional reader value = .ok (found, rest) ↔
      (IsNull value rest ∧ found = none) ∨
        (∀ behind, skipSpaces value ≠ .char 'n' :: behind) ∧
          ∃ a, reader (skipSpaces value) = .ok (a, rest) ∧ found = some a := by
  unfold readOptional
  constructor
  · intro read
    split at read
    · rename_i behind front
      obtain ⟨after, word, same⟩ := (bind_ok_iff _ _ _).mp read
      cases same
      refine Or.inl ⟨?_, rfl⟩
      show skipSpaces value = _
      rw [front, (readWord_ok_iff _ _ _).mp word]
      rfl
    · rename_i other
      obtain ⟨⟨a, after⟩, known, same⟩ := (bind_ok_iff _ _ _).mp read
      cases same
      exact Or.inr ⟨other, a, known, rfl⟩
  · intro given
    rcases given with ⟨null, rfl⟩ | ⟨other, a, known, rfl⟩
    · have front : skipSpaces value = .char 'n' :: (['u', 'l', 'l'].map .char ++ rest) := null
      rw [front]
      simp only [(readWord_ok_iff _ _ _).mpr rfl, ok_bind]
      rfl
    · split
      · rename_i behind front
        exact absurd front (other behind)
      · rw [known]
        rfl

theorem readTextOrNull_ok_iff (value : Input) (found : Option String) (rest : Input) :
    readOptional readText value = .ok (found, rest) ↔ IsTextOrNull value found rest := by
  rw [readOptional_ok_iff]
  constructor
  · intro given
    rcases given with ⟨null, rfl⟩ | ⟨_, s, known, rfl⟩
    · exact null
    · exact isText_behind_spaces.mp ((readText_ok_iff _ _ _).mp known)
  · intro form
    cases found with
    | none => exact Or.inl ⟨form, rfl⟩
    | some s =>
      obtain ⟨inner, front, string⟩ := form
      refine Or.inr ⟨?_, s, ?_, rfl⟩
      · rw [front]
        nofun
      · exact (readText_ok_iff _ _ _).mpr (isText_behind_spaces.mpr ⟨inner, front, string⟩)

theorem IsText.skipped {value rest : Input} {s : String} (text : IsText value s rest) :
    Skipped value rest := by
  obtain ⟨inner, front, string⟩ := text
  have scalar : ScalarText (skipSpaces value) (.text s) rest := by
    rw [front]
    exact .text string
  exact scalar.skipped

theorem IsNull.skipped {value rest : Input} (null : IsNull value rest) : Skipped value rest := by
  have scalar : ScalarText (skipSpaces value) .null rest := by
    rw [show skipSpaces value = _ from null]
    exact .null
  exact scalar.skipped

theorem IsTextOrNull.skipped {value rest : Input} {found : Option String}
    (form : IsTextOrNull value found rest) : Skipped value rest := by
  cases found with
  | none => exact IsNull.skipped form
  | some s => exact IsText.skipped form

theorem IsSigned.skipped {value rest : Input} {n : Int} (signed : IsSigned value n rest) :
    Skipped value rest := by
  obtain ⟨integer, least, below⟩ := signed
  have wide : signedBound ≤ unsignedBound := by decide
  have read := (readScalar_integer_iff _ _ ⟨n, least, Int.lt_of_lt_of_le below wide⟩).mpr integer
  exact ((readScalar_ok_iff _ _ _).mp read).skipped

/-! Lists -/

theorem nextItem_closed_iff (first : Bool) (text rest : Input) :
    nextItem first text = .ok (.closed rest) ↔ skipSpaces text = .char ']' :: rest := by
  unfold nextItem
  constructor
  · intro next
    split at next
    · cases next
    · rename_i front
      cases next
      exact front
    · cases first with
      | true => cases next
      | false =>
        simp only [Bool.false_eq_true, if_false] at next
        split at next
        · split at next <;> cases next
        · cases next
  · intro front
    rw [front]
    rfl

/-- Where an item may stand: anywhere but at the end of the text or of the list. -/
def Stands (item : Input) : Prop := item ≠ [] ∧ ∀ rest, item ≠ .char ']' :: rest

theorem nextItem_first_iff (text item : Input) :
    nextItem true text = .ok (.more item) ↔ item = skipSpaces text ∧ Stands item := by
  unfold nextItem Stands
  constructor
  · intro next
    split at next
    · cases next
    · cases next
    · rename_i absent closed
      cases next
      exact ⟨rfl, absent, closed⟩
  · intro given
    obtain ⟨rfl, absent, closed⟩ := given
    split
    · rename_i none
      exact absurd none absent
    · rename_i rest front
      exact absurd front (closed rest)
    · rfl

theorem nextItem_later_iff (text item : Input) :
    nextItem false text = .ok (.more item) ↔
      ∃ behind, skipSpaces text = .char ',' :: behind ∧ item = skipSpaces behind ∧ Stands item := by
  unfold nextItem Stands
  constructor
  · intro next
    split at next
    · cases next
    · cases next
    · simp only [Bool.false_eq_true, if_false] at next
      split at next
      · rename_i behind front
        split at next
        · cases next
        · cases next
        · rename_i absent closed
          cases next
          exact ⟨behind, front, rfl, absent, closed⟩
      · cases next
  · intro given
    obtain ⟨behind, front, rfl, absent, closed⟩ := given
    rw [front]
    split
    · rename_i none
      cases none
    · rename_i last
      cases last
    · simp only [Bool.false_eq_true, if_false]

theorem readListEnd_ok_iff (text rest : Input) :
    readListEnd text = .ok rest ↔ skipSpaces text = .char ']' :: rest := by
  unfold readListEnd
  constructor
  · intro read
    split at read
    · cases read
    · rename_i front
      cases read
      exact front
    · split at read <;> cases read
    · cases read
  · intro front
    rw [front]
    rfl

theorem IsText.stands {value rest : Input} {s : String} (text : IsText value s rest) :
    Stands (skipSpaces value) := by
  obtain ⟨inner, front, _⟩ := text
  rw [front]
  exact ⟨List.cons_ne_nil _ _, nofun⟩

theorem IsTextOrNull.stands {value rest : Input} {found : Option String}
    (form : IsTextOrNull value found rest) : Stands (skipSpaces value) := by
  cases found with
  | none =>
    have front : skipSpaces value = .char 'n' :: (['u', 'l', 'l'].map .char ++ rest) := form
    rw [front]
    exact ⟨List.cons_ne_nil _ _, nofun⟩
  | some s => exact IsText.stands form

theorem IsSigned.stands {value rest : Input} {n : Int} (signed : IsSigned value n rest) :
    Stands (skipSpaces value) := by
  obtain ⟨c, more, front, first⟩ := signed.1.front
  rw [front]
  refine ⟨List.cons_ne_nil _ _, ?_⟩
  intro rest closed
  cases closed
  exact absurd first (by decide)

end SessionGate.Json
