import SessionGate.Proofs.Json.Loose

/- The texts that the lenient reader takes for a value, each by itself and not with what is left behind it.
   Neither its fuel nor its order of work shows in them: it accepts exactly these, and where one of them
   stands, it stops at its end, unless a number is followed by something that could still belong to it. -/
namespace SessionGate.Json

open Text (Symbol)

/-- The parts of a text that nest in one another: a value, a member, and what stands behind a bracket or
behind one of the items. -/
inductive Place where
  | value
  | member
  | items (first : Bool)
  | members (first : Bool)

inductive Loose : Place → Input → Prop where
  | spaced {place : Place} {lead text : Input} (spaces : Spaces lead) (more : Loose place text) :
      Loose place (lead ++ text)
  | null : Loose .value (['n', 'u', 'l', 'l'].map .char)
  | yes : Loose .value (['t', 'r', 'u', 'e'].map .char)
  | no : Loose .value (['f', 'a', 'l', 's', 'e'].map .char)
  | text {quoted : Input} (string : LooseString quoted) : Loose .value (.char '"' :: quoted)
  | negative {number : Input} (digits : LooseNumber number) : Loose .value (.char '-' :: number)
  | natural {number : Input} (digits : LooseNumber number) : Loose .value number
  | array {items : Input} (listed : Loose (.items true) items) : Loose .value (.char '[' :: items)
  | object {members : Input} (listed : Loose (.members true) members) :
      Loose .value (.char '\x7b' :: members)
  | lastItem {first : Bool} : Loose (.items first) [.char ']']
  | firstItem {value rest : Input} (one : Loose .value value) (more : Loose (.items false) rest) :
      Loose (.items true) (value ++ rest)
  | laterItem {value rest : Input} (one : Loose .value value) (more : Loose (.items false) rest) :
      Loose (.items false) (.char ',' :: (value ++ rest))
  | member {quoted gap value : Input} (string : LooseString quoted) (spaces : Spaces gap)
      (one : Loose .value value) :
      Loose .member (.char '"' :: (quoted ++ (gap ++ .char ':' :: value)))
  | lastMember {first : Bool} : Loose (.members first) [.char '\x7d']
  | firstMember {member rest : Input} (one : Loose .member member)
      (more : Loose (.members false) rest) : Loose (.members true) (member ++ rest)
  | laterMember {member rest : Input} (one : Loose .member member)
      (more : Loose (.members false) rest) : Loose (.members false) (.char ',' :: (member ++ rest))

theorem loose_behind_spaces {place : Place} {text used rest : Input}
    (front : skipSpaces text = used ++ rest) (loose : Loose place used) :
    ∃ whole, text = whole ++ rest ∧ Loose place whole := by
  obtain ⟨lead, spaces, parts⟩ := spaces_in_front text
  refine ⟨lead ++ used, ?_, .spaced spaces loose⟩
  rw [List.append_assoc, ← front]
  exact parts

/-! What is passed over -/

theorem skipScalar_sound {text rest : Input} (skipped : skipScalar text = .ok rest) :
    ∃ used, text = used ++ rest ∧ Loose .value used := by
  match text with
  | [] => cases skipped
  | .stray _ :: _ => cases skipped
  | .char c :: behind =>
    simp only [skipScalar] at skipped
    split at skipped
    · rename_i first
      rw [first, (readWord_ok_iff _ _ _).mp skipped]
      exact ⟨_, rfl, .null⟩
    split at skipped
    · rename_i first
      rw [first, (readWord_ok_iff _ _ _).mp skipped]
      exact ⟨_, rfl, .yes⟩
    split at skipped
    · rename_i first
      rw [first, (readWord_ok_iff _ _ _).mp skipped]
      exact ⟨_, rfl, .no⟩
    split at skipped
    · rename_i first
      obtain ⟨used, rfl, string⟩ := (skipString_ok_iff _ _).mp skipped
      rw [first]
      exact ⟨_, rfl, .text string⟩
    split at skipped
    · rename_i first
      obtain ⟨used, rfl, digits⟩ := skipNumber_sound skipped
      rw [first]
      exact ⟨_, rfl, .negative digits⟩
    split at skipped
    · obtain ⟨used, parts, digits⟩ := skipNumber_sound skipped
      exact ⟨used, parts, .natural digits⟩
    · cases skipped

def Sound (item : Input → Except Error Input) : Prop :=
  ∀ text rest, item text = .ok rest → ∃ used, text = used ++ rest ∧ Loose .value used

theorem skipItems_sound {item : Input → Except Error Input} (sound : Sound item) (fuel : Nat)
    {first : Bool} {text rest : Input} (skipped : skipItems item fuel first text = .ok rest) :
    ∃ used, text = used ++ rest ∧ Loose (.items first) used := by
  induction fuel generalizing first text with
  | zero => cases skipped
  | succ fuel ih =>
    obtain ⟨next, found, later⟩ := (bind_ok_iff _ _ _).mp skipped
    cases next with
    | closed behind =>
      cases later
      exact loose_behind_spaces (skipToItem_closed_front found) .lastItem
    | more behind =>
      obtain ⟨after, one, others⟩ := (bind_ok_iff _ _ _).mp later
      obtain ⟨value, rfl, form⟩ := sound _ _ one
      obtain ⟨more, rfl, forms⟩ := ih others
      have front := skipToItem_more_front found
      cases first with
      | true =>
        refine loose_behind_spaces ?_ (.firstItem form forms)
        rw [front, List.append_assoc]
        rfl
      | false =>
        refine loose_behind_spaces ?_ (.laterItem form forms)
        rw [front, List.cons_append, List.append_assoc]
        rfl

theorem skipMembers_sound {item : Input → Except Error Input} (sound : Sound item) (fuel : Nat)
    {first : Bool} {text rest : Input} (skipped : skipMembers item fuel first text = .ok rest) :
    ∃ used, text = used ++ rest ∧ Loose (.members first) used := by
  induction fuel generalizing first text with
  | zero => cases skipped
  | succ fuel ih =>
    obtain ⟨next, found, later⟩ := (bind_ok_iff _ _ _).mp skipped
    cases next with
    | closed behind =>
      cases later
      exact loose_behind_spaces (skipToName_closed_front found) .lastMember
    | more quoted =>
      obtain ⟨colon, name, later⟩ := (bind_ok_iff _ _ _).mp later
      obtain ⟨value, sign, later⟩ := (bind_ok_iff _ _ _).mp later
      obtain ⟨after, one, others⟩ := (bind_ok_iff _ _ _).mp later
      obtain ⟨string, rfl, spelled⟩ := (skipString_ok_iff _ _).mp name
      obtain ⟨gap, spaces, parts⟩ := spaces_in_front colon
      rw [(readColon_ok_iff _ _).mp sign] at parts
      subst parts
      obtain ⟨value, rfl, form⟩ := sound _ _ one
      obtain ⟨more, rfl, forms⟩ := ih others
      have member := Loose.member spelled spaces form
      have opens : Opens first text _ := skipToName_more_front found
      cases first with
      | true =>
        refine loose_behind_spaces ?_ (.firstMember member forms)
        rw [show skipSpaces text = _ from opens]
        simp only [List.cons_append, List.append_assoc]
      | false =>
        obtain ⟨behind, comma, front⟩ := opens
        have front : skipSpaces behind =
            .char '"' :: (string ++ (gap ++ .char ':' :: value)) ++ (more ++ rest) := by
          rw [front]
          simp only [List.cons_append, List.append_assoc]
        obtain ⟨whole, rfl, form⟩ := loose_behind_spaces front member
        refine loose_behind_spaces ?_ (.laterMember form forms)
        rw [comma, List.cons_append, List.append_assoc]

theorem skipValue_sound (fuel : Nat) : Sound (skipValue fuel) := by
  induction fuel with
  | zero =>
    intro text rest skipped
    cases skipped
  | succ fuel ih =>
    intro text rest skipped
    unfold skipValue at skipped
    split at skipped
    · rename_i inner front
      obtain ⟨items, rfl, listed⟩ := skipItems_sound ih _ skipped
      exact loose_behind_spaces front (.array listed)
    · rename_i inner front
      obtain ⟨members, rfl, listed⟩ := skipMembers_sound ih _ skipped
      exact loose_behind_spaces front (.object listed)
    · obtain ⟨used, front, loose⟩ := skipScalar_sound skipped
      exact loose_behind_spaces front loose

/-! What is of the form -/

theorem Loose.ends {place : Place} {used : Input} (loose : Loose place used)
    (later : place = .items false ∨ place = .members false) (rest : Input) :
    EndsNumber (used ++ rest) := by
  induction loose with
  | @spaced place lead text spaces more ih =>
    cases lead with
    | nil => exact ih later
    | cons symbol lead =>
      obtain ⟨c, rfl, space⟩ := spaces.front rfl
      exact endsNumber_of_front (Or.inl space) _
  | lastItem => exact endsNumber_of_front (Or.inr (Or.inr (Or.inl rfl))) _
  | laterItem => exact endsNumber_of_front (Or.inr (Or.inl rfl)) _
  | lastMember => exact endsNumber_of_front (Or.inr (Or.inr (Or.inr rfl))) _
  | laterMember => exact endsNumber_of_front (Or.inr (Or.inl rfl)) _
  | _ => rcases later with same | same <;> cases same

theorem Skipped.stands {text rest : Input} (skipped : Skipped text rest) :
    Stands (skipSpaces text) := by
  unfold Skipped skipValue at skipped
  constructor
  · intro none
    rw [none] at skipped
    cases skipped
  · intro behind closed
    rw [closed] at skipped
    cases skipped

theorem skipped_of_scalar {c : Char} {behind rest : Input}
    (apart : isSpace c = false ∧ c ≠ '[' ∧ c ≠ '\x7b')
    (skipped : skipScalar (.char c :: behind) = .ok rest) : Skipped (.char c :: behind) rest := by
  unfold Skipped skipValue
  rw [skipSpaces_apart apart.1]
  split
  · rename_i opened
    cases opened
    exact absurd rfl apart.2.1
  · rename_i opened
    cases opened
    exact absurd rfl apart.2.2
  · exact skipped

/-- What the lenient reader makes of a text that stands in its place. -/
def Passing : Place → Input → Prop
  | .value, used => ∀ rest, EndsNumber rest → Skipped (used ++ rest) rest
  | .member, used => ∀ rest, EndsNumber rest → ∃ quoted colon value,
      skipSpaces (used ++ rest) = .char '"' :: quoted ∧ skipString quoted = .ok colon ∧
        skipSpaces colon = .char ':' :: value ∧ Skipped value rest
  | .items first, used => ∀ rest, ∃ items, Lined first (used ++ rest) items rest
  | .members first, used => ∀ rest bound fuel, (used ++ rest).length < bound →
      (used ++ rest).length < fuel →
        skipMembers (fun text => skipValue bound text) fuel first (used ++ rest) = .ok rest

theorem Passing.spaced {place : Place} {lead text : Input} (spaces : Spaces lead)
    (passing : Passing place text) : Passing place (lead ++ text) := by
  have same (rest : Input) : skipSpaces (lead ++ text ++ rest) = skipSpaces (text ++ rest) := by
    rw [List.append_assoc]
    exact spaces.skipped _
  cases place with
  | value =>
    intro rest ends
    rw [← skipped_behind_spaces, same, skipped_behind_spaces]
    exact passing rest ends
  | member =>
    intro rest ends
    rw [same]
    exact passing rest ends
  | items first =>
    intro rest
    obtain ⟨items, lined⟩ := passing rest
    refine ⟨items, ?_⟩
    cases lined with
    | close closes => exact .close ((same rest).trans closes)
    | item leads passed more =>
      refine .item ?_ passed more
      unfold Leads at leads ⊢
      rwa [same]
  | members first =>
    intro rest bound fuel short enough
    simp only [List.append_assoc, List.length_append] at short enough
    have found := passing rest bound fuel (by simp only [List.length_append]; omega)
      (by simp only [List.length_append]; omega)
    obtain ⟨fuel, rfl⟩ := Nat.exists_eq_succ_of_ne_zero (Nat.ne_zero_of_lt enough)
    rw [← found]
    simp only [skipMembers, skipToName, same]

theorem Loose.passing {place : Place} {used : Input} (loose : Loose place used) :
    Passing place used := by
  induction loose with
  | spaced spaces more ih => exact ih.spaced spaces
  | null => exact fun rest ends => skipped_of_scalar (by decide) rfl
  | yes => exact fun rest ends => skipped_of_scalar (by decide) rfl
  | no => exact fun rest ends => skipped_of_scalar (by decide) rfl
  | text string =>
    exact fun rest ends => skipped_of_scalar (by decide) ((skipString_ok_iff _ _).mpr ⟨_, rfl, string⟩)
  | negative digits =>
    exact fun rest ends => skipped_of_scalar (by decide) (digits.skips ends)
  | natural digits =>
    intro rest ends
    have passed := digits.skips ends
    obtain ⟨c, more, rfl, digit⟩ := digits.front
    exact skipped_of_scalar (digit_is_apart digit) ((skipScalar_of_digit digit _).trans passed)
  | array listed ih =>
    intro rest ends
    obtain ⟨items, lined⟩ := ih rest
    exact lined.skipped (skipSpaces_apart (by decide) _)
  | @object members listed ih =>
    intro rest ends
    unfold Skipped skipValue
    rw [List.cons_append, skipSpaces_apart (by decide)]
    exact ih rest _ _ (Nat.lt_succ_self _) (Nat.lt_succ_of_lt (Nat.lt_succ_self _))
  | lastItem => exact fun rest => ⟨[], .close (skipSpaces_apart (by decide) rest)⟩
  | @firstItem value more one others first later =>
    intro rest
    obtain ⟨items, lined⟩ := later rest
    have passed := first _ (others.ends (Or.inl rfl) rest)
    rw [List.append_assoc]
    exact ⟨⟨_, _⟩ :: items,
      .item ⟨rfl, passed.stands⟩ (skipped_behind_spaces.mpr passed) lined⟩
  | @laterItem value more one others first later =>
    intro rest
    obtain ⟨items, lined⟩ := later rest
    have passed := first _ (others.ends (Or.inl rfl) rest)
    rw [List.cons_append, List.append_assoc]
    exact ⟨⟨_, _⟩ :: items, .item ⟨_, skipSpaces_apart (by decide) _, rfl, passed.stands⟩
      (skipped_behind_spaces.mpr passed) lined⟩
  | @member quoted gap value string spaces one ih =>
    intro rest ends
    refine ⟨quoted ++ (gap ++ .char ':' :: value) ++ rest, gap ++ .char ':' :: (value ++ rest),
      value ++ rest, skipSpaces_apart (by decide) _, ?_, ?_, ih rest ends⟩
    · exact (skipString_ok_iff _ _).mpr ⟨quoted, by simp only [List.append_assoc, List.cons_append], string⟩
    · rw [spaces.skipped]
      exact skipSpaces_apart (by decide) _
  | @lastMember first =>
    intro rest bound fuel short enough
    obtain ⟨fuel, rfl⟩ := Nat.exists_eq_succ_of_ne_zero (Nat.ne_zero_of_lt enough)
    simp only [skipMembers, List.cons_append, List.nil_append,
      skipToName_of_close (skipSpaces_apart (by decide) rest), ok_bind]
    rfl
  | @firstMember member more one others first later =>
    intro rest bound fuel short enough
    obtain ⟨quoted, colon, value, front, name, parts, passed⟩ :=
      first _ (others.ends (Or.inr rfl) rest)
    rw [← List.append_assoc] at front
    exact skipMembers_member (show Opens true _ _ from front) name parts passed short enough (later rest bound)
  | @laterMember member more one others first later =>
    intro rest bound fuel short enough
    obtain ⟨quoted, colon, value, front, name, parts, passed⟩ :=
      first _ (others.ends (Or.inr rfl) rest)
    rw [← List.append_assoc] at front
    have opens : Opens false (.char ',' :: (member ++ more ++ rest)) quoted :=
      ⟨_, skipSpaces_apart (by decide) _, front⟩
    exact skipMembers_member opens name parts passed short enough (later rest bound)

theorem skipped_iff_loose {text rest : Input} (ends : EndsNumber rest) :
    Skipped text rest ↔ ∃ used, text = used ++ rest ∧ Loose .value used := by
  constructor
  · exact skipValue_sound _ text rest
  · intro given
    obtain ⟨used, rfl, loose⟩ := given
    exact loose.passing rest ends

theorem loose_of_skipped {value : Input} (skipped : Skipped value []) : Loose .value value := by
  obtain ⟨used, parts, loose⟩ := skipValue_sound _ _ _ skipped
  rw [List.append_nil] at parts
  rwa [parts]

end SessionGate.Json
