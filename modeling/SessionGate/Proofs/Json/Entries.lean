import Mathlib.Data.List.Forall2
import SessionGate.Proofs.Json.Lenient

/- The texts of whole objects, put together from their members. Each member brings its own text along, from
   the blanks before its name to the blanks behind its value, so that an object with other members, or with
   the same ones in another order, is again put together. -/
namespace SessionGate.Json

open Text (Symbol)

/-! Names -/

theorem readHex_append {text rest : Input} {n : Nat} (read : readHex text = .ok (n, rest))
    (more : Input) : readHex (text ++ more) = .ok (n, rest ++ more) := by
  obtain ⟨digits, rfl, four⟩ := (readHex_ok_iff _ _ _).mp read
  rw [List.append_assoc]
  exact (readHex_ok_iff _ _ _).mpr ⟨digits, rfl, four⟩

theorem StringText.append {text rest : Input} {cs : List Char} (string : StringText text cs rest)
    (more : Input) : StringText (text ++ more) cs (rest ++ more) := by
  induction string with
  | close rest => exact .close (rest ++ more)
  | plain quote slash printable string ih => exact .plain quote slash printable ih
  | short named string ih => exact .short named ih
  | unit digits leads trails string ih => exact .unit (readHex_append digits more) leads trails ih
  | pair first leads second trails string ih =>
    exact .pair (readHex_append first more) leads (readHex_append second more) trails ih

theorem StringText.own {text rest : Input} {cs : List Char} (string : StringText text cs rest) :
    ∃ quoted, text = quoted ++ rest ∧ StringText quoted cs [] := by
  induction string with
  | close rest => exact ⟨[.char '"'], rfl, .close []⟩
  | plain quote slash printable more ih =>
    obtain ⟨quoted, rfl, own⟩ := ih
    exact ⟨_, rfl, .plain quote slash printable own⟩
  | short named more ih =>
    obtain ⟨quoted, rfl, own⟩ := ih
    exact ⟨_, rfl, .short named own⟩
  | unit digits leads trails more ih =>
    obtain ⟨quoted, rfl, own⟩ := ih
    obtain ⟨four, rfl, hex⟩ := (readHex_ok_iff _ _ _).mp digits
    have digits := (readHex_ok_iff (four ++ quoted) quoted _).mpr ⟨four, rfl, hex⟩
    refine ⟨_, ?_, .unit digits leads trails own⟩
    simp only [List.cons_append, List.append_assoc]
  | pair first leads second trails more ih =>
    obtain ⟨quoted, rfl, own⟩ := ih
    obtain ⟨low, rfl, hex⟩ := (readHex_ok_iff _ _ _).mp second
    obtain ⟨high, rfl, hex'⟩ := (readHex_ok_iff _ _ _).mp first
    have second := (readHex_ok_iff (low ++ quoted) quoted _).mpr ⟨low, rfl, hex⟩
    have first := (readHex_ok_iff (high ++ .char '\\' :: .char 'u' :: (low ++ quoted)) _ _).mpr
      ⟨high, rfl, hex'⟩
    refine ⟨_, ?_, .pair first leads second trails own⟩
    simp only [List.cons_append, List.append_assoc]

/-! Members -/

structure Entry where
  name : String
  lead : Input
  quoted : Input
  gap : Input
  value : Input
  trail : Input
  leads : Spaces lead
  spelled : StringText quoted name.toList []
  gaps : Spaces gap
  loose : Loose .value value
  trails : Spaces trail

def Entry.text (entry : Entry) : Input :=
  entry.lead ++ .char '"' :: (entry.quoted ++ (entry.gap ++ .char ':' :: (entry.value ++ entry.trail)))

def joined (entries : List Entry) : Input :=
  [.char ','].intercalate (entries.map Entry.text)

/-- What stands behind one of the members. -/
def behind (final : Input) : List Entry → Input
  | [] => .char '\x7d' :: final
  | entry :: others => .char ',' :: (entry.text ++ behind final others)

theorem joined_cons (entry : Entry) (others : List Entry) (final : Input) :
    joined (entry :: others) ++ .char '\x7d' :: final = entry.text ++ behind final others := by
  induction others generalizing entry with
  | nil => simp [joined, behind, List.intercalate]
  | cons other others ih =>
    have step : joined (entry :: other :: others) =
        entry.text ++ .char ',' :: joined (other :: others) := by
      simp [joined, List.intercalate]
    rw [step, List.append_assoc, List.cons_append, ih]
    rfl

/-- A member stands in a text where it is written. -/
structure Entry.Stands (entry : Entry) (one : Member) : Prop where
  name : one.name = entry.name
  value : one.value = entry.value ++ one.rest
  ends : EndsNumber one.rest

theorem behind_ends (final : Input) {trail : Input} (trails : Spaces trail) (entries : List Entry) :
    EndsNumber (trail ++ behind final entries) := by
  cases entries with
  | nil => exact endsNumber_behind_spaces trails (Or.inr (Or.inr rfl)) final
  | cons entry others => exact endsNumber_behind_spaces trails (Or.inl rfl) _

theorem entry_of_member {text quoted colon trail more : Input} {one : Member}
    (opens : Opens true text quoted) (string : StringText quoted one.name.toList colon)
    (parts : skipSpaces colon = .char ':' :: one.value) (passed : Skipped one.value one.rest)
    (trails : Spaces trail) (rest : one.rest = trail ++ more) (ends : EndsNumber one.rest) :
    ∃ entry : Entry, text = entry.text ++ more ∧ entry.Stands one := by
  obtain ⟨lead, leads, rfl⟩ := spaces_before opens
  obtain ⟨quoted, rfl, spelled⟩ := string.own
  obtain ⟨gap, gaps, rfl⟩ := spaces_before parts
  obtain ⟨value, same, loose⟩ := (skipped_iff_loose ends).mp passed
  refine ⟨⟨one.name, lead, quoted, gap, value, trail, leads, spelled, gaps, loose, trails⟩, ?_,
    rfl, same, ends⟩
  rw [same, rest]
  simp only [Entry.text, List.cons_append, List.append_assoc]

theorem Laid.behind_one {text final : Input} {members : List Member}
    (laid : Laid false text members final) :
    ∃ trail entries, Spaces trail ∧ text = trail ++ behind final entries ∧
      List.Forall₂ Entry.Stands entries members := by
  generalize later : false = first at laid
  induction laid with
  | close closes =>
    obtain ⟨trail, trails, rfl⟩ := spaces_before closes
    exact ⟨trail, [], trails, rfl, .nil⟩
  | @member first text quoted colon final one others opens string parts passed more ih =>
    subst later
    obtain ⟨trail, entries, trails, rest, matched⟩ := ih rfl
    obtain ⟨item, comma, opens⟩ := opens
    obtain ⟨gap, gaps, rfl⟩ := spaces_before comma
    have ends : EndsNumber one.rest := rest ▸ behind_ends final trails entries
    obtain ⟨entry, rfl, stands⟩ := entry_of_member opens string parts passed trails rest ends
    exact ⟨gap, entry :: entries, gaps, rfl, .cons stands matched⟩

theorem Laid.entries {text final : Input} {one : Member} {others : List Member}
    (laid : Laid true text (one :: others) final) :
    ∃ entries, text = joined entries ++ .char '\x7d' :: final ∧
      List.Forall₂ Entry.Stands entries (one :: others) := by
  cases laid with
  | member opens string parts passed more =>
    obtain ⟨trail, entries, trails, rest, matched⟩ := more.behind_one
    have ends : EndsNumber one.rest := rest ▸ behind_ends final trails entries
    obtain ⟨entry, rfl, stands⟩ := entry_of_member opens string parts passed trails rest ends
    exact ⟨entry :: entries, (joined_cons entry entries final).symm, .cons stands matched⟩

def Entry.member (entry : Entry) (rest : Input) : Member := ⟨entry.name, entry.value ++ rest, rest⟩

theorem Entry.laid (entry : Entry) {first : Bool} {text more final : Input} {members : List Member}
    (opens : ∀ quoted, skipSpaces (entry.text ++ more) = .char '"' :: quoted → Opens first text quoted)
    (ends : EndsNumber (entry.trail ++ more)) (later : Laid false (entry.trail ++ more) members final) :
    Laid first text (entry.member (entry.trail ++ more) :: members) final := by
  have whole : entry.text ++ more = entry.lead ++ .char '"' :: (entry.quoted ++
      (entry.gap ++ .char ':' :: (entry.value ++ (entry.trail ++ more)))) := by
    simp only [Entry.text, List.cons_append, List.append_assoc]
  have string := entry.spelled.append (entry.gap ++ .char ':' :: (entry.value ++ (entry.trail ++ more)))
  refine .member (opens _ ?_) string (skipSpaces_behind entry.gaps (by decide) _)
    (entry.loose.passing _ ends) later
  rw [whole]
  exact skipSpaces_behind entry.leads (by decide) _

theorem laid_behind (final : Input) (entries : List Entry) {trail : Input} (trails : Spaces trail) :
    ∃ members, Laid false (trail ++ behind final entries) members final ∧
      List.Forall₂ Entry.Stands entries members := by
  induction entries generalizing trail with
  | nil => exact ⟨[], .close (skipSpaces_behind trails (by decide) final), .nil⟩
  | cons entry others ih =>
    obtain ⟨members, later, matched⟩ := ih entry.trails
    have ends := behind_ends final entry.trails others
    refine ⟨_, entry.laid ?_ ends later, .cons ⟨rfl, rfl, ends⟩ matched⟩
    intro quoted front
    exact ⟨_, skipSpaces_behind trails (by decide) _, front⟩

theorem laid_entries (final : Input) (entry : Entry) (others : List Entry) :
    ∃ members, Laid true (joined (entry :: others) ++ .char '\x7d' :: final) members final ∧
      List.Forall₂ Entry.Stands (entry :: others) members := by
  obtain ⟨members, later, matched⟩ := laid_behind final others entry.trails
  have ends := behind_ends final entry.trails others
  refine ⟨_, entry.laid ?_ ends later, .cons ⟨rfl, rfl, ends⟩ matched⟩
  intro quoted front
  rw [joined_cons]
  exact front

/-! Objects -/

def braced (lead : Input) (entries : List Entry) (trail : Input) : Input :=
  lead ++ .char '\x7b' :: (joined entries ++ .char '\x7d' :: trail)

theorem ObjectText.entries {text : Input} {one : Member} {others : List Member}
    (object : ObjectText text (one :: others)) :
    ∃ lead entries trail, Spaces lead ∧ Spaces trail ∧ text = braced lead entries trail ∧
      List.Forall₂ Entry.Stands entries (one :: others) := by
  obtain ⟨inner, trail, opens, laid, trails⟩ := object
  obtain ⟨lead, leads, rfl⟩ := spaces_before opens
  obtain ⟨entries, rfl, matched⟩ := laid.entries
  exact ⟨lead, entries, trail, leads, trails, rfl, matched⟩

theorem objectText_braced {lead trail : Input} (leads : Spaces lead) (trails : Spaces trail)
    (entries : List Entry) :
    ∃ members, ObjectText (braced lead entries trail) members ∧
      List.Forall₂ Entry.Stands entries members := by
  have opens := skipSpaces_behind leads (c := '\x7b') (by decide)
    (joined entries ++ .char '\x7d' :: trail)
  cases entries with
  | nil => exact ⟨[], ⟨_, trail, opens, .close (skipSpaces_apart (by decide) trail), trails⟩, .nil⟩
  | cons entry others =>
    obtain ⟨members, laid, matched⟩ := laid_entries trail entry others
    exact ⟨members, ⟨_, trail, opens, laid, trails⟩, matched⟩

theorem entry_of_read {name : String} {quoted value : Input} {read : Value}
    (spelled : StringText quoted name.toList []) (accepted : Json.read value = .ok read) :
    ∃ entry : Entry, entry.name = name ∧
      entry.text = .char '"' :: (quoted ++ .char ':' :: value) := by
  obtain ⟨trail, form, trails⟩ := (read_ok_iff _ _).mp accepted
  obtain ⟨used, rfl, loose⟩ := skipValue_sound _ _ _ form.skipped
  exact ⟨⟨name, [], quoted, [], used, trail, rfl, spelled, rfl, loose, trails⟩, rfl, rfl⟩

/-! Fields -/

section Fields

variable {α : Type}

/-- What the one member of a name says, or nothing where there is none. -/
def Given (form : Input → α → Prop) (name : String) (entries : List Entry) : Option α → Prop
  | none => entries.filter (fun entry => entry.name = name) = []
  | some a => ∃ one, entries.filter (fun entry => entry.name = name) = [one] ∧ form one.value a

theorem fills_iff_given {reads : Member → α → Prop} {form : Input → α → Prop}
    (same : ∀ entry one a, Entry.Stands entry one → (reads one a ↔ form entry.value a))
    {entries : List Entry} {members : List Member}
    (matched : List.Forall₂ Entry.Stands entries members) (name : String) (after : Option α) :
    Fills reads name none members after ↔ Given form name entries after := by
  have filtered : List.Forall₂ Entry.Stands (entries.filter fun entry => entry.name = name)
      (members.filter fun one => one.name = name) :=
    List.rel_filter (fun entry one stands => by simp [stands.name]) matched
  unfold Fills
  cases after with
  | none =>
    unfold Given
    constructor
    · intro given
      rcases given with ⟨absent, _⟩ | ⟨_, _, _, _, _, present⟩
      · rw [absent] at filtered
        exact List.forall₂_nil_right_iff.mp filtered
      · cases present
    · intro absent
      rw [absent] at filtered
      exact Or.inl ⟨List.forall₂_nil_left_iff.mp filtered, rfl⟩
  | some a =>
    unfold Given
    constructor
    · intro given
      rcases given with ⟨_, present⟩ | ⟨one, b, _, found, read, known⟩
      · cases present
      · cases known
        rw [found] at filtered
        obtain ⟨entry, none, stands, rest, alone⟩ := List.forall₂_cons_right_iff.mp filtered
        rw [List.forall₂_nil_right_iff.mp rest] at alone
        exact ⟨entry, alone, (same entry one a stands).mp read⟩
    · intro given
      obtain ⟨entry, found, form⟩ := given
      rw [found] at filtered
      obtain ⟨one, none, stands, rest, alone⟩ := List.forall₂_cons_left_iff.mp filtered
      rw [List.forall₂_nil_left_iff.mp rest] at alone
      exact Or.inr ⟨one, a, rfl, alone, (same entry one a stands).mpr form, rfl⟩

theorem Given.of_perm {form : Input → α → Prop} {name : String} {entries others : List Entry}
    {after : Option α} (given : Given form name entries after)
    (same : (entries.filter fun entry => entry.name = name).Perm
      (others.filter fun entry => entry.name = name)) : Given form name others after := by
  cases after with
  | none =>
    unfold Given at given ⊢
    rw [given] at same
    exact List.nil_perm.mp same
  | some a =>
    obtain ⟨one, found, read⟩ := given
    rw [found] at same
    exact ⟨one, List.singleton_perm.mp same ▸ rfl, read⟩

end Fields

end SessionGate.Json
