import Mathlib.Data.List.Basic
import Mathlib.Tactic.IntervalCases
import SessionGate.Text.Utf8

/- The bytes of a text are read as that text. -/
namespace SessionGate.Text

theorem byte_toNat {n : Nat} (small : n < 256) : (byte n).toNat = n := by
  simp only [byte, UInt8.toNat_ofNat']
  omega

theorem char_range (c : Char) : c.toNat < 0xD800 ∨ (0xDFFF < c.toNat ∧ c.toNat < 0x110000) :=
  c.valid

theorem begins_one {n : Nat} (small : n < 0x80) :
    begin? (byte n) = some (.inl (Char.ofNat n)) := by
  unfold begin?
  rw [byte_toNat (by omega)]
  simp only [small, if_true]

theorem begins_two {high : Nat} (least : 2 ≤ high) (small : high < 0x20) :
    begin? (byte (0xC0 + high)) =
      some (.inr ⟨[byte (0xC0 + high)], high, 1, 0x80, 0xBF⟩) := by
  unfold begin?
  rw [byte_toNat (by omega)]
  have one : ¬ 0xC0 + high < 0x80 := by omega
  have none : ¬ 0xC0 + high < 0xC2 := by omega
  have two : 0xC0 + high < 0xE0 := by omega
  simp only [one, none, two, if_true, if_false, Nat.add_sub_cancel_left]

theorem begins_three {high : Nat} (small : high < 0x10) :
    begin? (byte (0xE0 + high)) = some (.inr ⟨[byte (0xE0 + high)], high, 2,
      if high = 0 then 0xA0 else 0x80, if high = 0xD then 0x9F else 0xBF⟩) := by
  interval_cases high <;> rfl

theorem begins_four {high : Nat} (small : high < 5) :
    begin? (byte (0xF0 + high)) = some (.inr ⟨[byte (0xF0 + high)], high, 3,
      if high = 0 then 0x90 else 0x80, if high = 4 then 0x8F else 0xBF⟩) := by
  interval_cases high <;> rfl

theorem accepts_tail {begun : Begun} {low : Nat} (small : low < 0x40)
    (least : begun.least ≤ 0x80 + low) (greatest : 0x80 + low ≤ begun.greatest) :
    begun.accepts (byte (0x80 + low)) = true := by
  simp only [Begun.accepts, byte_toNat (show 0x80 + low < 256 by omega), least, greatest,
    decide_true, Bool.and_true]

theorem decodeFrom_last {seen : Bytes} {bits least greatest low : Nat} (small : low < 0x40)
    (above : least ≤ 0x80 + low) (below : 0x80 + low ≤ greatest) (rest : Bytes) :
    decodeFrom (some ⟨seen, bits, 1, least, greatest⟩) (byte (0x80 + low) :: rest) =
      .char (Char.ofNat (bits * 0x40 + low)) :: decodeFrom none rest := by
  have accepted : (Begun.mk seen bits 1 least greatest).accepts _ = true :=
    accepts_tail small above below
  simp only [decodeFrom, stepByte, accepted, if_true, Begun.push, Nat.le_refl,
    byte_toNat (show 0x80 + low < 256 by omega), Nat.add_sub_cancel_left]
  rfl

theorem decodeFrom_more {seen : Bytes} {bits owed least greatest low : Nat} (small : low < 0x40)
    (above : least ≤ 0x80 + low) (below : 0x80 + low ≤ greatest) (rest : Bytes) :
    decodeFrom (some ⟨seen, bits, owed + 2, least, greatest⟩) (byte (0x80 + low) :: rest) =
      decodeFrom (some ⟨seen ++ [byte (0x80 + low)], bits * 0x40 + low, owed + 1, 0x80, 0xBF⟩)
        rest := by
  have accepted : (Begun.mk seen bits (owed + 2) least greatest).accepts _ = true :=
    accepts_tail small above below
  have more : ¬ owed + 2 ≤ 1 := by omega
  simp only [decodeFrom, stepByte, accepted, if_true, Begun.push, more, if_false,
    byte_toNat (show 0x80 + low < 256 by omega), Nat.add_sub_cancel_left]
  rfl

theorem decodeFrom_opened {b : UInt8} {begun : Begun} (begins : begin? b = some (.inr begun))
    (rest : Bytes) : decodeFrom none (b :: rest) = decodeFrom (some begun) rest := by
  simp only [decodeFrom, stepByte, startByte, begins]
  rfl

theorem decodeFrom_char (c : Char) (rest : Bytes) :
    decodeFrom none (encodeChar c ++ rest) = .char c :: decodeFrom none rest := by
  have range := char_range c
  have code (n : Nat) (same : n = c.toNat) : Char.ofNat n = c := by
    rw [same, Char.ofNat_toNat]
  simp only [encodeChar]
  split
  · rename_i one
    simp only [List.cons_append, List.nil_append, decodeFrom, stepByte, startByte, begins_one one]
    rw [Char.ofNat_toNat]
  split
  · rename_i one two
    simp only [List.cons_append, List.nil_append]
    rw [decodeFrom_opened (begins_two (by omega) (by omega)),
      decodeFrom_last (by omega) (by omega) (by omega), code _ (by omega)]
  split
  · rename_i one two three
    simp only [List.cons_append, List.nil_append]
    rw [decodeFrom_opened (begins_three (by omega)),
      decodeFrom_more (by omega) (by split <;> omega) (by split <;> omega),
      decodeFrom_last (by omega) (by omega) (by omega), code _ (by omega)]
  · rename_i one two three
    simp only [List.cons_append, List.nil_append]
    rw [decodeFrom_opened (begins_four (by omega)),
      decodeFrom_more (by omega) (by split <;> omega) (by split <;> omega),
      decodeFrom_more (by omega) (by omega) (by omega),
      decodeFrom_last (by omega) (by omega) (by omega), code _ (by omega)]

theorem decode_encodeChars (cs : List Char) : decode (encodeChars cs) = cs.map .char := by
  induction cs with
  | nil => rfl
  | cons c cs ih => exact (decodeFrom_char c (encodeChars cs)).trans (congrArg (.char c :: ·) ih)

theorem chars_iff (symbols : List Symbol) (cs : List Char) :
    chars? symbols = some cs ↔ symbols = cs.map .char := by
  constructor
  · intro chars
    induction symbols generalizing cs with
    | nil =>
      cases chars
      rfl
    | cons symbol rest ih =>
      cases symbol with
      | stray bytes => cases chars
      | char c =>
        obtain ⟨later, known, rfl⟩ := Option.map_eq_some_iff.mp chars
        rw [ih later known, List.map_cons]
  · rintro rfl
    induction cs with
    | nil => rfl
    | cons c cs ih => simp only [List.map_cons, chars?, ih, Option.map_some]

/-! Reading loses nothing -/

theorem code_of {n : Nat} (valid : n.isValidChar) : (Char.ofNat n).toNat = n := by
  unfold Char.ofNat
  rw [dif_pos valid]
  rfl

theorem byte_of {n : Nat} {b : UInt8} (same : n = b.toNat) : byte n = b := by
  rw [same]
  exact UInt8.ofNat_toNat

def IsTail (b : UInt8) : Prop := 0x80 ≤ b.toNat ∧ b.toNat ≤ 0xBF

/-- The bits of a character with those of further bytes behind them. -/
def extend (bits : Nat) (bytes : Bytes) : Nat :=
  bytes.foldl (fun bits b => bits * 0x40 + (b.toNat - 0x80)) bits

theorem extend_cons (bits : Nat) (b : UInt8) (rest : Bytes) :
    extend bits (b :: rest) = extend (bits * 0x40 + (b.toNat - 0x80)) rest := List.foldl_cons

/-- However the open character is continued, the bytes of the whole are its written form. -/
structure Begun.Faithful (begun : Begun) : Prop where
  owes : 0 < begun.owed
  tail {b : UInt8} (accepted : begun.accepts b = true) : IsTail b
  written {b : UInt8} {rest : Bytes} (accepted : begun.accepts b = true)
    (tails : ∀ c ∈ rest, IsTail c) (whole : rest.length + 1 = begun.owed) :
    encodeChar (Char.ofNat (extend begun.bits (b :: rest))) = begun.seen ++ b :: rest

theorem accepts_iff (begun : Begun) (b : UInt8) :
    begun.accepts b = true ↔ begun.least ≤ b.toNat ∧ b.toNat ≤ begun.greatest := by
  simp only [Begun.accepts, Bool.and_eq_true, decide_eq_true_eq]

theorem begun_two {high : Nat} (least : 2 ≤ high) (small : high < 0x20) :
    (Begun.mk [byte (0xC0 + high)] high 1 0x80 0xBF).Faithful := by
  refine ⟨Nat.one_pos, fun accepted => (accepts_iff _ _).mp accepted, ?_⟩
  intro second rest accepted _ whole
  obtain ⟨above, below⟩ := (accepts_iff _ _).mp accepted
  obtain rfl : rest = [] := List.length_eq_zero_iff.mp (Nat.succ.inj whole)
  simp only [extend, List.foldl_cons, List.foldl_nil]
  generalize value : high * 0x40 + (second.toNat - 0x80) = n
  dsimp only at above below
  have code : (Char.ofNat n).toNat = n := code_of (Or.inl (by omega))
  have one : ¬ n < 0x80 := by omega
  have two : n < 0x800 := by omega
  have first : n / 0x40 = high := by omega
  have last : 0x80 + n % 0x40 = second.toNat := by omega
  simp only [encodeChar, code, one, two, if_true, if_false, first, byte_of last,
    List.singleton_append]

theorem begun_three {high : Nat} (small : high < 0x10) :
    (Begun.mk [byte (0xE0 + high)] high 2 (if high = 0 then 0xA0 else 0x80)
      (if high = 0xD then 0x9F else 0xBF)).Faithful := by
  have tail {second : UInt8} (accepted : (Begun.mk [byte (0xE0 + high)] high 2
      (if high = 0 then 0xA0 else 0x80) (if high = 0xD then 0x9F else 0xBF)).accepts second = true) :
      IsTail second ∧ (high = 0 → 0xA0 ≤ second.toNat) ∧ (high = 0xD → second.toNat < 0xA0) := by
    obtain ⟨above, below⟩ := (accepts_iff _ _).mp accepted
    dsimp only [IsTail] at above below ⊢
    split at above <;> split at below <;> omega
  refine ⟨Nat.two_pos, fun accepted => (tail accepted).1, ?_⟩
  intro second rest accepted later whole
  obtain ⟨⟨above, below⟩, long, valid⟩ := tail accepted
  obtain ⟨third, rfl⟩ := List.length_eq_one_iff.mp (Nat.succ.inj whole)
  obtain ⟨aboveLast, belowLast⟩ := later third List.mem_cons_self
  simp only [extend, List.foldl_cons, List.foldl_nil]
  generalize value : (high * 0x40 + (second.toNat - 0x80)) * 0x40 + (third.toNat - 0x80) = n
  have code : (Char.ofNat n).toNat = n := code_of (by unfold Nat.isValidChar; omega)
  have one : ¬ n < 0x80 := by omega
  have two : ¬ n < 0x800 := by omega
  have three : n < 0x10000 := by omega
  have first : n / 0x1000 = high := by omega
  have next : 0x80 + n / 0x40 % 0x40 = second.toNat := by omega
  have last : 0x80 + n % 0x40 = third.toNat := by omega
  simp only [encodeChar, code, one, two, three, if_true, if_false, first, byte_of next, byte_of last,
    List.singleton_append]

theorem begun_four {high : Nat} (small : high < 5) :
    (Begun.mk [byte (0xF0 + high)] high 3 (if high = 0 then 0x90 else 0x80)
      (if high = 4 then 0x8F else 0xBF)).Faithful := by
  have tail {second : UInt8} (accepted : (Begun.mk [byte (0xF0 + high)] high 3
      (if high = 0 then 0x90 else 0x80) (if high = 4 then 0x8F else 0xBF)).accepts second = true) :
      IsTail second ∧ (high = 0 → 0x90 ≤ second.toNat) ∧ (high = 4 → second.toNat < 0x90) := by
    obtain ⟨above, below⟩ := (accepts_iff _ _).mp accepted
    dsimp only [IsTail] at above below ⊢
    split at above <;> split at below <;> omega
  refine ⟨Nat.succ_pos 2, fun accepted => (tail accepted).1, ?_⟩
  intro second rest accepted later whole
  obtain ⟨⟨above, below⟩, long, valid⟩ := tail accepted
  obtain ⟨third, fourth, rfl⟩ := List.length_eq_two.mp (Nat.succ.inj whole)
  obtain ⟨aboveNext, belowNext⟩ := later third List.mem_cons_self
  obtain ⟨aboveLast, belowLast⟩ := later fourth (List.mem_cons_of_mem _ List.mem_cons_self)
  simp only [extend, List.foldl_cons, List.foldl_nil]
  generalize value : ((high * 0x40 + (second.toNat - 0x80)) * 0x40 + (third.toNat - 0x80)) * 0x40 +
    (fourth.toNat - 0x80) = n
  have code : (Char.ofNat n).toNat = n := code_of (by unfold Nat.isValidChar; omega)
  have one : ¬ n < 0x80 := by omega
  have two : ¬ n < 0x800 := by omega
  have three : ¬ n < 0x10000 := by omega
  have first : n / 0x40000 = high := by omega
  have next : 0x80 + n / 0x1000 % 0x40 = second.toNat := by omega
  have behind : 0x80 + n / 0x40 % 0x40 = third.toNat := by omega
  have last : 0x80 + n % 0x40 = fourth.toNat := by omega
  simp only [encodeChar, code, one, two, three, if_false, first, byte_of next, byte_of behind,
    byte_of last, List.singleton_append]

theorem begin_outcome (b : UInt8) :
    begin? b = none ∨ (∃ c, begin? b = some (.inl c) ∧ encodeChar c = [b]) ∨
      ∃ begun, begin? b = some (.inr begun) ∧ begun.seen = [b] ∧ begun.Faithful := by
  have range : b.toNat < 256 := b.toNat_lt
  have whole (base : Nat) (least : base ≤ b.toNat) : byte (base + (b.toNat - base)) = b :=
    byte_of (Nat.add_sub_cancel' least)
  by_cases one : b.toNat < 0x80
  · have begins := begins_one one
    rw [byte_of rfl] at begins
    have code := code_of (n := b.toNat) (Or.inl (by omega))
    refine Or.inr (Or.inl ⟨_, begins, ?_⟩)
    simp only [encodeChar, code, one, if_true, byte_of rfl]
  by_cases stray : b.toNat < 0xC2 ∨ 0xF5 ≤ b.toNat
  · left
    unfold begin?
    simp only [one, if_false]
    grind
  by_cases two : b.toNat < 0xE0
  · have least : 2 ≤ b.toNat - 0xC0 := by omega
    have small : b.toNat - 0xC0 < 0x20 := by omega
    have faithful := begun_two least small
    have begins := begins_two least small
    rw [whole 0xC0 (by omega)] at faithful begins
    exact Or.inr (Or.inr ⟨_, begins, rfl, faithful⟩)
  by_cases three : b.toNat < 0xF0
  · have small : b.toNat - 0xE0 < 0x10 := by omega
    have faithful := begun_three small
    have begins := begins_three small
    rw [whole 0xE0 (by omega)] at faithful begins
    exact Or.inr (Or.inr ⟨_, begins, rfl, faithful⟩)
  · have small : b.toNat - 0xF0 < 5 := by omega
    have faithful := begun_four small
    have begins := begins_four small
    rw [whole 0xF0 (by omega)] at faithful begins
    exact Or.inr (Or.inr ⟨_, begins, rfl, faithful⟩)

/-- The bytes of the character that is open. -/
def seen (open? : Option Begun) : Bytes := (open?.map Begun.seen).getD []

theorem startByte_keeps (b : UInt8) :
    (startByte b).1.flatMap Symbol.bytes ++ seen (startByte b).2 = [b] ∧
      ∀ begun ∈ (startByte b).2, begun.Faithful := by
  rcases begin_outcome b with stray | ⟨c, char, written⟩ | ⟨begun, opened, first, faithful⟩
  · simp [startByte, stray, Symbol.bytes, seen]
  · simp [startByte, char, Symbol.bytes, seen, written]
  · simpa [startByte, opened, seen, first] using faithful

theorem push_keeps {begun : Begun} (faithful : begun.Faithful) {b : UInt8}
    (accepted : begun.accepts b = true) :
    (∃ c, begun.push b = .inl c ∧ encodeChar c = begun.seen ++ [b]) ∨
      ∃ more, begun.push b = .inr more ∧ more.seen = begun.seen ++ [b] ∧ more.Faithful := by
  by_cases last : begun.owed ≤ 1
  · left
    have none : ∀ c ∈ ([] : Bytes), IsTail c := nofun
    have written := faithful.written accepted none (Nat.le_antisymm faithful.owes last)
    rw [extend_cons] at written
    exact ⟨_, if_pos last, written⟩
  · right
    refine ⟨_, if_neg last, rfl, ⟨by dsimp only; omega, fun next => (accepts_iff _ _).mp next, ?_⟩⟩
    intro second rest next later whole
    have tails : ∀ c ∈ second :: rest, IsTail c :=
      List.forall_mem_cons.mpr ⟨(accepts_iff _ _).mp next, later⟩
    have more := faithful.written accepted tails
      (by dsimp only at whole; rw [List.length_cons]; omega)
    rw [extend_cons] at more
    rw [List.append_assoc]
    exact more

theorem stepByte_keeps {open? : Option Begun} (faithful : ∀ begun ∈ open?, begun.Faithful)
    (b : UInt8) :
    (stepByte open? b).1.flatMap Symbol.bytes ++ seen (stepByte open? b).2 = seen open? ++ [b] ∧
      ∀ begun ∈ (stepByte open? b).2, begun.Faithful := by
  cases open? with
  | none => exact startByte_keeps b
  | some begun =>
    simp only [stepByte]
    by_cases accepted : begun.accepts b = true
    · rcases push_keeps (faithful begun rfl) accepted with
        ⟨c, char, written⟩ | ⟨more, pushed, bytes, later⟩
      · simp [accepted, char, Symbol.bytes, seen, written]
      · simpa [accepted, pushed, seen, bytes] using later
    · obtain ⟨bytes, later⟩ := startByte_keeps b
      simp only [accepted]
      refine ⟨?_, later⟩
      exact (List.append_assoc _ _ _).trans (congrArg (begun.seen ++ ·) bytes)

theorem decodeFrom_bytes {open? : Option Begun} (faithful : ∀ begun ∈ open?, begun.Faithful)
    (bytes : Bytes) : (decodeFrom open? bytes).flatMap Symbol.bytes = seen open? ++ bytes := by
  induction bytes generalizing open? with
  | nil =>
    cases open? with
    | none => rfl
    | some begun => rfl
  | cons b bytes ih =>
    obtain ⟨kept, later⟩ := stepByte_keeps faithful b
    have unfolded : decodeFrom open? (b :: bytes) =
        (stepByte open? b).1 ++ decodeFrom (stepByte open? b).2 bytes := by
      cases open? <;> rfl
    rw [unfolded, List.flatMap_append, ih later, ← List.append_assoc, kept, List.append_assoc]
    rfl

theorem decode_iff (bytes : Bytes) (s : String) : decode? bytes = some s ↔ bytes = encode s := by
  constructor
  · intro decoded
    obtain ⟨cs, chars, rfl⟩ := Option.map_eq_some_iff.mp decoded
    have whole : (decode bytes).flatMap Symbol.bytes = bytes :=
      decodeFrom_bytes (fun _ absent => absurd absent (Option.not_mem_none _)) bytes
    rw [(chars_iff _ _).mp chars, List.flatMap_map] at whole
    rw [encode, String.toList_ofList]
    exact whole.symm
  · rintro rfl
    rw [decode?, encode, decode_encodeChars, (chars_iff _ _).mpr rfl, Option.map_some,
      String.ofList_toList]

end SessionGate.Text
