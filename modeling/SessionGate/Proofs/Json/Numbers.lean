import SessionGate.Json.Shape
import SessionGate.Proofs.Json.Strings

/- An integer in a text is its decimal form, with nothing behind it that could still belong to a
   number. The strict reader finds exactly these. -/
namespace SessionGate.Json

open Text (Symbol)

def EndsNumber (rest : Input) : Prop :=
  ∀ symbol ∈ rest.head?, digit? symbol = none ∧ symbol ≠ .char '.' ∧ symbol ≠ .char 'e' ∧
    symbol ≠ .char 'E'

/-- A text that begins with an integer, and the rest behind it. -/
structure IntegerText (text : Input) (n : Int) (rest : Input) : Prop where
  written : text = Text.symbols (toString n) ++ rest
  ends : EndsNumber rest

def IsSigned (value : Input) (n : Int) (rest : Input) : Prop :=
  IntegerText (skipSpaces value) n rest ∧ -signedBound ≤ n ∧ n < signedBound

def digitSymbols (n : Nat) : Input := (Nat.toDigits 10 n).map .char

def digitText (ds : List Nat) : Input := (ds.map Nat.digitChar).map .char

/-! Digits -/

theorem digit_of_symbol {symbol : Symbol} {d : Nat} (digit : digit? symbol = some d) :
    d < 10 ∧ symbol = .char d.digitChar := by
  cases symbol with
  | stray bytes => cases digit
  | char c =>
    simp only [digit?] at digit
    by_cases within : '0' ≤ c ∧ c ≤ '9'
    · simp only [within, and_self, if_true] at digit
      cases digit
      have least : 48 ≤ c.toNat := within.1
      have greatest : c.toNat ≤ 57 := within.2
      refine ⟨by omega, congrArg Symbol.char (Char.toNat_inj.mp ?_)⟩
      rw [Nat.toNat_digitChar_of_lt_ten (by omega)]
      omega
    · simp only [within, if_false] at digit
      cases digit

theorem digitChar_digit {d : Nat} (small : d < 10) : '0' ≤ d.digitChar ∧ d.digitChar ≤ '9' := by
  have value := Nat.toNat_digitChar_of_lt_ten small
  constructor
  · show 48 ≤ d.digitChar.toNat
    omega
  · show d.digitChar.toNat ≤ 57
    omega

theorem digit_of_digitChar {d : Nat} (small : d < 10) : digit? (.char d.digitChar) = some d := by
  have value := Nat.toNat_digitChar_of_lt_ten small
  simp only [digit?, digitChar_digit small, and_self, if_true, value]
  congr 1
  omega

theorem readDigits_sound (text : Input) :
    text = (readDigits text).1.map (fun d => .char d.digitChar) ++ (readDigits text).2 ∧
      (∀ d ∈ (readDigits text).1, d < 10) ∧
      ∀ symbol ∈ (readDigits text).2.head?, digit? symbol = none := by
  induction text with
  | nil => exact ⟨rfl, by simp [readDigits], by simp [readDigits]⟩
  | cons symbol rest ih =>
    cases digit : digit? symbol with
    | none => simp [readDigits, digit]
    | some d =>
      obtain ⟨small, rfl⟩ := digit_of_symbol digit
      obtain ⟨written, below, ends⟩ := ih
      simp only [readDigits, digit]
      refine ⟨congrArg (_ :: ·) written, ?_, ends⟩
      intro other member
      rcases List.mem_cons.mp member with rfl | later
      · exact small
      · exact below other later

theorem readDigits_complete {ds : List Nat} {rest : Input} (small : ∀ d ∈ ds, d < 10)
    (ends : ∀ symbol ∈ rest.head?, digit? symbol = none) :
    readDigits (ds.map (fun d => .char d.digitChar) ++ rest) = (ds, rest) := by
  induction ds with
  | nil =>
    cases rest with
    | nil => rfl
    | cons symbol rest =>
      have none := ends symbol rfl
      simp only [List.map_nil, List.nil_append, readDigits, none]
  | cons d ds ih =>
    have later := ih fun other member => small other (List.mem_cons_of_mem d member)
    have digit := digit_of_digitChar (small d List.mem_cons_self)
    simp only [List.map_cons, List.cons_append, readDigits, digit, later]

theorem readDigits_written {text rest : Input} {ds : List Nat}
    (known : readDigits text = (ds, rest)) : text = digitText ds ++ rest ∧ ∀ d ∈ ds, d < 10 := by
  obtain ⟨written, small, _⟩ := readDigits_sound text
  rw [known] at written small
  rw [digitText, List.map_map]
  exact ⟨written, small⟩

theorem readDigits_digitText {ds : List Nat} (small : ∀ d ∈ ds, d < 10) {rest : Input}
    (ends : ∀ symbol ∈ rest.head?, digit? symbol = none) :
    readDigits (digitText ds ++ rest) = (ds, rest) := by
  rw [digitText, List.map_map]
  exact readDigits_complete small ends

theorem toDigits_append (ds : List Nat) {n : Nat} (positive : 0 < n) (small : ∀ d ∈ ds, d < 10) :
    Nat.toDigits 10 n ++ ds.map Nat.digitChar =
      Nat.toDigits 10 (ds.foldl (fun n d => n * 10 + d) n) := by
  induction ds generalizing n with
  | nil => exact List.append_nil _
  | cons d ds ih =>
    have digit := small d List.mem_cons_self
    have later := ih (n := n * 10 + d) (by omega)
      fun other member => small other (List.mem_cons_of_mem d member)
    have last := Nat.toDigits_append_toDigits (b := 10) (by decide) positive digit
    rw [Nat.toDigits_of_lt_base digit, Nat.mul_comm] at last
    rw [List.foldl_cons, ← later, ← last, List.append_assoc]
    rfl

/-- Digits without a needless zero in front. -/
def Plain (ds : List Nat) : Prop := ds ≠ [] ∧ ∀ d e rest, ds = d :: e :: rest → d ≠ 0

theorem toDigits_natOfDigits {ds : List Nat} (plain : Plain ds) (small : ∀ d ∈ ds, d < 10) :
    Nat.toDigits 10 (natOfDigits ds) = ds.map Nat.digitChar := by
  match ds, plain with
  | [], plain => exact absurd rfl plain.1
  | [d], _ =>
    have digit := small d List.mem_cons_self
    simp only [natOfDigits, List.foldl_cons, List.foldl_nil, Nat.zero_mul, Nat.zero_add]
    exact Nat.toDigits_of_lt_base digit
  | d :: e :: rest, plain =>
    have digit := small d List.mem_cons_self
    have positive := Nat.pos_of_ne_zero (plain.2 d e rest rfl)
    have whole := toDigits_append (e :: rest) positive
      fun other member => small other (List.mem_cons_of_mem d member)
    rw [Nat.toDigits_of_lt_base digit] at whole
    simp only [natOfDigits, List.foldl_cons, Nat.zero_mul, Nat.zero_add] at whole ⊢
    exact whole.symm

theorem digits_exist (n : Nat) : ∃ ds : List Nat, ds ≠ [] ∧ (∀ d ∈ ds, d < 10) ∧
    natOfDigits ds = n ∧ (0 < n → ds.head? ≠ some 0) := by
  induction n using Nat.strongRecOn with
  | ind n ih =>
    by_cases small : n < 10
    · refine ⟨[n], List.cons_ne_nil n [], ?_, by simp [natOfDigits], ?_⟩
      · intro d member
        rw [List.mem_singleton.mp member]
        exact small
      · intro positive zero
        cases zero
        exact Nat.lt_irrefl 0 positive
    · obtain ⟨ds, present, below, value, leads⟩ := ih (n / 10) (by omega)
      refine ⟨ds ++ [n % 10], by simp, ?_, ?_, ?_⟩
      · intro d member
        rcases List.mem_append.mp member with earlier | last
        · exact below d earlier
        · rw [List.mem_singleton.mp last]
          exact Nat.mod_lt n (by decide)
      · have split : natOfDigits (ds ++ [n % 10]) = natOfDigits ds * 10 + n % 10 :=
          List.foldl_append ..
        rw [split, value]
        omega
      · intro positive
        obtain ⟨d, tail, rfl⟩ := List.exists_cons_of_ne_nil present
        exact leads (by omega)

theorem plain_digits_exist (n : Nat) : ∃ ds : List Nat, Plain ds ∧ (∀ d ∈ ds, d < 10) ∧
    natOfDigits ds = n := by
  obtain ⟨ds, present, small, value, leads⟩ := digits_exist n
  by_cases positive : 0 < n
  · refine ⟨ds, ⟨present, ?_⟩, small, value⟩
    intro d e rest whole zero
    rw [whole, zero] at leads
    exact leads positive rfl
  · refine ⟨[0], ⟨List.cons_ne_nil 0 [], ?_⟩, by simp, ?_⟩
    · intro d e rest same
      cases same
    · exact (Nat.eq_zero_of_not_pos positive).symm

theorem readDigits_digitSymbols (n : Nat) {rest : Input}
    (ends : ∀ symbol ∈ rest.head?, digit? symbol = none) :
    ∃ ds, readDigits (digitSymbols n ++ rest) = (ds, rest) ∧ Plain ds ∧ natOfDigits ds = n := by
  obtain ⟨ds, plain, small, value⟩ := plain_digits_exist n
  refine ⟨ds, ?_, plain, value⟩
  have written : digitSymbols n = ds.map fun d => .char d.digitChar := by
    rw [digitSymbols, ← value, toDigits_natOfDigits plain small, List.map_map]
    rfl
  rw [written]
  exact readDigits_complete small ends

/-! Parts of a number -/

theorem readSomeDigits_ok {text rest : Input} {ds : List Nat}
    (read : readSomeDigits text = .ok (ds, rest)) : ds ≠ [] ∧ readDigits text = (ds, rest) := by
  unfold readSomeDigits at read
  split at read
  · cases read
  · cases read
  · rename_i found behind absent other known
    cases read
    refine ⟨?_, known⟩
    intro same
    subst same
    cases rest with
    | nil => exact absent rfl rfl
    | cons symbol rest => exact other symbol rest rfl rfl

theorem readSomeDigits_of_digits {text rest : Input} {ds : List Nat} (present : ds ≠ [])
    (known : readDigits text = (ds, rest)) : readSomeDigits text = .ok (ds, rest) := by
  cases ds with
  | nil => exact absurd rfl present
  | cons d ds => simp only [readSomeDigits, known]

theorem readWhole_ok {text rest : Input} {ds : List Nat} (read : readWhole text = .ok (ds, rest)) :
    Plain ds ∧ readDigits text = (ds, rest) := by
  obtain ⟨⟨found, behind⟩, some, next⟩ := (bind_ok_iff _ _ _).mp read
  obtain ⟨present, known⟩ := readSomeDigits_ok some
  dsimp only at next
  split at next
  · cases next
  · rename_i zero
    obtain ⟨rfl, rfl⟩ := Prod.mk.inj (Except.ok.inj next)
    refine ⟨⟨present, ?_⟩, known⟩
    intro d e more whole leads
    subst whole
    subst leads
    exact zero e more rfl

theorem readWhole_of_digits {text rest : Input} {ds : List Nat} (plain : Plain ds)
    (known : readDigits text = (ds, rest)) : readWhole text = .ok (ds, rest) := by
  have some := readSomeDigits_of_digits plain.1 known
  simp only [readWhole, some, ok_bind]
  split
  · rename_i e more
    exact absurd rfl (plain.2 0 e more rfl)
  · rfl

theorem readFraction_none_iff (text rest : Input) :
    readFraction text = .ok ([], rest) ↔ text = rest ∧ text.head? ≠ some (.char '.') := by
  constructor
  · intro read
    unfold readFraction at read
    split at read
    · exact absurd rfl (readSomeDigits_ok read).1
    · rename_i text point
      cases read
      refine ⟨rfl, ?_⟩
      intro head
      obtain ⟨more, rfl⟩ := List.head?_eq_some_iff.mp head
      exact point more rfl
  · intro given
    obtain ⟨rfl, head⟩ := given
    unfold readFraction
    split
    · exact absurd rfl head
    · rfl

theorem readExponent_none_iff (text rest : Input) :
    readExponent text = .ok (none, rest) ↔
      text = rest ∧ text.head? ≠ some (.char 'e') ∧ text.head? ≠ some (.char 'E') := by
  constructor
  · intro read
    unfold readExponent at read
    split at read
    · rename_i c behind
      by_cases letter : c = 'e' ∨ c = 'E'
      · simp only [letter, if_true] at read
        split at read <;>
          · obtain ⟨digits, _, found⟩ := (bind_ok_iff _ _ _).mp read
            cases found
      · simp only [letter, if_false] at read
        cases read
        rw [not_or] at letter
        simp [letter.1, letter.2]
    · rename_i text letter
      cases read
      refine ⟨rfl, ?_, ?_⟩
      all_goals
        intro head
        obtain ⟨more, rfl⟩ := List.head?_eq_some_iff.mp head
        exact letter _ more rfl
  · intro given
    obtain ⟨rfl, small, large⟩ := given
    unfold readExponent
    split
    · rename_i c behind
      have letter : ¬ (c = 'e' ∨ c = 'E') := by
        intro given
        rcases given with rfl | rfl
        · exact small rfl
        · exact large rfl
      simp only [letter, if_false]
    · rfl

/-! Integers -/

theorem EndsNumber.no_digit {rest : Input} (ends : EndsNumber rest) :
    ∀ symbol ∈ rest.head?, digit? symbol = none :=
  fun symbol member => (ends symbol member).1

theorem EndsNumber.no_letter {rest : Input} (ends : EndsNumber rest) :
    rest.head? ≠ some (.char '.') ∧ rest.head? ≠ some (.char 'e') ∧
      rest.head? ≠ some (.char 'E') := by
  refine ⟨?_, ?_, ?_⟩
  · intro head
    exact (ends _ head).2.1 rfl
  · intro head
    exact (ends _ head).2.2.1 rfl
  · intro head
    exact (ends _ head).2.2.2 rfl

theorem readLiteral_whole_iff (negative : Bool) (text rest : Input) (ds : List Nat) :
    readLiteral negative text = .ok (⟨negative, ds, [], none⟩, rest) ↔
      Plain ds ∧ readDigits text = (ds, rest) ∧ EndsNumber rest := by
  constructor
  · intro read
    obtain ⟨⟨whole, afterWhole⟩, first, next⟩ := (bind_ok_iff _ _ _).mp read
    obtain ⟨⟨fraction, afterFraction⟩, second, next⟩ := (bind_ok_iff _ _ _).mp next
    obtain ⟨⟨exponent, afterExponent⟩, third, found⟩ := (bind_ok_iff _ _ _).mp next
    cases found
    obtain ⟨plain, digits⟩ := readWhole_ok first
    obtain ⟨rfl, point⟩ := (readFraction_none_iff _ _).mp second
    obtain ⟨rfl, small, large⟩ := (readExponent_none_iff _ _).mp third
    have last := (readDigits_sound text).2.2
    rw [digits] at last
    refine ⟨plain, digits, ?_⟩
    intro symbol head
    refine ⟨last symbol head, ?_, ?_, ?_⟩
    · intro same
      subst same
      exact point head
    · intro same
      subst same
      exact small head
    · intro same
      subst same
      exact large head
  · intro given
    obtain ⟨plain, digits, ends⟩ := given
    have first := readWhole_of_digits plain digits
    have second := (readFraction_none_iff rest rest).mpr ⟨rfl, ends.no_letter.1⟩
    have third := (readExponent_none_iff rest rest).mpr ⟨rfl, ends.no_letter.2⟩
    simp only [readLiteral, first, second, third, ok_bind]
    rfl

theorem readLiteral_sign {negative : Bool} {text rest : Input} {literal : Literal}
    (read : readLiteral negative text = .ok (literal, rest)) : literal.negative = negative := by
  obtain ⟨_, _, next⟩ := (bind_ok_iff _ _ _).mp read
  obtain ⟨_, _, next⟩ := (bind_ok_iff _ _ _).mp next
  obtain ⟨_, _, found⟩ := (bind_ok_iff _ _ _).mp next
  cases found
  rfl

theorem integer_of_ofInt {n : Int} {k : Integer} (known : Integer.ofInt? n = some k) : k.val = n := by
  unfold Integer.ofInt? at known
  split at known
  · cases known
    rfl
  · cases known

theorem ofInt_of_integer (k : Integer) : Integer.ofInt? k.val = some k := by
  simp only [Integer.ofInt?, k.least, k.greatest, and_self, dif_pos]

/-- A number is an integer of its class exactly where one is written out. -/
theorem readNumber_integer_iff (negative : Bool) (text rest : Input) (k : Integer) :
    readNumber negative text = .ok (.integer k, rest) ↔
      ∃ n : Nat, text = digitSymbols n ++ rest ∧ EndsNumber rest ∧
        k.val = (if negative then -(n : Int) else n) ∧ ¬ (negative = true ∧ n = 0) := by
  constructor
  · intro read
    obtain ⟨⟨literal, behind⟩, first, next⟩ := (bind_ok_iff _ _ _).mp read
    obtain ⟨number, second, found⟩ := (bind_ok_iff _ _ _).mp next
    cases found
    obtain ⟨sign, whole, fraction, exponent⟩ := literal
    obtain rfl : sign = negative := readLiteral_sign first
    cases integer : Literal.integer? ⟨sign, whole, fraction, exponent⟩ with
    | none =>
      simp only [Literal.number, integer] at second
      split at second <;> cases second
    | some other =>
      simp only [Literal.number, integer] at second
      cases second
      by_cases shape : fraction = [] ∧ exponent = none ∧ ¬ (sign = true ∧ natOfDigits whole = 0)
      · obtain ⟨rfl, rfl, zero⟩ := shape
        simp only [Literal.integer?, zero, not_false_eq_true, and_self, if_true] at integer
        obtain ⟨plain, digits, ends⟩ := (readLiteral_whole_iff _ _ _ _).mp first
        obtain ⟨written, small, _⟩ := readDigits_sound text
        rw [digits] at written small
        refine ⟨natOfDigits whole, ?_, ends, integer_of_ofInt integer, zero⟩
        rw [digitSymbols, toDigits_natOfDigits plain small, List.map_map]
        exact written
      · simp only [Literal.integer?, shape, if_false] at integer
        cases integer
  · intro given
    obtain ⟨n, rfl, ends, value, zero⟩ := given
    obtain ⟨ds, digits, plain, rfl⟩ := readDigits_digitSymbols n ends.no_digit
    have literal := (readLiteral_whole_iff negative _ rest ds).mpr ⟨plain, digits, ends⟩
    have integer : Literal.integer? ⟨negative, ds, [], none⟩ = some k := by
      simp only [Literal.integer?, zero, not_false_eq_true, and_self, if_true]
      rw [← value]
      exact ofInt_of_integer k
    simp only [readNumber, literal, ok_bind, Literal.number, integer]
    rfl

theorem symbols_natural (n : Nat) : Text.symbols (toString (n : Int)) = digitSymbols n :=
  congrArg (List.map Symbol.char) Nat.toList_repr

theorem symbols_negative {n : Nat} (present : n ≠ 0) :
    Text.symbols (toString (-(n : Int))) = .char '-' :: digitSymbols n := by
  obtain ⟨n, rfl⟩ := Nat.exists_eq_succ_of_ne_zero present
  have written : toString (-((n + 1 : Nat) : Int)) = "-" ++ Nat.repr (n + 1) := rfl
  simp only [Text.symbols, written, String.toList_append, Nat.toList_repr]
  rfl

theorem digitSymbols_front (n : Nat) :
    ∃ d rest, d < 10 ∧ digitSymbols n = .char (Nat.digitChar d) :: rest := by
  obtain ⟨ds, plain, small, rfl⟩ := plain_digits_exist n
  obtain ⟨d, rest, rfl⟩ := List.exists_cons_of_ne_nil plain.1
  refine ⟨d, (rest.map Nat.digitChar).map .char, small d List.mem_cons_self, ?_⟩
  rw [digitSymbols, toDigits_natOfDigits plain small]
  rfl

theorem digit_stands_apart {c : Char} (digit : '0' ≤ c ∧ c ≤ '9') :
    c ≠ 'n' ∧ c ≠ 't' ∧ c ≠ 'f' ∧ c ≠ '"' ∧ c ≠ '-' ∧ c ≠ '[' ∧ c ≠ '\x7b' := by
  refine ⟨?_, ?_, ?_, ?_, ?_, ?_, ?_⟩ <;>
    · intro same
      subst same
      exact absurd digit (by decide)

theorem readScalar_of_digit {c : Char} (digit : '0' ≤ c ∧ c ≤ '9') (rest : Input) :
    readScalar (.char c :: rest) =
      (readNumber false (.char c :: rest) >>= fun read => pure (.number read.1, read.2)) := by
  obtain ⟨null, yes, no, quote, minus, _⟩ := digit_stands_apart digit
  simp only [readScalar, null, yes, no, quote, minus, digit, and_self, if_false, if_true]

theorem readScalar_integer_iff (text rest : Input) (k : Integer) :
    readScalar text = .ok (.number (.integer k), rest) ↔ IntegerText text k.val rest := by
  constructor
  · intro read
    match text with
    | [] => cases read
    | .stray _ :: _ => cases read
    | .char c :: behind =>
      unfold readScalar at read
      by_cases minus : c = '-'
      · subst minus
        obtain ⟨⟨number, after⟩, known, found⟩ := (bind_ok_iff _ _ _).mp read
        cases found
        obtain ⟨n, rfl, ends, value, zero⟩ := (readNumber_integer_iff true _ _ k).mp known
        refine ⟨?_, ends⟩
        rw [value, if_pos rfl, symbols_negative fun none => zero ⟨rfl, none⟩]
        rfl
      · by_cases digit : '0' ≤ c ∧ c ≤ '9'
        · obtain ⟨null, yes, no, quote, _⟩ := digit_stands_apart digit
          simp only [null, yes, no, quote, minus, digit, and_self, if_false, if_true] at read
          obtain ⟨⟨number, after⟩, known, found⟩ := (bind_ok_iff _ _ _).mp read
          cases found
          obtain ⟨n, written, ends, value, _⟩ := (readNumber_integer_iff false _ _ k).mp known
          refine ⟨?_, ends⟩
          rw [written, value]
          exact congrArg (· ++ _) (symbols_natural n).symm
        · simp only [minus, digit, if_false] at read
          split at read
          · obtain ⟨after, _, found⟩ := (bind_ok_iff _ _ _).mp read
            cases found
          · split at read
            · obtain ⟨after, _, found⟩ := (bind_ok_iff _ _ _).mp read
              cases found
            · split at read
              · obtain ⟨after, _, found⟩ := (bind_ok_iff _ _ _).mp read
                cases found
              · split at read
                · obtain ⟨after, _, found⟩ := (bind_ok_iff _ _ _).mp read
                  cases found
                · cases read
  · intro given
    obtain ⟨rfl, ends⟩ := given
    by_cases negative : k.val < 0
    · have present : k.val.natAbs ≠ 0 := by omega
      have value : k.val = -(k.val.natAbs : Int) := by omega
      have written := symbols_negative present
      rw [← value] at written
      have number := (readNumber_integer_iff true (digitSymbols k.val.natAbs ++ rest) rest k).mpr
        ⟨k.val.natAbs, rfl, ends, value, fun none => present none.2⟩
      rw [written]
      show (readNumber true (digitSymbols k.val.natAbs ++ rest) >>= _) = _
      rw [number]
      rfl
    · have value : k.val = (k.val.natAbs : Int) := by omega
      have written := symbols_natural k.val.natAbs
      rw [← value] at written
      have number := (readNumber_integer_iff false (digitSymbols k.val.natAbs ++ rest) rest k).mpr
        ⟨k.val.natAbs, rfl, ends, value, by simp⟩
      obtain ⟨d, more, small, front⟩ := digitSymbols_front k.val.natAbs
      rw [front] at written number
      rw [written, List.cons_append, readScalar_of_digit (digitChar_digit small), ← List.cons_append,
        number]
      rfl

theorem IntegerText.front {text rest : Input} {n : Int} (integer : IntegerText text n rest) :
    ∃ c more, text = .char c :: more ∧ (c = '-' ∨ ('0' ≤ c ∧ c ≤ '9')) := by
  rw [integer.written]
  by_cases negative : n < 0
  · have value : n = -(n.natAbs : Int) := by omega
    rw [value, symbols_negative (by omega)]
    exact ⟨'-', _, rfl, Or.inl rfl⟩
  · have value : n = (n.natAbs : Int) := by omega
    obtain ⟨d, more, small, front⟩ := digitSymbols_front n.natAbs
    rw [value, symbols_natural, front]
    exact ⟨d.digitChar, more ++ rest, rfl, Or.inr (digitChar_digit small)⟩

theorem refuse_fails {α : Type} (expected : Shape) (text : Input) (a : α) :
    refuse expected text ≠ .ok a := by
  intro done
  unfold refuse at done
  split at done
  · cases done
  · cases done
  · obtain ⟨found, _, failed⟩ := (bind_ok_iff _ _ _).mp done
    cases failed

theorem readSigned_ok_iff (value : Input) (n : Int) (rest : Input) :
    readSigned value = .ok (n, rest) ↔ IsSigned value n rest := by
  constructor
  · intro read
    unfold readSigned at read
    split at read
    · exact absurd read (refuse_fails _ _ _)
    · exact absurd read (refuse_fails _ _ _)
    · obtain ⟨⟨value, behind⟩, scalar, next⟩ := (bind_ok_iff _ _ _).mp read
      split at next
      · rename_i k after same
        obtain ⟨rfl, rfl⟩ := Prod.mk.inj same
        by_cases within : k.val < signedBound
        · simp only [within, if_true] at next
          obtain ⟨rfl, rfl⟩ := Prod.mk.inj (Except.ok.inj next)
          exact ⟨(readScalar_integer_iff _ _ k).mp scalar, k.least, within⟩
        · simp only [within, if_false] at next
          cases next
      · cases next
  · intro given
    obtain ⟨integer, least, greatest⟩ := given
    have wide : signedBound ≤ unsignedBound := by decide
    have scalar := (readScalar_integer_iff _ _ ⟨n, least, Int.lt_of_lt_of_le greatest wide⟩).mpr integer
    obtain ⟨c, more, front, first⟩ := integer.front
    rw [front] at scalar
    unfold readSigned
    rw [front]
    split
    · rename_i list
      cases list
      exact absurd first (by decide)
    · rename_i object
      cases object
      exact absurd first (by decide)
    · rw [scalar, ok_bind]
      simp only [greatest, if_true]
      rfl

end SessionGate.Json
