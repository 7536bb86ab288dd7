import SessionGate.Proofs.Decimal.Nearness
import SessionGate.Proofs.Json.Scalars

/- Doubles that are written and read again. The text of a double is a number that is read as a double once
   more, though not always as the same one, since the reader goes by way of a rounded product. -/
namespace SessionGate.Json

open Decimal
open Text (Symbol)

/-! Digits -/

theorem foldl_digits (n : Nat) (ds : List Nat) :
    ds.foldl (fun n d => n * 10 + d) n = n * 10 ^ ds.length + natOfDigits ds := by
  induction ds generalizing n with
  | nil => simp [natOfDigits]
  | cons d ds ih =>
    have first := ih d
    have all := ih (n * 10 + d)
    simp only [natOfDigits, List.foldl_cons, List.length_cons, Nat.zero_mul, Nat.zero_add,
      Nat.pow_succ] at first all ⊢
    rw [all, first]
    ring

theorem natOfDigits_append (ds es : List Nat) :
    natOfDigits (ds ++ es) = natOfDigits ds * 10 ^ es.length + natOfDigits es := by
  rw [natOfDigits, List.foldl_append, foldl_digits]
  rfl

theorem natOfDigits_lt {ds : List Nat} (small : ∀ d ∈ ds, d < 10) :
    natOfDigits ds < 10 ^ ds.length := by
  induction ds with
  | nil => decide
  | cons d ds ih =>
    have digit := small d List.mem_cons_self
    have rest := ih fun other member => small other (List.mem_cons_of_mem d member)
    have split := natOfDigits_append [d] ds
    have one : natOfDigits [d] = d := by simp [natOfDigits]
    rw [List.singleton_append, one] at split
    rw [split, List.length_cons, Nat.pow_succ]
    have least : (d + 1) * 10 ^ ds.length ≤ 10 * 10 ^ ds.length := Nat.mul_le_mul_right _ digit
    rw [Nat.add_mul] at least
    omega

theorem natOfDigits_zeros (n : Nat) (ds : List Nat) :
    natOfDigits (List.replicate n 0 ++ ds) = natOfDigits ds := by
  induction n with
  | zero => rfl
  | succ n ih => simpa [List.replicate_succ, natOfDigits] using ih

/-! The significand -/

theorem absorb_taken (n : Nat) (ds : List Nat) :
    (absorb n ds).2 ≤ ds.length ∧
      (absorb n ds).1 = (ds.take (absorb n ds).2).foldl (fun n d => n * 10 + d) n := by
  induction ds generalizing n with
  | nil => exact ⟨Nat.le_refl 0, rfl⟩
  | cons d ds ih =>
    obtain ⟨few, taken⟩ := ih (n * 10 + d)
    unfold absorb
    split
    · exact ⟨Nat.succ_le_succ few, taken⟩
    · exact ⟨Nat.zero_le _, rfl⟩

theorem unsignedBound_eq : unsignedBound = (significandBound : Int) := rfl

theorem absorb_lt {n : Nat} (small : n < significandBound) (ds : List Nat) :
    (absorb n ds).1 < significandBound := by
  have bound := unsignedBound_eq
  induction ds generalizing n with
  | nil => exact small
  | cons d ds ih =>
    unfold absorb
    split
    · rename_i more
      exact ih (by omega)
    · exact small

theorem absorb_all {n : Nat} {ds : List Nat}
    (small : ds.foldl (fun n d => n * 10 + d) n < significandBound) :
    absorb n ds = (ds.foldl (fun n d => n * 10 + d) n, ds.length) := by
  have bound := unsignedBound_eq
  induction ds generalizing n with
  | nil => rfl
  | cons d ds ih =>
    rw [List.foldl_cons] at small
    have later := foldl_digits (n * 10 + d) ds
    have positive : 0 < 10 ^ ds.length := Nat.pow_pos (by decide)
    have least := Nat.le_mul_of_pos_right (n * 10 + d) positive
    have fits : ((n * 10 + d : Nat) : Int) < unsignedBound := by omega
    unfold absorb
    rw [if_pos fits, ih small]
    rfl

/-! Numbers in range -/

/-- The number that a literal stands for, apart from its sign. -/
def Literal.value (l : Literal) : ℚ :=
  natOfDigits (l.whole ++ l.fraction) * (10 : ℚ) ^ (l.exponent.getD 0 - l.fraction.length)

theorem real_inFormat {l : Literal} {x : Binary64} (read : l.real? = some x) : InFormat x.units := by
  unfold Literal.real? at read
  dsimp only at read
  obtain ⟨units, scaled, rfl⟩ := Option.map_eq_some_iff.mp read
  have start : 0 < significandBound := by decide
  exact scaleByTen_inFormat (absorb_lt (absorb_lt start _) _) scaled

theorem absorbed_le (whole fraction : List Nat) (exponent : Int) {taken : Nat}
    (few : taken ≤ fraction.length) :
    (natOfDigits (whole ++ fraction.take taken) : ℚ) * 10 ^ (exponent - taken) ≤
      natOfDigits (whole ++ fraction) * (10 : ℚ) ^ (exponent - fraction.length) := by
  have split := natOfDigits_append (whole ++ fraction.take taken) (fraction.drop taken)
  rw [List.append_assoc, List.take_append_drop, List.length_drop] at split
  have least : natOfDigits (whole ++ fraction.take taken) * 10 ^ (fraction.length - taken) ≤
      natOfDigits (whole ++ fraction) := by omega
  have cast : (natOfDigits (whole ++ fraction.take taken) : ℚ) * 10 ^ (fraction.length - taken) ≤
      natOfDigits (whole ++ fraction) := by exact_mod_cast least
  have power : (10 : ℚ) ^ (exponent - taken) =
      10 ^ (fraction.length - taken) * 10 ^ (exponent - fraction.length) := by
    rw [← zpow_natCast, ← zpow_add₀ (by norm_num)]
    congr 1
    omega
  rw [power, ← mul_assoc]
  exact mul_le_mul_of_nonneg_right cast (zpow_nonneg (by norm_num) _)

theorem real_in_range {l : Literal} (short : l.whole.length ≤ 19) (small : ∀ d ∈ l.whole, d < 10)
    (within : l.value ≤ upperMiddle) : ∃ x, l.real? = some x := by
  obtain ⟨negative, whole, fraction, exponent⟩ := l
  dsimp only [Literal.value] at short small within
  have few : natOfDigits whole < significandBound := by
    have digits := natOfDigits_lt small
    have power : 10 ^ whole.length ≤ 10 ^ 19 := Nat.pow_le_pow_right (by decide) short
    have bound : 10 ^ 19 < significandBound := by decide
    omega
  have all : absorb 0 whole = (natOfDigits whole, whole.length) := absorb_all few
  obtain ⟨count, taken⟩ := absorb_taken (natOfDigits whole) fraction
  have significand := absorb_lt few fraction
  unfold Literal.real?
  rw [all]
  dsimp only
  rw [Nat.sub_self]
  generalize absorb (natOfDigits whole) fraction = absorbed at *
  obtain ⟨n, k⟩ := absorbed
  dsimp only at *
  have digits : n = natOfDigits (whole ++ fraction.take k) := by
    rw [taken]
    exact (List.foldl_append ..).symm
  have order : ((0 : Nat) : Int) - k + exponent.getD 0 = exponent.getD 0 - k := by omega
  rw [order]
  suffices scaled : ∃ units, scaleByTen (unitsOfNat n) (exponent.getD 0 - k) = some units by
    obtain ⟨units, known⟩ := scaled
    exact ⟨_, by rw [known]; rfl⟩
  rcases Int.lt_or_le (exponent.getD 0 - k) 0 with down | up
  · exact scaleByTen_down down
  · obtain ⟨e, power⟩ := Int.eq_ofNat_of_zero_le up
    have bound := (absorbed_le whole fraction (exponent.getD 0) count).trans within
    rw [← digits, power, zpow_natCast] at bound
    rw [power]
    exact scaleByTen_within significand (by exact_mod_cast bound)

/-! Texts -/

theorem readLiteral_of_parts {negative : Bool} {text behindWhole behindFraction rest : Input}
    {whole fraction : List Nat} {exponent : Option Int}
    (first : readWhole text = .ok (whole, behindWhole))
    (second : readFraction behindWhole = .ok (fraction, behindFraction))
    (third : readExponent behindFraction = .ok (exponent, rest)) :
    readLiteral negative text = .ok (⟨negative, whole, fraction, exponent⟩, rest) := by
  simp only [readLiteral, first, second, third, ok_bind]
  rfl

theorem readWhole_digitText {whole : List Nat} (plain : Plain whole) (small : ∀ d ∈ whole, d < 10)
    {rest : Input} (ends : ∀ symbol ∈ rest.head?, digit? symbol = none) :
    readWhole (digitText whole ++ rest) = .ok (whole, rest) :=
  readWhole_of_digits plain (readDigits_digitText small ends)

theorem readFraction_digitText {fraction : List Nat} (present : fraction ≠ [])
    (small : ∀ d ∈ fraction, d < 10) {rest : Input}
    (ends : ∀ symbol ∈ rest.head?, digit? symbol = none) :
    readFraction (.char '.' :: (digitText fraction ++ rest)) = .ok (fraction, rest) :=
  readSomeDigits_of_digits present (readDigits_digitText small ends)

theorem readExponent_signed (exponent : Int) {rest : Input} (ends : EndsNumber rest) :
    readExponent (.char 'e' :: .char (if 0 ≤ exponent then '+' else '-') ::
      (digitSymbols exponent.natAbs ++ rest)) = .ok (some exponent, rest) := by
  obtain ⟨ds, digits, plain, value⟩ := readDigits_digitSymbols exponent.natAbs ends.no_digit
  have read := readSomeDigits_of_digits plain.1 digits
  by_cases up : 0 ≤ exponent
  · have size : ((natOfDigits ds : Nat) : Int) = exponent := by omega
    simp only [up, if_true]
    show (readSomeDigits _ >>= fun found => pure (some (natOfDigits found.1 : Int), found.2)) = _
    rw [read, ok_bind, size]
    rfl
  · have size : -((natOfDigits ds : Nat) : Int) = exponent := by omega
    simp only [up, if_false]
    show (readSomeDigits _ >>= fun found => pure (some (-(natOfDigits found.1 : Int)), found.2)) = _
    rw [read, ok_bind, size]
    rfl

theorem readLiteral_pointed (negative : Bool) {whole fraction : List Nat} (plain : Plain whole)
    (small : ∀ d ∈ whole, d < 10) (present : fraction ≠ []) (small' : ∀ d ∈ fraction, d < 10)
    {rest : Input} (ends : EndsNumber rest) :
    readLiteral negative (digitText whole ++ .char '.' :: (digitText fraction ++ rest)) =
      .ok (⟨negative, whole, fraction, none⟩, rest) := by
  refine readLiteral_of_parts (readWhole_digitText plain small ?_)
    (readFraction_digitText present small' ends.no_digit)
    ((readExponent_none_iff _ _).mpr ⟨rfl, ends.no_letter.2⟩)
  intro symbol head
  cases head
  rfl

/-- The point is left out before an empty fraction. -/
theorem readLiteral_scientific (negative : Bool) {first : Nat} {fraction : List Nat}
    (small : ∀ d ∈ first :: fraction, d < 10) (exponent : Int) {rest : Input}
    (ends : EndsNumber rest) :
    readLiteral negative (digitText [first] ++
      ((if fraction = [] then [] else .char '.' :: digitText fraction) ++
        .char 'e' :: .char (if 0 ≤ exponent then '+' else '-') ::
          (digitSymbols exponent.natAbs ++ rest))) =
      .ok (⟨negative, [first], fraction, some exponent⟩, rest) := by
  obtain ⟨digit, others⟩ := List.forall_mem_cons.mp small
  have plain : Plain [first] := ⟨List.cons_ne_nil _ _, nofun⟩
  have one : ∀ d ∈ [first], d < 10 := fun d member => List.mem_singleton.mp member ▸ digit
  by_cases none : fraction = []
  · subst none
    refine readLiteral_of_parts (readWhole_digitText plain one ?_)
      ((readFraction_none_iff _ _).mpr ⟨rfl, ?_⟩) (readExponent_signed exponent ends)
    · intro symbol head
      cases head
      rfl
    · simp
  · rw [if_neg none, List.cons_append]
    refine readLiteral_of_parts (readWhole_digitText plain one ?_)
      (readFraction_digitText none others ?_) (readExponent_signed exponent ends)
    · intro symbol head
      cases head
      rfl
    · intro symbol head
      cases head
      rfl

/-! The text of a decimal -/

/-- The digits of a number that is not zero. -/
structure Significant (ds : List Nat) : Prop where
  present : ds ≠ []
  leads : ds.head? ≠ some 0
  small : ∀ d ∈ ds, d < 10

theorem significant_digits {n : Nat} (positive : 0 < n) :
    ∃ ds, Significant ds ∧ natOfDigits ds = n := by
  obtain ⟨ds, present, small, value, leads⟩ := digits_exist n
  exact ⟨ds, ⟨present, leads positive, small⟩, value⟩

theorem plain_of_head {ds : List Nat} (present : ds ≠ []) (leads : ds.head? ≠ some 0) : Plain ds := by
  refine ⟨present, ?_⟩
  intro d e rest whole zero
  subst whole
  subst zero
  exact leads rfl

def literalOf (negative : Bool) (ds : List Nat) (exponent : Int) : Literal :=
  let point := ds.length + exponent
  if -5 < point ∧ point ≤ 16 then
    if 0 ≤ exponent then ⟨negative, ds ++ List.replicate exponent.natAbs 0, [0], none⟩
    else if 0 < point then ⟨negative, ds.take point.natAbs, ds.drop point.natAbs, none⟩
    else ⟨negative, [0], List.replicate point.natAbs 0 ++ ds, none⟩
  else ⟨negative, ds.take 1, ds.drop 1, some (point - 1)⟩

theorem literalOf_value (negative : Bool) {ds : List Nat} (present : ds ≠ []) (exponent : Int) :
    (literalOf negative ds exponent).value = natOfDigits ds * (10 : ℚ) ^ exponent := by
  have count := List.length_pos_iff.mpr present
  unfold literalOf Literal.value
  dsimp only
  split
  · split
    · rename_i up
      obtain ⟨n, rfl⟩ := Int.eq_ofNat_of_zero_le up
      have zeros := natOfDigits_zeros n []
      rw [List.append_nil] at zeros
      have digits : natOfDigits ((ds ++ List.replicate n 0) ++ [0]) = natOfDigits ds * 10 ^ n * 10 := by
        rw [natOfDigits_append, natOfDigits_append, zeros]
        simp [natOfDigits]
      rw [Int.natAbs_natCast, digits]
      simp
    · split
      · have size : (Option.none : Option Int).getD 0 -
            (ds.drop ((ds.length : Int) + exponent).natAbs).length = exponent := by
          rw [List.length_drop, Option.getD_none]
          omega
        rw [List.take_append_drop, size]
      · have size : (Option.none : Option Int).getD 0 -
            (List.replicate ((ds.length : Int) + exponent).natAbs 0 ++ ds).length = exponent := by
          rw [List.length_append, List.length_replicate, Option.getD_none]
          omega
        have zeros := natOfDigits_zeros (((ds.length : Int) + exponent).natAbs + 1) ds
        rw [List.replicate_succ, List.cons_append] at zeros
        rw [List.singleton_append, zeros, size]
  · have size : (some ((ds.length : Int) + exponent - 1)).getD 0 - (ds.drop 1).length = exponent := by
      rw [List.length_drop, Option.getD_some]
      omega
    rw [List.take_append_drop, size]

/-- The digits before the point are few, and there is a point or an exponent. -/
theorem literalOf_form (negative : Bool) {ds : List Nat} (significant : Significant ds)
    (exponent : Int) :
    (literalOf negative ds exponent).whole.length ≤ 19 ∧
      (∀ d ∈ (literalOf negative ds exponent).whole, d < 10) ∧
      (literalOf negative ds exponent).integer? = none := by
  have small := significant.small
  unfold literalOf
  dsimp only
  split
  · split
    · refine ⟨?_, ?_, by simp [Literal.integer?]⟩
      · simp only [List.length_append, List.length_replicate]
        omega
      · intro d member
        rcases List.mem_append.mp member with digit | zero
        · exact small d digit
        · rw [List.eq_of_mem_replicate zero]
          decide
    · split
      · refine ⟨?_, fun d member => small d (List.mem_of_mem_take member), ?_⟩
        · simp only [List.length_take]
          omega
        · have more : ds.drop ((ds.length : Int) + exponent).natAbs ≠ [] := by
            rw [Ne, List.drop_eq_nil_iff]
            omega
          simp [Literal.integer?, more]
      · exact ⟨by simp, by simp, by simp [Literal.integer?, significant.present]⟩
  · refine ⟨?_, fun d member => small d (List.mem_of_mem_take member), by simp [Literal.integer?]⟩
    simp only [List.length_take]
    omega

theorem plain_zero : Plain [0] := by
  refine ⟨List.cons_ne_nil _ _, ?_⟩
  intro d e more same
  cases same

section Written

variable (negative : Bool) {ds : List Nat} (significant : Significant ds) {rest : Input}
  (ends : EndsNumber rest)

include significant ends

theorem reads_padded (n : Nat) :
    readLiteral negative ((ds.map Nat.digitChar ++ List.replicate n '0' ++ ['.', '0']).map .char ++
      rest) = .ok (⟨negative, ds ++ List.replicate n 0, [0], none⟩, rest) := by
  have parts : (ds.map Nat.digitChar ++ List.replicate n '0' ++ ['.', '0']).map Symbol.char ++ rest =
      digitText (ds ++ List.replicate n 0) ++ .char '.' :: (digitText [0] ++ rest) := by
    simp [digitText, show Nat.digitChar 0 = '0' from rfl]
  have plain : Plain (ds ++ List.replicate n 0) := by
    obtain ⟨first, others, rfl⟩ := List.exists_cons_of_ne_nil significant.present
    exact plain_of_head (List.cons_ne_nil _ _) significant.leads
  rw [parts]
  refine readLiteral_pointed negative plain ?_ (by simp) (by simp) ends
  intro d member
  rcases List.mem_append.mp member with digit | zero
  · exact significant.small d digit
  · rw [List.eq_of_mem_replicate zero]
    decide

theorem reads_parted {n : Nat} (positive : 0 < n) (short : n < ds.length) :
    readLiteral negative (((ds.map Nat.digitChar).take n ++
      '.' :: (ds.map Nat.digitChar).drop n).map .char ++ rest) =
      .ok (⟨negative, ds.take n, ds.drop n, none⟩, rest) := by
  have parts : ((ds.map Nat.digitChar).take n ++
      '.' :: (ds.map Nat.digitChar).drop n).map Symbol.char ++ rest =
      digitText (ds.take n) ++ .char '.' :: (digitText (ds.drop n) ++ rest) := by
    simp [digitText, List.map_take, List.map_drop]
  have plain : Plain (ds.take n) := by
    obtain ⟨first, others, rfl⟩ := List.exists_cons_of_ne_nil significant.present
    obtain ⟨n, rfl⟩ := Nat.exists_eq_succ_of_ne_zero (Nat.ne_of_gt positive)
    exact plain_of_head (List.cons_ne_nil _ _) significant.leads
  have more : ds.drop n ≠ [] := by
    rw [Ne, List.drop_eq_nil_iff]
    omega
  rw [parts]
  exact readLiteral_pointed negative plain
    (fun d member => significant.small d (List.mem_of_mem_take member)) more
    (fun d member => significant.small d (List.mem_of_mem_drop member)) ends

theorem reads_fraction (n : Nat) :
    readLiteral negative (('0' :: '.' :: List.replicate n '0' ++ ds.map Nat.digitChar).map .char ++
      rest) = .ok (⟨negative, [0], List.replicate n 0 ++ ds, none⟩, rest) := by
  have parts : ('0' :: '.' :: List.replicate n '0' ++ ds.map Nat.digitChar).map Symbol.char ++ rest =
      digitText [0] ++ .char '.' :: (digitText (List.replicate n 0 ++ ds) ++ rest) := by
    simp [digitText, show Nat.digitChar 0 = '0' from rfl]
  rw [parts]
  refine readLiteral_pointed negative plain_zero (by simp) (by simp [significant.present]) ?_ ends
  intro d member
  rcases List.mem_append.mp member with zero | digit
  · rw [List.eq_of_mem_replicate zero]
    decide
  · exact significant.small d digit

theorem text_reads (exponent : Int) :
    readLiteral negative (Text.symbols (Scaled.text ⟨natOfDigits ds, exponent⟩) ++ rest) =
      .ok (literalOf negative ds exponent, rest) := by
  have written := toDigits_natOfDigits (plain_of_head significant.present significant.leads)
    significant.small
  unfold Scaled.text literalOf Text.symbols
  dsimp only
  rw [written, List.length_map, String.toList_ofList]
  split
  · split
    · exact reads_padded negative significant ends _
    · split
      · exact reads_parted negative significant ends (by omega) (by omega)
      · exact reads_fraction negative significant ends _
  · generalize (ds.length : Int) + exponent - 1 = shown
    obtain ⟨first, others, rfl⟩ := List.exists_cons_of_ne_nil significant.present
    have sign : (if 0 ≤ shown then ['e', '+'] else ['e', '-']) =
        ['e', if 0 ≤ shown then '+' else '-'] := by
      split <;> rfl
    refine Eq.trans (congrArg (readLiteral negative) ?_)
      (readLiteral_scientific negative significant.small shown ends)
    rw [sign]
    cases others <;> simp [digitText, digitSymbols]

end Written

/-! Doubles -/

theorem number_of_real {l : Literal} {x : Binary64} (other : l.integer? = none)
    (real : l.real? = some x) : l.number = .ok (.real x) := by
  simp only [Literal.number, other, real]

theorem greatest_reads (negative : Bool) :
    ∃ x, (literalOf negative [1, 7, 9, 7, 6, 9, 3, 1, 3, 4, 8, 6, 2, 3, 1, 5, 7] 292).real? =
      some x := by
  have form : literalOf negative [1, 7, 9, 7, 6, 9, 3, 1, 3, 4, 8, 6, 2, 3, 1, 5, 7] 292 =
      ⟨negative, [1], [7, 9, 7, 6, 9, 3, 1, 3, 4, 8, 6, 2, 3, 1, 5, 7], some 308⟩ := rfl
  have first : absorb 0 [1] = (1, 1) := rfl
  have others : absorb 1 [7, 9, 7, 6, 9, 3, 1, 3, 4, 8, 6, 2, 3, 1, 5, 7] =
      (17976931348623157, 16) := rfl
  have product : fits (mulUnits (unitsOfNat 17976931348623157) (unitsOfNat (Nat.pow 10 292))) = true := by
    decide +kernel
  obtain ⟨units, scaled⟩ := scaleByTen_of_fits (by decide) product
  refine ⟨⟨negative, units⟩, ?_⟩
  rw [form]
  simp only [Literal.real?, first, others]
  show (scaleByTen (unitsOfNat 17976931348623157) (292 : Nat)).map _ = _
  rw [scaled]
  rfl

theorem shortest_reads (negative : Bool) {units : Nat} (positive : 0 < units)
    (inFormat : InFormat units) : ∃ ds exponent x, Significant ds ∧
      shortest units = ⟨natOfDigits ds, exponent⟩ ∧
      (literalOf negative ds exponent).real? = some x := by
  by_cases greatest : units = greatestUnits
  · obtain ⟨x, real⟩ := greatest_reads negative
    refine ⟨_, _, x, ⟨List.cons_ne_nil _ _, by decide, by decide⟩, ?_, real⟩
    rw [greatest, shortest_greatest]
    rfl
  · obtain ⟨ds, significant, digits⟩ := significant_digits (shortest_within positive).2
    obtain ⟨short, small, _⟩ := literalOf_form negative significant (shortest units).exponent
    have within := shortest_le positive inFormat greatest
    rw [Scaled.value, ← digits, ← literalOf_value negative significant.present] at within
    obtain ⟨x, real⟩ := real_in_range short small within
    exact ⟨ds, _, x, significant, by rw [digits], real⟩

theorem zero_reads (negative : Bool) :
    ∃ x, (⟨negative, [0], [0], none⟩ : Literal).real? = some x := by
  refine real_in_range (by simp) (by simp) ?_
  rw [Literal.value, show natOfDigits ([0] ++ [0]) = 0 from rfl, Nat.cast_zero, zero_mul]
  exact Nat.cast_nonneg _

def magnitudeText (units : Nat) : String :=
  if units = 0 then "0.0" else (shortest units).text

theorem magnitude_reads (negative : Bool) {units : Nat} (inFormat : InFormat units) :
    ∃ x : Binary64, InFormat x.units ∧ ∀ rest, EndsNumber rest →
      readNumber negative (Text.symbols (magnitudeText units) ++ rest) = .ok (.real x, rest) := by
  suffices found : ∃ l x, l.integer? = none ∧ l.real? = some x ∧ ∀ rest, EndsNumber rest →
      readLiteral negative (Text.symbols (magnitudeText units) ++ rest) = .ok (l, rest) by
    obtain ⟨l, x, other, real, read⟩ := found
    refine ⟨x, real_inFormat real, ?_⟩
    intro rest ends
    simp only [readNumber, read rest ends, ok_bind, number_of_real other real]
    rfl
  unfold magnitudeText
  rcases Nat.eq_zero_or_pos units with zero | positive
  · obtain ⟨x, real⟩ := zero_reads negative
    rw [if_pos zero]
    refine ⟨_, x, rfl, real, ?_⟩
    intro rest ends
    exact readLiteral_pointed negative plain_zero (by simp) (List.cons_ne_nil 0 []) (by simp) ends
  · obtain ⟨ds, exponent, x, significant, same, real⟩ := shortest_reads negative positive inFormat
    rw [if_neg (Nat.ne_of_gt positive), same]
    refine ⟨_, x, (literalOf_form negative significant exponent).2.2, real, ?_⟩
    intro rest ends
    exact text_reads negative significant ends exponent

theorem readNumber_front {negative : Bool} {text rest : Input} {n : Number}
    (read : readNumber negative text = .ok (n, rest)) :
    ∃ c behind, text = .char c :: behind ∧ '0' ≤ c ∧ c ≤ '9' := by
  obtain ⟨⟨literal, after⟩, parts, _⟩ := (bind_ok_iff _ _ _).mp read
  obtain ⟨⟨whole, behind⟩, first, _⟩ := (bind_ok_iff _ _ _).mp parts
  obtain ⟨plain, digits⟩ := readWhole_ok first
  obtain ⟨written, small, _⟩ := readDigits_sound text
  rw [digits] at written small
  obtain ⟨d, ds, rfl⟩ := List.exists_cons_of_ne_nil plain.1
  exact ⟨d.digitChar, _, written, digitChar_digit (small d List.mem_cons_self)⟩

theorem real_reads {x : Binary64} (inFormat : InFormat x.units) : ∃ y : Binary64,
    InFormat y.units ∧ ∀ rest, EndsNumber rest →
      ScalarText (Text.symbols x.text ++ rest) (.number (.real y)) rest := by
  obtain ⟨y, known, reads⟩ := magnitude_reads x.negative inFormat
  refine ⟨y, known, ?_⟩
  intro rest ends
  have read := reads rest ends
  cases sign : x.negative with
  | true =>
    have text : Text.symbols x.text = .char '-' :: Text.symbols (magnitudeText x.units) := by
      simp only [Binary64.text, sign, if_true, Text.symbols, String.toList_append]
      rfl
    rw [sign] at read
    rw [text]
    exact .negative read
  | false =>
    have text : Text.symbols x.text = Text.symbols (magnitudeText x.units) := by
      simp only [Binary64.text, sign]
      rfl
    rw [sign] at read
    rw [text]
    obtain ⟨c, behind, front, digit⟩ := readNumber_front read
    rw [front] at read ⊢
    exact .natural digit read

end SessionGate.Json
