import Mathlib.Algebra.Order.Field.Rat
import Mathlib.Tactic.Linarith
import Mathlib.Tactic.LinearCombination
import Mathlib.Tactic.Positivity
import Mathlib.Tactic.Ring
import SessionGate.Proofs.Decimal.Range

/- How near the shortest decimal is to its magnitude: within the interval of what rounds to it, and never
   zero, whether or not one of the grids up to seventeen digits has a decimal that reads back. -/
namespace SessionGate.Decimal

/-- The number that a decimal stands for. -/
def Scaled.value (d : Scaled) : ℚ := d.digits * (10 : ℚ) ^ d.exponent

theorem exponent_cases (exponent : Int) : ∃ n : Nat, exponent.natAbs = n ∧
    (0 ≤ exponent ∧ exponent = n ∧ (10 : ℚ) ^ exponent = 10 ^ n ∨
      ¬ 0 ≤ exponent ∧ exponent = -n ∧ (10 : ℚ) ^ exponent * 10 ^ n = 1) := by
  refine ⟨exponent.natAbs, rfl, ?_⟩
  rcases Int.lt_or_le exponent 0 with down | up
  · have size : exponent = -(exponent.natAbs : Int) := by omega
    refine Or.inr ⟨by omega, size, ?_⟩
    rw [size, Int.natAbs_neg, Int.natAbs_natCast, zpow_neg, zpow_natCast]
    exact inv_mul_cancel₀ (by positivity)
  · have size : exponent = (exponent.natAbs : Int) := by omega
    refine Or.inl ⟨up, size, ?_⟩
    rw [size, Int.natAbs_natCast, zpow_natCast]

/-! The interval of a magnitude -/

theorem align_value (d : Scaled) : ∃ part : ℚ, 0 < part ∧ ∀ halfUnits : Nat,
    ((d.align halfUnits).1 : ℚ) = d.value * (2 * perOne) * part ∧
      ((d.align halfUnits).2 : ℚ) = halfUnits * part := by
  obtain ⟨digits, exponent⟩ := d
  obtain ⟨n, size, ⟨up, _, power⟩ | ⟨down, _, power⟩⟩ := exponent_cases exponent
  · refine ⟨1, by positivity, ?_⟩
    intro halfUnits
    simp only [Scaled.align, up, if_true, size, Scaled.value, power]
    refine ⟨?_, by simp⟩
    show ((digits * 10 ^ n * (2 * perOne) : Nat) : ℚ) = _
    push_cast
    rw [mul_one]
  · refine ⟨10 ^ n, by positivity, ?_⟩
    intro halfUnits
    simp only [Scaled.align, down, if_false, size, Scaled.value]
    constructor
    · push_cast
      linear_combination (-(digits : ℚ) * (2 * perOne)) * power
    · show ((halfUnits * 10 ^ n : Nat) : ℚ) = _
      push_cast
      rfl

theorem align_le_iff (d : Scaled) (halfUnits : Nat) :
    (d.align halfUnits).1 ≤ (d.align halfUnits).2 ↔ d.value * (2 * perOne) ≤ halfUnits := by
  obtain ⟨part, positive, known⟩ := align_value d
  obtain ⟨first, second⟩ := known halfUnits
  rw [← Nat.cast_le (α := ℚ), first, second, mul_le_mul_iff_of_pos_right positive]

theorem le_align_iff (d : Scaled) (halfUnits : Nat) :
    (d.align halfUnits).2 ≤ (d.align halfUnits).1 ↔ halfUnits ≤ d.value * (2 * perOne) := by
  obtain ⟨part, positive, known⟩ := align_value d
  obtain ⟨first, second⟩ := known halfUnits
  rw [← Nat.cast_le (α := ℚ), first, second, mul_le_mul_iff_of_pos_right positive]

theorem readsBack_within {d : Scaled} {units : Nat} (reads : d.readsBack units = true) :
    ((2 * units - gapBelow units : Nat) : ℚ) ≤ d.value * (2 * perOne) ∧
      d.value * (2 * perOne) ≤ (2 * units + gapAbove units : Nat) := by
  rw [← le_align_iff, ← align_le_iff]
  unfold Scaled.readsBack at reads
  dsimp only at reads
  split at reads
  · simpa using reads
  · simp only [Bool.and_eq_true, decide_eq_true_eq] at reads
    exact ⟨Nat.le_of_lt reads.1, Nat.le_of_lt reads.2⟩

theorem onGrid_readsBack {units : Nat} {exponent : Int} {d : Scaled}
    (found : onGrid? units exponent = some d) : d.readsBack units = true := by
  unfold onGrid? at found
  dsimp only at found
  split at found
  · cases found
  · cases found
    assumption
  · cases found
    assumption
  · rename_i low high
    split at found
    · cases found
      exact low
    · split at found
      · cases found
        exact high
      · cases found
        split
        · exact low
        · exact high

/-! The first digit -/

theorem gapBelow_le {units : Nat} (present : 0 < units) : gapBelow units ≤ units := by
  have above : gapAbove units ≤ units := by
    unfold gapAbove
    split
    · exact present
    · exact Nat.le_trans (Nat.pow_le_pow_right (by decide) (Nat.sub_le _ _))
        (Nat.log2_self_le (Nat.ne_of_gt present))
  unfold gapBelow
  split
  · exact Nat.le_trans (Nat.div_le_self _ _) above
  · exact above

theorem leading_power {n : Nat} (present : 0 < n) :
    Nat.pow 10 ((Nat.toDigits 10 n).length - 1) ≤ n := by
  rcases Nat.eq_zero_or_pos ((Nat.toDigits 10 n).length - 1) with one | more
  · rw [one]
    exact present
  · have short := Nat.length_toDigits_pos (b := 10) (n := n)
    have least := mt (Nat.length_toDigits_le_iff (b := 10) (n := n) (by decide) more).mpr
    exact Nat.le_of_not_lt (least (by omega))

theorem leadingExponent_le {units : Nat} (present : 0 < units) :
    (10 : ℚ) ^ leadingExponent units * perOne ≤ units := by
  unfold leadingExponent
  split
  · rename_i whole
    have ones : 0 < units / perOne := Nat.div_pos whole perOne_pos
    have power := (Nat.le_div_iff_mul_le perOne_pos).mp (leading_power ones)
    rw [zpow_natCast]
    exact_mod_cast power
  · cases found : (List.range 325).find? fun k => perOne ≤ units * Nat.pow 10 k with
    | some k =>
      have enough := List.find?_some found
      rw [decide_eq_true_eq] at enough
      have enough' : (perOne : ℚ) ≤ units * 10 ^ k := by exact_mod_cast enough
      rw [Option.getD_some, zpow_neg, zpow_natCast, inv_mul_le_iff₀ (by positivity)]
      linarith
    | none =>
      have last := List.find?_eq_none.mp found 324 (by decide)
      rw [decide_eq_true_eq] at last
      exact absurd (Nat.le_trans limits.least (Nat.le_mul_of_pos_left _ present)) last

theorem below_value (units : Nat) (exponent : Int) :
    (below units exponent).value * perOne ≤ units := by
  obtain ⟨n, size, ⟨up, _, power⟩ | ⟨down, _, power⟩⟩ := exponent_cases exponent
  · have quotient := Nat.div_mul_le_self units (perOne * 10 ^ n)
    have cast : ((units / (perOne * 10 ^ n) : Nat) : ℚ) * (perOne * 10 ^ n) ≤ units := by
      exact_mod_cast quotient
    simp only [below, up, if_true, size, Scaled.value, power]
    show ((units / (perOne * 10 ^ n) : Nat) : ℚ) * 10 ^ n * perOne ≤ units
    linarith
  · have quotient := Nat.div_mul_le_self (units * 10 ^ n) perOne
    have cast : ((units * 10 ^ n / perOne : Nat) : ℚ) * perOne ≤ units * 10 ^ n := by
      exact_mod_cast quotient
    simp only [below, down, if_false, size, Scaled.value]
    refine le_of_mul_le_mul_right ?_ (show (0 : ℚ) < 10 ^ n by positivity)
    refine le_of_eq_of_le ?_ cast
    linear_combination ((units * 10 ^ n / perOne : Nat) : ℚ) * perOne * power

theorem below_present {units : Nat} {exponent : Int}
    (reaches : (10 : ℚ) ^ exponent * perOne ≤ units) : 0 < (below units exponent).digits := by
  obtain ⟨n, size, ⟨up, _, power⟩ | ⟨down, _, power⟩⟩ := exponent_cases exponent
  · rw [power] at reaches
    have reaches' : 10 ^ n * perOne ≤ units := by exact_mod_cast reaches
    simp only [below, up, if_true, size]
    refine Nat.div_pos ?_ (Nat.mul_pos perOne_pos (Nat.pow_pos (by decide)))
    rw [Nat.mul_comm]
    exact reaches'
  · have scaled := mul_le_mul_of_nonneg_right reaches (show (0 : ℚ) ≤ 10 ^ n by positivity)
    have one : (10 : ℚ) ^ exponent * perOne * 10 ^ n = perOne := by
      linear_combination (perOne : ℚ) * power
    rw [one] at scaled
    have reaches' : perOne ≤ units * 10 ^ n := by exact_mod_cast scaled
    simp only [below, down, if_false, size]
    exact Nat.div_pos reaches' perOne_pos

/-! The shortest decimal -/

theorem strip_value (fuel : Nat) (d : Scaled) : (Scaled.strip fuel d).value = d.value := by
  fun_induction Scaled.strip fuel d with
  | case1 => rfl
  | case2 fuel d zero ih =>
    have tens : d.digits / 10 * 10 = d.digits := Nat.div_mul_cancel (Nat.dvd_of_mod_eq_zero zero)
    have cast : ((d.digits / 10 : Nat) : ℚ) * 10 = d.digits := by exact_mod_cast tens
    rw [ih, Scaled.value, Scaled.value, zpow_add_one₀ (by norm_num), ← cast]
    ring
  | case3 => rfl

theorem strip_present {fuel : Nat} {d : Scaled} (present : 0 < d.digits) :
    0 < (Scaled.strip fuel d).digits := by
  fun_induction Scaled.strip fuel d with
  | case1 => exact present
  | case2 fuel d zero ih => exact ih (by dsimp only; omega)
  | case3 => exact present

theorem shortest_within {units : Nat} (present : 0 < units) :
    (shortest units).value * (2 * perOne) ≤ (2 * units + gapAbove units : Nat) ∧
      0 < (shortest units).digits := by
  have least := gapBelow_le present
  unfold shortest
  dsimp only
  rw [strip_value]
  cases found : ((List.range 17).map fun (n : Nat) => leadingExponent units - n).findSome?
      (onGrid? units) with
  | some d =>
    obtain ⟨exponent, _, known⟩ := List.exists_of_findSome?_eq_some found
    obtain ⟨low, high⟩ := readsBack_within (onGrid_readsBack known)
    refine ⟨high, strip_present (Nat.pos_of_ne_zero ?_)⟩
    intro none
    rw [Option.getD_some] at none
    rw [Scaled.value, none, Nat.cast_zero, zero_mul, zero_mul] at low
    have low' : 2 * units - gapBelow units ≤ 0 := by exact_mod_cast low
    omega
  | none =>
    have reaches : (10 : ℚ) ^ (leadingExponent units - 16) * perOne ≤ units := by
      refine le_trans (mul_le_mul_of_nonneg_right ?_ (Nat.cast_nonneg _)) (leadingExponent_le present)
      exact zpow_le_zpow_right₀ (by norm_num) (by omega)
    have value := below_value units (leadingExponent units - 16)
    rw [Option.getD_none]
    refine ⟨?_, strip_present (below_present reaches)⟩
    push_cast
    have gap : (0 : ℚ) ≤ gapAbove units := Nat.cast_nonneg _
    linarith

theorem gapAbove_le {units : Nat} (inFormat : InFormat units) :
    gapAbove units ≤ 2 ^ (topExponent - 52) := by
  have bound := (fits_iff units).mp inFormat.fits
  by_cases small : units < 2 ^ 53
  · rw [gapAbove, if_pos (by exact small)]
    exact Nat.one_le_two_pow
  · have log : units.log2 < topExponent + 1 := (Nat.log2_lt (by omega)).mpr bound
    have powers {a b : Nat} (le : a ≤ b) : Nat.pow 2 a ≤ 2 ^ b := Nat.pow_le_pow_right (by decide) le
    rw [gapAbove, if_neg (by exact small)]
    exact powers (Nat.sub_le_sub_right (Nat.le_of_lt_succ log) 52)

/-- Below the greatest magnitude the shortest decimals stay in range. -/
theorem shortest_le {units : Nat} (present : 0 < units) (inFormat : InFormat units)
    (other : units ≠ greatestUnits) : (shortest units).value ≤ upperMiddle := by
  have below := (greatest_or_below inFormat).resolve_left other
  have gap := gapAbove_le inFormat
  have middle := limits.middle
  have bound : 2 * units + gapAbove units ≤ upperMiddle * (2 * perOne) := by omega
  have near := (shortest_within present).1
  have cast : ((2 * units + gapAbove units : Nat) : ℚ) ≤ upperMiddle * (2 * perOne) := by
    exact_mod_cast bound
  have positive : (0 : ℚ) < 2 * perOne := by exact_mod_cast Nat.mul_pos (by decide) perOne_pos
  exact le_of_mul_le_mul_right (near.trans cast) positive

theorem shortest_greatest : shortest greatestUnits = ⟨17976931348623157, 292⟩ := by
  decide +kernel

end SessionGate.Decimal
