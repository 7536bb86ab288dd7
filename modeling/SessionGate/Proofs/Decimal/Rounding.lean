import Mathlib.Algebra.Group.Nat.Defs
import SessionGate.Decimal.Shortest

/- Rounding to the magnitudes of the format. It keeps order, and what it answers is a whole number of the
   steps in which the format has magnitudes of that size. -/
namespace SessionGate.Decimal

/-! Quotients -/

theorem roundDiv_bounds (num den : Nat) :
    num / den ≤ roundDiv num den ∧ roundDiv num den ≤ num / den + 1 := by
  unfold roundDiv
  have parity := Nat.mod_two_eq_zero_or_one (num / den)
  dsimp only
  split
  · omega
  · split <;> omega

theorem roundDiv_mono {num more : Nat} (den : Nat) (le : num ≤ more) :
    roundDiv num den ≤ roundDiv more den := by
  have first := roundDiv_bounds num den
  have second := roundDiv_bounds more den
  have quotients := Nat.div_le_div_right (c := den) le
  rcases Nat.lt_or_eq_of_le quotients with less | same
  · omega
  · have parts := Nat.div_add_mod num den
    have others := Nat.div_add_mod more den
    rw [← same] at others
    by_cases down : 2 * (num % den) < den
    · have rounded : roundDiv num den = num / den := if_pos down
      omega
    · by_cases up : den < 2 * (more % den)
      · have rounded : roundDiv more den = more / den + 1 := by
          rw [roundDiv, if_neg (by omega), if_pos up]
        omega
      · have rests : num % den = more % den := by omega
        exact Nat.le_of_eq (by rw [roundDiv, roundDiv, same, rests])

/-! Units -/

/-- The part of the quotient that is rounded away, as a power of two. -/
def spareOf (whole : Nat) : Nat := Nat.pow 2 (whole.log2 - 52)

theorem roundUnits_small {num den : Nat} (small : num / den < 2 ^ 53) :
    roundUnits num den = roundDiv num den :=
  if_pos small

theorem roundUnits_large {num den : Nat} (large : 2 ^ 53 ≤ num / den) :
    roundUnits num den = roundDiv num (den * spareOf (num / den)) * spareOf (num / den) :=
  if_neg (Nat.not_lt.mpr large)

theorem spare_split {whole : Nat} (large : 2 ^ 53 ≤ whole) :
    2 ^ whole.log2 = 2 ^ 52 * spareOf whole ∧ 2 ^ (whole.log2 + 1) = 2 ^ 53 * spareOf whole := by
  have exponent : 53 ≤ whole.log2 := (Nat.le_log2 (by omega)).mpr large
  have shift : whole.log2 = 52 + (whole.log2 - 52) := by omega
  constructor
  · show 2 ^ whole.log2 = 2 ^ 52 * 2 ^ (whole.log2 - 52)
    rw [← Nat.pow_add, ← shift]
  · show 2 ^ (whole.log2 + 1) = 2 ^ 53 * 2 ^ (whole.log2 - 52)
    rw [← Nat.pow_add]
    congr 1
    omega

theorem significand_bounds {num den : Nat} (large : 2 ^ 53 ≤ num / den) :
    2 ^ 52 ≤ roundDiv num (den * spareOf (num / den)) ∧
      roundDiv num (den * spareOf (num / den)) ≤ 2 ^ 53 := by
  have bounds := roundDiv_bounds num (den * spareOf (num / den))
  rw [← Nat.div_div_eq_div_mul] at bounds
  generalize num / den = whole at *
  have positive : 0 < spareOf whole := Nat.pow_pos (by decide)
  obtain ⟨low, high⟩ := spare_split large
  have least : 2 ^ 52 ≤ whole / spareOf whole := by
    rw [Nat.le_div_iff_mul_le positive, ← low]
    exact Nat.log2_self_le (by omega)
  have greatest : whole / spareOf whole < 2 ^ 53 := by
    rw [Nat.div_lt_iff_lt_mul positive, ← high]
    exact Nat.lt_log2_self
  omega

theorem roundUnits_bounds {num den : Nat} (large : 2 ^ 53 ≤ num / den) :
    2 ^ (num / den).log2 ≤ roundUnits num den ∧ roundUnits num den ≤ 2 ^ ((num / den).log2 + 1) := by
  obtain ⟨low, high⟩ := spare_split large
  obtain ⟨least, greatest⟩ := significand_bounds large
  rw [roundUnits_large large, low, high]
  exact ⟨Nat.mul_le_mul_right _ least, Nat.mul_le_mul_right _ greatest⟩

theorem le_roundUnits {num den exponent : Nat} (large : 53 ≤ exponent)
    (le : 2 ^ exponent ≤ num / den) : 2 ^ exponent ≤ roundUnits num den := by
  have wide : 2 ^ 53 ≤ num / den := Nat.le_trans (Nat.pow_le_pow_right (by decide) large) le
  have log : exponent ≤ (num / den).log2 := (Nat.le_log2 (by omega)).mpr le
  exact Nat.le_trans (Nat.pow_le_pow_right (by decide) log) (roundUnits_bounds wide).1

theorem roundUnits_le (num den : Nat) : roundUnits num den ≤ 2 * (num / den) + 1 := by
  by_cases small : num / den < 2 ^ 53
  · have bounds := roundDiv_bounds num den
    rw [roundUnits_small small]
    omega
  · have large := Nat.le_of_not_lt small
    have bounds := (roundUnits_bounds large).2
    have least := Nat.log2_self_le (n := num / den) (by omega)
    rw [Nat.pow_succ] at bounds
    omega

theorem roundUnits_mono {num more : Nat} (den : Nat) (le : num ≤ more) :
    roundUnits num den ≤ roundUnits more den := by
  have quotients := Nat.div_le_div_right (c := den) le
  by_cases small : more / den < 2 ^ 53
  · rw [roundUnits_small small, roundUnits_small (by omega)]
    exact roundDiv_mono den le
  · have large := Nat.le_of_not_lt small
    have lower := (roundUnits_bounds large).1
    by_cases first : num / den < 2 ^ 53
    · have upper := (roundDiv_bounds num den).2
      have exponent : 2 ^ 53 ≤ 2 ^ (more / den).log2 :=
        Nat.pow_le_pow_right (by decide) ((Nat.le_log2 (by omega)).mpr large)
      rw [roundUnits_small first]
      omega
    · have second := Nat.le_of_not_lt first
      have upper := (roundUnits_bounds second).2
      have exponents : (num / den).log2 ≤ (more / den).log2 := by
        rw [Nat.le_log2 (by omega)]
        exact Nat.le_trans (Nat.log2_self_le (by omega)) quotients
      rcases Nat.lt_or_eq_of_le exponents with less | same
      · have powers : 2 ^ ((num / den).log2 + 1) ≤ 2 ^ (more / den).log2 :=
          Nat.pow_le_pow_right (by decide) less
        omega
      · have spares : spareOf (num / den) = spareOf (more / den) := by rw [spareOf, same, spareOf]
        rw [roundUnits_large large, roundUnits_large second, spares]
        exact Nat.mul_le_mul_right _ (roundDiv_mono _ le)

theorem unitsOfNat_mono {n m : Nat} (le : n ≤ m) : unitsOfNat n ≤ unitsOfNat m :=
  roundUnits_mono 1 (Nat.mul_le_mul_right _ le)

theorem mulUnits_mono {a b : Nat} (c : Nat) (le : a ≤ b) : mulUnits a c ≤ mulUnits b c :=
  roundUnits_mono perOne (Nat.mul_le_mul_right _ le)

/-! The grid -/

/-- A magnitude that has 53 significant bits at most. -/
def OnGrid (units : Nat) : Prop := gapAbove units ∣ units

theorem gapAbove_between {units exponent : Nat} (large : 53 ≤ exponent) (least : 2 ^ exponent ≤ units)
    (greatest : units < 2 ^ (exponent + 1)) : gapAbove units = 2 ^ (exponent - 52) := by
  have wide : 2 ^ 53 ≤ 2 ^ exponent := Nat.pow_le_pow_right (by decide) large
  have present : units ≠ 0 := by omega
  have log : units.log2 = exponent := by
    have low := (Nat.le_log2 present).mpr least
    have high := (Nat.log2_lt present).mpr greatest
    omega
  rw [gapAbove, if_neg (by show ¬ units < 2 ^ 53; omega), log]
  rfl

theorem onGrid_small {units : Nat} (small : units < 2 ^ 53) : OnGrid units := by
  rw [OnGrid, gapAbove, if_pos (by exact small)]
  exact Nat.one_dvd units

theorem onGrid_power {exponent : Nat} (large : 53 ≤ exponent) : OnGrid (2 ^ exponent) := by
  rw [OnGrid, gapAbove_between large (Nat.le_refl _) (Nat.pow_lt_pow_right (by decide) (by omega))]
  exact Nat.pow_dvd_pow 2 (by omega)

theorem roundUnits_onGrid (num den : Nat) : OnGrid (roundUnits num den) := by
  by_cases small : num / den < 2 ^ 53
  · have bounds := roundDiv_bounds num den
    rw [roundUnits_small small]
    rcases Nat.lt_or_eq_of_le (show roundDiv num den ≤ 2 ^ 53 by omega) with less | same
    · exact onGrid_small less
    · rw [same]
      exact onGrid_power (Nat.le_refl 53)
  · have large := Nat.le_of_not_lt small
    have exponent : 53 ≤ (num / den).log2 := (Nat.le_log2 (by omega)).mpr large
    obtain ⟨least, greatest⟩ := roundUnits_bounds large
    rcases Nat.lt_or_eq_of_le greatest with less | same
    · rw [OnGrid, gapAbove_between exponent least less, roundUnits_large large]
      exact Nat.dvd_mul_left _ _
    · rw [same]
      exact onGrid_power (by omega)

end SessionGate.Decimal
