import SessionGate.Proofs.Decimal.Rounding

/- Which decimals are in range. A product with a rounded power of ten may come out above the greatest
   magnitude although the decimal is nearer to a smaller one, but not for decimals up to the middle
   between the two greatest magnitudes. -/
namespace SessionGate.Decimal

/-- A magnitude of the format. -/
structure InFormat (units : Nat) : Prop where
  onGrid : OnGrid units
  fits : fits units = true

def unitExponent : Nat := 1074

/-- The power of two below which the greatest magnitudes are not. -/
def topExponent : Nat := 2097

def greatestUnits : Nat := (2 ^ 53 - 1) * 2 ^ (topExponent - 52)

def upperMiddle : Nat := (2 ^ 54 - 3) * 2 ^ 970

def significandBound : Nat := 2 ^ 64

def easyPower : Nat := 288

/-- How the limits of the format lie to one another and to the powers of ten. -/
structure Limits : Prop where
  unit : perOne = 2 ^ unitExponent
  top : Nat.pow 2 1024 * perOne = 2 ^ (topExponent + 1)
  middle : 2 * ((2 ^ 53 - 2) * 2 ^ (topExponent - 52)) + 2 ^ (topExponent - 52) =
    upperMiddle * (2 * perOne)
  least : perOne ≤ Nat.pow 10 324
  easy : significandBound * Nat.pow 10 easyPower ≤ upperMiddle
  far : upperMiddle < Nat.pow 10 (easyPower + 21)
  quotient : fits (2 * unitsOfNat significandBound + 1) = true

theorem limits : Limits := by
  constructor <;> decide +kernel

theorem perOne_pos : 0 < perOne := by
  rw [limits.unit]
  exact Nat.two_pow_pos unitExponent

theorem fits_iff (units : Nat) : fits units = true ↔ units < 2 ^ (topExponent + 1) := by
  rw [fits, limits.top, decide_eq_true_eq]

theorem top_of_grid {units exponent : Nat} (large : 53 ≤ exponent) (onGrid : OnGrid units)
    (bound : units < 2 ^ (exponent + 1)) :
    units = (2 ^ 53 - 1) * 2 ^ (exponent - 52) ∨ units ≤ (2 ^ 53 - 2) * 2 ^ (exponent - 52) := by
  have power : 2 ^ exponent = 2 ^ 52 * 2 ^ (exponent - 52) := by
    rw [← Nat.pow_add]
    congr 1
    omega
  by_cases small : units < 2 ^ exponent
  · have coarse : 2 ^ 52 * 2 ^ (exponent - 52) ≤ (2 ^ 53 - 2) * 2 ^ (exponent - 52) :=
      Nat.mul_le_mul_right _ (by decide)
    omega
  · rw [OnGrid, gapAbove_between large (by omega) bound] at onGrid
    obtain ⟨significand, rfl⟩ := onGrid
    rw [Nat.pow_succ, power, Nat.mul_comm (2 ^ 52), Nat.mul_assoc] at bound
    have few := Nat.lt_of_mul_lt_mul_left bound
    rw [Nat.mul_comm]
    rcases Nat.lt_or_eq_of_le (show significand ≤ 2 ^ 53 - 1 by omega) with less | same
    · exact Or.inr (Nat.mul_le_mul_right _ (by omega))
    · exact Or.inl (by rw [same])

theorem greatest_or_below {units : Nat} (inFormat : InFormat units) :
    units = greatestUnits ∨ units ≤ (2 ^ 53 - 2) * 2 ^ (topExponent - 52) :=
  top_of_grid (by decide) inFormat.onGrid ((fits_iff units).mp inFormat.fits)

/-! Products -/

theorem mulUnits_mono_right {a b : Nat} (c : Nat) (le : a ≤ b) : mulUnits c a ≤ mulUnits c b :=
  roundUnits_mono perOne (Nat.mul_le_mul_left _ le)

theorem fits_of_le {units more : Nat} (le : units ≤ more) (fit : fits more = true) :
    fits units = true := by
  rw [fits_iff] at fit ⊢
  exact Nat.lt_of_le_of_lt le fit

theorem tenPower_mono {a b : Nat} (le : a ≤ b) : Nat.pow 10 a ≤ Nat.pow 10 b :=
  Nat.pow_le_pow_right (by decide) le

theorem greatest_products_fit : ∀ e ∈ List.range' easyPower 21,
    fits (mulUnits (unitsOfNat (min significandBound (upperMiddle / Nat.pow 10 e)))
      (unitsOfNat (Nat.pow 10 e))) = true := by
  decide +kernel

theorem product_fits {significand e : Nat} (small : significand < significandBound) (few : e ≤ 308)
    (within : significand * Nat.pow 10 e ≤ upperMiddle) :
    fits (mulUnits (unitsOfNat significand) (unitsOfNat (Nat.pow 10 e))) = true := by
  have bounded {more : Nat} (listed : more ∈ List.range' easyPower 21) (le : e ≤ more)
      (quotient : significand ≤ upperMiddle / Nat.pow 10 more) :
      fits (mulUnits (unitsOfNat significand) (unitsOfNat (Nat.pow 10 e))) = true :=
    have first := unitsOfNat_mono (Nat.le_min.mpr ⟨Nat.le_of_lt small, quotient⟩)
    have second := unitsOfNat_mono (tenPower_mono le)
    fits_of_le (Nat.le_trans (mulUnits_mono _ first) (mulUnits_mono_right _ second))
      (greatest_products_fit more listed)
  have quotient {n more : Nat} (le : n * Nat.pow 10 more ≤ upperMiddle) :
      n ≤ upperMiddle / Nat.pow 10 more :=
    (Nat.le_div_iff_mul_le (Nat.pow_pos (by decide))).mpr le
  rcases Nat.le_total e easyPower with easy | near
  · exact bounded (by decide) easy (Nat.le_trans (Nat.le_of_lt small) (quotient limits.easy))
  · have listed : e ∈ List.range' easyPower 21 := by
      rw [List.mem_range'_1]
      exact ⟨near, Nat.lt_of_le_of_lt few (by decide)⟩
    exact bounded listed (Nat.le_refl e) (quotient within)

/-! Scaling -/

theorem unitsOfNat_zero : unitsOfNat 0 = 0 := by
  rw [unitsOfNat, Nat.zero_mul]
  rfl

theorem scaleByTen_of_fits {units e : Nat} (few : e ≤ 308)
    (product : fits (mulUnits units (unitsOfNat (Nat.pow 10 e))) = true) :
    ∃ scaled, scaleByTen units e = some scaled := by
  unfold scaleByTen
  simp only [Int.natAbs_natCast, few, if_true, Int.natCast_nonneg, product]
  exact ⟨_, rfl⟩

theorem scaleByTen_within {significand e : Nat} (small : significand < significandBound)
    (within : significand * Nat.pow 10 e ≤ upperMiddle) :
    ∃ scaled, scaleByTen (unitsOfNat significand) e = some scaled := by
  by_cases few : e ≤ 308
  · exact scaleByTen_of_fits few (product_fits small few within)
  · rcases Nat.eq_zero_or_pos significand with none | present
    · subst none
      unfold scaleByTen
      simp only [Int.natAbs_natCast, few, if_false, unitsOfNat_zero, if_true]
      exact ⟨_, rfl⟩
    · have power : Nat.pow 10 (easyPower + 21) ≤ significand * Nat.pow 10 e :=
        Nat.le_trans (tenPower_mono (Nat.lt_of_not_le few)) (Nat.le_mul_of_pos_left _ present)
      exact absurd (Nat.le_trans power within) (Nat.not_le_of_lt limits.far)

theorem scaleByTen_down {units : Nat} {exponent : Int} (down : exponent < 0) :
    ∃ scaled, scaleByTen units exponent = some scaled := by
  fun_induction scaleByTen units exponent with
  | case1 => omega
  | case2 => omega
  | case3 => exact ⟨_, rfl⟩
  | case4 => exact ⟨_, rfl⟩
  | case5 => omega
  | case6 units exponent far present down' ih => exact ih (by omega)

theorem divUnits_le {a b k : Nat} (positive : 0 < k) (great : k * perOne ≤ b) :
    divUnits a b ≤ 2 * (a / k) + 1 := by
  have quotients : a * perOne / b ≤ a / k := by
    rw [← Nat.mul_div_mul_right a k perOne_pos]
    exact Nat.div_le_div_left great (Nat.mul_pos positive perOne_pos)
  have rounded := roundUnits_le (a * perOne) b
  rw [divUnits]
  omega

theorem power_units {k n : Nat} (le : 2 ^ k ≤ n) : 2 ^ k * perOne ≤ unitsOfNat n := by
  have scaled : 2 ^ k * perOne ≤ n * perOne / 1 := by
    rw [Nat.div_one]
    exact Nat.mul_le_mul_right _ le
  have power : 2 ^ k * perOne = 2 ^ (k + unitExponent) := by rw [limits.unit, ← Nat.pow_add]
  rw [power] at scaled ⊢
  exact le_roundUnits (Nat.le_trans (by decide) (Nat.le_add_left unitExponent k)) scaled

theorem divUnits_far {units e : Nat} (present : units ≠ 0) (some : 1 ≤ e) :
    divUnits units (unitsOfNat (Nat.pow 10 e)) ≤ units := by
  have less : 2 * (units / 2 ^ 2) + 1 ≤ units := by omega
  have four : 2 ^ 2 ≤ Nat.pow 10 e := Nat.le_trans (by decide) (tenPower_mono some)
  exact Nat.le_trans (divUnits_le (by decide) (power_units four)) less

theorem zero_inFormat : InFormat 0 := ⟨Nat.dvd_zero _, (fits_iff 0).mpr (Nat.two_pow_pos _)⟩

theorem scaled_down_inFormat {units scaled : Nat} {exponent : Int} (down : exponent < 0)
    (bounded : units ≤ unitsOfNat significandBound) (known : scaleByTen units exponent = some scaled) :
    InFormat scaled := by
  fun_induction scaleByTen units exponent with
  | case1 => omega
  | case2 => omega
  | case3 units exponent near power =>
    cases known
    have least : 2 ^ 0 * perOne ≤ unitsOfNat (Nat.pow 10 exponent.natAbs) :=
      power_units (Nat.pow_pos (by decide))
    refine ⟨roundUnits_onGrid _ _, fits_of_le (divUnits_le (by decide) least) ?_⟩
    exact fits_of_le (by omega) limits.quotient
  | case4 =>
    cases known
    exact zero_inFormat
  | case5 => cases known
  | case6 units exponent far present down' ih =>
    exact ih (by omega) (Nat.le_trans (divUnits_far present (by decide)) bounded) known

theorem scaleByTen_inFormat {significand scaled : Nat} {exponent : Int}
    (small : significand < significandBound)
    (known : scaleByTen (unitsOfNat significand) exponent = some scaled) : InFormat scaled := by
  rcases Int.lt_or_le exponent 0 with down | up
  · exact scaled_down_inFormat down (unitsOfNat_mono (Nat.le_of_lt small)) known
  · unfold scaleByTen at known
    by_cases near : exponent.natAbs ≤ 308
    · simp only [near, if_true, up] at known
      split at known
      · rename_i fit
        cases known
        exact ⟨roundUnits_onGrid _ _, fit⟩
      · cases known
    · simp only [near, if_false, up, if_true] at known
      split at known
      · cases known
        exact zero_inFormat
      · cases known

end SessionGate.Decimal
