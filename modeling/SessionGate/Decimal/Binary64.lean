/- Finite numbers of the double format, held exactly: a magnitude is a whole number of units of
   2^-1074, and every operation is the exact one followed by one rounding to 53 significant bits. -/
namespace SessionGate.Decimal

structure Binary64 where
  negative : Bool
  units : Nat
  deriving DecidableEq, Repr

def perOne : Nat := Nat.pow 2 1074

def roundDiv (num den : Nat) : Nat :=
  let quotient := num / den
  let rest := num % den
  if 2 * rest < den then quotient
  else if den < 2 * rest then quotient + 1
  else quotient + quotient % 2

def roundUnits (num den : Nat) : Nat :=
  let whole := num / den
  if whole < Nat.pow 2 53 then roundDiv num den
  else
    let spare := Nat.pow 2 (whole.log2 - 52)
    roundDiv num (den * spare) * spare

def unitsOfNat (n : Nat) : Nat :=
  roundUnits (n * perOne) 1

def mulUnits (a b : Nat) : Nat :=
  roundUnits (a * b) perOne

def divUnits (a b : Nat) : Nat :=
  roundUnits (a * perOne) b

def fits (units : Nat) : Bool :=
  units < Nat.pow 2 1024 * perOne

/-- The magnitude times a power of ten, by products and quotients with rounded powers up to
10^308. None stands for a magnitude that the format cannot hold. -/
def scaleByTen (units : Nat) (exponent : Int) : Option Nat :=
  if exponent.natAbs ≤ 308 then
    let power := unitsOfNat (Nat.pow 10 exponent.natAbs)
    if 0 ≤ exponent then
      let product := mulUnits units power
      if fits product then some product else none
    else some (divUnits units power)
  else if units = 0 then some 0
  else if 0 ≤ exponent then none
  else scaleByTen (divUnits units (unitsOfNat (Nat.pow 10 308))) (exponent + 308)
termination_by exponent.natAbs
decreasing_by omega

end SessionGate.Decimal
