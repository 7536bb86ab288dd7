import SessionGate.Decimal.Binary64

/- The shortest decimal that reads back as a given double, and its text. -/
namespace SessionGate.Decimal

structure Scaled where
  digits : Nat
  exponent : Int
  deriving DecidableEq, Repr

def gapAbove (units : Nat) : Nat :=
  if units < Nat.pow 2 53 then 1 else Nat.pow 2 (units.log2 - 52)

def gapBelow (units : Nat) : Nat :=
  if Nat.pow 2 53 < units ∧ units = Nat.pow 2 units.log2 then gapAbove units / 2 else gapAbove units

def Scaled.align (d : Scaled) (halfUnits : Nat) : Nat × Nat :=
  if 0 ≤ d.exponent then (d.digits * Nat.pow 10 d.exponent.natAbs * (2 * perOne), halfUnits)
  else (d.digits * (2 * perOne), halfUnits * Nat.pow 10 d.exponent.natAbs)

/-- Whether the decimal rounds to the magnitude; the ends of its interval do when its last bit
is even. -/
def Scaled.readsBack (d : Scaled) (units : Nat) : Bool :=
  let (low, least) := d.align (2 * units - gapBelow units)
  let (high, greatest) := d.align (2 * units + gapAbove units)
  if units / gapAbove units % 2 = 0 then least ≤ low && high ≤ greatest
  else least < low && high < greatest

def Scaled.distance (d : Scaled) (units : Nat) : Nat :=
  let (value, target) := d.align (2 * units)
  (value - target) + (target - value)

def leadingExponent (units : Nat) : Int :=
  if perOne ≤ units then ((Nat.toDigits 10 (units / perOne)).length - 1 : Nat)
  else -(((List.range 325).find? fun k => perOne ≤ units * Nat.pow 10 k).getD 0 : Nat)

def below (units : Nat) (exponent : Int) : Scaled :=
  if 0 ≤ exponent then ⟨units / (perOne * Nat.pow 10 exponent.natAbs), exponent⟩
  else ⟨units * Nat.pow 10 exponent.natAbs / perOne, exponent⟩

def onGrid? (units : Nat) (exponent : Int) : Option Scaled :=
  let low := below units exponent
  let high : Scaled := ⟨low.digits + 1, exponent⟩
  match low.readsBack units, high.readsBack units with
  | false, false => none
  | true, false => some low
  | false, true => some high
  | true, true =>
    if low.distance units < high.distance units then some low
    else if high.distance units < low.distance units then some high
    else some (if low.digits % 2 = 0 then low else high)

def Scaled.strip : Nat → Scaled → Scaled
  | 0, d => d
  | fuel + 1, d =>
    if d.digits % 10 = 0 then strip fuel ⟨d.digits / 10, d.exponent + 1⟩ else d

def shortest (units : Nat) : Scaled :=
  let leading := leadingExponent units
  let grids := (List.range 17).map fun (n : Nat) => leading - n
  ((grids.findSome? (onGrid? units)).getD (below units (leading - 16))).strip 17

/-- Positional from 10^-5 up to below 10^16, else with an exponent that always has its sign or a
plus; a positional text has at least one decimal. -/
def Scaled.text (d : Scaled) : String :=
  let digits := Nat.toDigits 10 d.digits
  let point := digits.length + d.exponent
  let chars :=
    if -5 < point ∧ point ≤ 16 then
      if 0 ≤ d.exponent then digits ++ List.replicate d.exponent.natAbs '0' ++ ['.', '0']
      else if 0 < point then digits.take point.natAbs ++ '.' :: digits.drop point.natAbs
      else '0' :: '.' :: List.replicate point.natAbs '0' ++ digits
    else
      let exponent := point - 1
      let sign := if 0 ≤ exponent then ['e', '+'] else ['e', '-']
      let mantissa := match digits with
        | first :: [] => [first]
        | first :: rest => first :: '.' :: rest
        | [] => []
      mantissa ++ sign ++ Nat.toDigits 10 exponent.natAbs
  String.ofList chars

def Binary64.text (x : Binary64) : String :=
  let magnitude := if x.units = 0 then "0.0" else (shortest x.units).text
  if x.negative then "-" ++ magnitude else magnitude

end SessionGate.Decimal
