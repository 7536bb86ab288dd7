/- Text of any script in letters, digits and hyphens: the plain characters first, then the others as
   distances, in the order of their code points, in a notation whose digits adapt to their size. -/
namespace SessionGate.Text.Punycode

def isPlain (c : Char) : Bool := c.toNat < 0x80

def digit (n : Nat) : Char :=
  if n < 26 then Char.ofNat (97 + n) else Char.ofNat (22 + n)

def digitValue? (c : Char) : Option Nat :=
  let n := c.toNat
  if 97 ≤ n ∧ n ≤ 122 then some (n - 97)
  else if 48 ≤ n ∧ n ≤ 57 then some (n - 22)
  else none

def radix : Nat := 36

def threshold (place bias : Nat) : Nat :=
  if place ≤ bias + 1 then 1 else if bias + 26 ≤ place then 26 else place - bias

theorem threshold_pos (place bias : Nat) : 0 < threshold place bias := by
  unfold threshold
  split
  · omega
  · split <;> omega

def shrink (distance place : Nat) : Nat × Nat :=
  if 455 < distance then shrink (distance / 35) (place + radix) else (distance, place)
termination_by distance
decreasing_by omega

/-- The bias after a distance, of which the first is far greater than the others. -/
def adapt (distance count : Nat) (isFirst : Bool) : Nat :=
  let halved := if isFirst then distance / 700 else distance / 2
  let (rest, place) := shrink (halved + halved / count) 0
  place + radix * rest / (rest + 38)

def encodeNumber (bias place n : Nat) : List Char :=
  let t := threshold place bias
  if n < t then [digit n]
  else digit (t + (n - t) % (radix - t)) :: encodeNumber bias (place + radix) ((n - t) / (radix - t))
termination_by n
decreasing_by
  have positive := threshold_pos place bias
  exact Nat.lt_of_le_of_lt (Nat.div_le_self _ _) (by omega)

structure Writing where
  output : List Char
  distance : Nat
  bias : Nat
  placed : Nat

def startBias : Nat := 72

def Writing.pass (plain point : Nat) (state : Writing) (c : Char) : Writing :=
  if c.toNat < point then { state with distance := state.distance + 1 }
  else if c.toNat = point then
    { output := state.output ++ encodeNumber state.bias radix state.distance
      distance := 0
      bias := adapt state.distance (state.placed + 1) (state.placed = plain)
      placed := state.placed + 1 }
  else state

def Writing.place (cs : List Char) (plain next : Nat) (state : Writing) : List Nat → Writing
  | [] => state
  | point :: rest =>
    let state := { state with distance := state.distance + (point - next) * (state.placed + 1) }
    let state := cs.foldl (Writing.pass plain point) state
    Writing.place cs plain (point + 1) { state with distance := state.distance + 1 } rest

def encode (cs : List Char) : List Char :=
  let plain := cs.filter isPlain
  let points := ((cs.filter fun c => !isPlain c).map Char.toNat).mergeSort.eraseDups
  let written := Writing.place cs plain.length 0x80 ⟨[], 0, startBias, plain.length⟩ points
  plain ++ (if plain = [] then [] else ['-']) ++ written.output

/-- What is read: the characters, the code point and the place of the last one, and of the number
that is being read its value so far, the weight of the next digit and its place. -/
structure Reading where
  output : List Char
  point : Nat
  index : Nat
  bias : Nat
  value : Nat
  weight : Nat
  place : Nat

def Reading.put (state : Reading) : Option Reading :=
  let count := state.output.length + 1
  let total := state.index + state.value
  let point := state.point + total / count
  if point < 0xD800 ∨ 0xDFFF < point ∧ point < 0x110000 then
    some
      { output := state.output.take (total % count) ++
          Char.ofNat point :: state.output.drop (total % count)
        point := point
        index := total % count + 1
        bias := adapt state.value count (state.index = 0)
        value := 0
        weight := 1
        place := radix }
  else none

def Reading.step (state : Reading) (c : Char) : Option Reading :=
  match digitValue? c with
  | none => none
  | some d =>
    let t := threshold state.place state.bias
    let state := { state with value := state.value + d * state.weight }
    if d < t then state.put
    else some { state with weight := state.weight * (radix - t), place := state.place + radix }

/-- The plain characters before the last hyphen and the text after it; a hyphen in front is none. -/
def splitPlain (cs : List Char) : List Char × List Char :=
  match cs.reverse.dropWhile (· ≠ '-') with
  | [] => ([], cs)
  | [_] => ([], cs)
  | _ :: plain => (plain.reverse, (cs.reverse.takeWhile (· ≠ '-')).reverse)

def decode (cs : List Char) : Option (List Char) :=
  let (plain, text) := splitPlain cs
  match text.foldlM Reading.step ⟨plain, 0x80, 0, startBias, 0, 1, radix⟩ with
  | some state => if state.place = radix then some state.output else none
  | none => none

end SessionGate.Text.Punycode
