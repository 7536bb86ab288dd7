import SessionGate.Text.Percent

/- Form bodies: names and values joined by equals signs, the pairs by ampersands. What is not a
   plain character is written as the hexadecimal digits of its bytes. -/
namespace SessionGate.Text.Form

/-- Letters, digits and the four marks that stand for themselves. -/
def isPlain (n : Nat) : Bool :=
  (48 ≤ n && n ≤ 57) || (65 ≤ n && n ≤ 90) || (97 ≤ n && n ≤ 122) ||
    n = 42 || n = 45 || n = 46 || n = 95

def encodeByte (b : UInt8) : List Char :=
  let n := b.toNat
  if n = 0x20 then ['+']
  else if isPlain n then [Char.ofNat n]
  else Percent.encodeByte b

def encodePart (s : String) : List Char :=
  (encode s).flatMap encodeByte

def encodePair (pair : String × String) : List Char :=
  encodePart pair.1 ++ '=' :: encodePart pair.2

def encodePairs : List (String × String) → List Char
  | [] => []
  | [pair] => encodePair pair
  | pair :: rest => encodePair pair ++ '&' :: encodePairs rest

def splitOn (separator : Char) : List Char → List (List Char)
  | [] => [[]]
  | c :: rest =>
    if c = separator then [] :: splitOn separator rest
    else match splitOn separator rest with
      | [] => [[c]]
      | piece :: more => (c :: piece) :: more

def splitFirst (separator : Char) : List Char → Option (List Char × List Char)
  | [] => none
  | c :: rest =>
    if c = separator then some ([], rest)
    else (splitFirst separator rest).map fun halves => (c :: halves.1, halves.2)

def decodeBytes : List Char → Option Bytes
  | [] => some []
  | '%' :: high :: low :: rest =>
    match Percent.digitValue? high, Percent.digitValue? low, decodeBytes rest with
    | some h, some l, some bytes => some (byte (h * 16 + l) :: bytes)
    | _, _, _ => none
  | c :: rest =>
    if c = '%' then none
    else (decodeBytes rest).map fun bytes => encodeChar (if c = '+' then ' ' else c) ++ bytes

def decodePart (cs : List Char) : Option String :=
  (decodeBytes cs).bind decode?

def decodePair (cs : List Char) : Option (String × String) :=
  match splitFirst '=' cs with
  | none => none
  | some (name, value) =>
    match decodePart name, decodePart value with
    | some name, some value => some (name, value)
    | _, _ => none

def decodePairs (cs : List Char) : Option (List (String × String)) :=
  (splitOn '&' cs).mapM decodePair

end SessionGate.Text.Form
