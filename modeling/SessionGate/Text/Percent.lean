import SessionGate.Text.Utf8

/- Percent encoding: a character that may not stand for itself is written byte by byte, each as a
   percent sign and two hexadecimal digits. -/
namespace SessionGate.Text.Percent

def upperDigit (n : Nat) : Char :=
  if n < 10 then Char.ofNat (48 + n) else Char.ofNat (55 + n)

def digitValue? (c : Char) : Option Nat :=
  let n := c.toNat
  if 48 ≤ n ∧ n ≤ 57 then some (n - 48)
  else if 65 ≤ n ∧ n ≤ 70 then some (n - 55)
  else if 97 ≤ n ∧ n ≤ 102 then some (n - 87)
  else none

def encodeByte (b : UInt8) : List Char :=
  ['%', upperDigit (b.toNat / 16), upperDigit (b.toNat % 16)]

def encodeChar (isKept : Char → Bool) (c : Char) : List Char :=
  if isKept c then [c] else (Text.encodeChar c).flatMap encodeByte

def encode (isKept : Char → Bool) (cs : List Char) : List Char :=
  cs.flatMap (encodeChar isKept)

/-- The bytes that a text stands for. A percent sign without two digits stands for itself. -/
def decode : List Char → Bytes
  | '%' :: high :: low :: rest =>
    match digitValue? high, digitValue? low with
    | some h, some l => byte (h * 16 + l) :: decode rest
    | _, _ => byte 0x25 :: decode (high :: low :: rest)
  | c :: rest => Text.encodeChar c ++ decode rest
  | [] => []
termination_by cs => cs.length

end SessionGate.Text.Percent
