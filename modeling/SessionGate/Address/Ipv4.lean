import SessionGate.Text.Form

/- Addresses of four bytes, written as up to four numbers in decimal, octal or hexadecimal notation,
   of which the last fills all bytes that are left. -/
namespace SessionGate.Address.Ipv4

def readDigits? (radix : Nat) (cs : List Char) : Option Nat :=
  cs.foldlM (fun n c =>
    match Text.Percent.digitValue? c with
    | some d => if d < radix then some (n * radix + d) else none
    | none => none) 0

def readNumber? : List Char → Option Nat
  | [] => none
  | '0' :: 'x' :: digits => readDigits? 16 digits
  | '0' :: 'X' :: digits => readDigits? 16 digits
  | '0' :: c :: digits => readDigits? 8 (c :: digits)
  | digits => readDigits? 10 digits

def parts (cs : List Char) : List (List Char) :=
  match (Text.Form.splitOn '.' cs).reverse with
  | [] :: last :: before => (last :: before).reverse
  | pieces => pieces.reverse

/-- Whether a name is meant as an address: its last part is a number or made of digits. -/
def isMeant (cs : List Char) : Bool :=
  match (parts cs).getLast? with
  | none => false
  | some last => (last ≠ [] && last.all Char.isDigit) || (readNumber? last).isSome

def combine? : List Nat → Nat → Option Nat
  | [], _ => none
  | [last], room => if last < room then some last else none
  | n :: rest, room =>
    if n < 256 then (combine? rest (room / 256)).map (n * (room / 256) + ·) else none

def room : Nat := 0x100000000

def read? (cs : List Char) : Option Nat :=
  let parts := parts cs
  if 4 < parts.length then none
  else (parts.mapM readNumber?).bind fun numbers => combine? numbers room

def text (n : Nat) : String :=
  ".".intercalate ([n / 0x1000000, n / 0x10000 % 256, n / 0x100 % 256, n % 256].map toString)

end SessionGate.Address.Ipv4
