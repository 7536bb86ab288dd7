import SessionGate.Text.Form

/- Addresses of eight pieces of sixteen bits, written in hexadecimal notation with colons between. Two
   colons stand for a run of zeros, and the last two pieces may be written as four bytes. -/
namespace SessionGate.Address.Ipv6

def readPiece? (cs : List Char) : Option Nat :=
  if cs = [] ∨ 4 < cs.length then none
  else cs.foldlM (fun n c => (Text.Percent.digitValue? c).map (n * 16 + ·)) 0

def readByte? (cs : List Char) : Option Nat :=
  if cs = [] ∨ (cs.head? = some '0' ∧ cs ≠ ['0']) ∨ !cs.all Char.isDigit ∨ 3 < cs.length then none
  else
    let n := cs.foldl (fun n c => n * 10 + (c.toNat - 48)) 0
    if n < 256 then some n else none

def readBytes? (cs : List Char) : Option (List Nat) :=
  match (Text.Form.splitOn '.' cs).mapM readByte? with
  | some [a, b, c, d] => some [a * 256 + b, c * 256 + d]
  | _ => none

/-- Pieces with colons between; only the last may be written as bytes. -/
def readPieces? : List (List Char) → Option (List Nat)
  | [] => some []
  | [last] => if last.contains '.' then readBytes? last else (readPiece? last).map ([·])
  | piece :: rest =>
    match readPiece? piece, readPieces? rest with
    | some n, some more => some (n :: more)
    | _, _ => none

def readSide? (cs : List Char) : Option (List Nat) :=
  if cs = [] then some [] else readPieces? (Text.Form.splitOn ':' cs)

def splitGap : List Char → Option (List Char × List Char)
  | [] => none
  | ':' :: ':' :: rest => some ([], rest)
  | c :: rest => (splitGap rest).map fun sides => (c :: sides.1, sides.2)

def count : Nat := 8

def read? (cs : List Char) : Option (List Nat) :=
  match splitGap cs with
  | none => (readSide? cs).bind fun pieces => if pieces.length = count then some pieces else none
  | some (left, right) =>
    match readSide? left, readSide? right with
    | some before, some after =>
      if before.length + after.length < count ∧ !left.contains '.' then
        some (before ++ List.replicate (count - before.length - after.length) 0 ++ after)
      else none
    | _, _ => none

def zeros (pieces : List Nat) : Nat := (pieces.takeWhile (· = 0)).length

/-- Where the longest run of zeros begins, and how many there are; the first of equal ones. -/
def longestGap (start : Nat) : List Nat → Nat × Nat
  | [] => (start, 0)
  | n :: rest =>
    let here := zeros (n :: rest)
    let later := longestGap (start + 1) rest
    if later.2 ≤ here then (start, here) else later

def pieceText (n : Nat) : String := String.ofList (Nat.toDigits 16 n)

def piecesText (pieces : List Nat) : String := ":".intercalate (pieces.map pieceText)

def text (pieces : List Nat) : String :=
  let (start, length) := longestGap 0 pieces
  if length < 2 then piecesText pieces
  else piecesText (pieces.take start) ++ "::" ++ piecesText (pieces.drop (start + length))

end SessionGate.Address.Ipv6
