import SessionGate.Json.Error
import SessionGate.Text.Utf8

/- The words, strings and numbers of a JSON text. A reader takes the text from where it stands and
   answers what it read together with the rest. -/
namespace SessionGate.Json

open Text (Symbol)
open Decimal

abbrev Input := List Symbol

def fail {α : Type} (fault : Fault) : Except Error α :=
  .error (.malformed fault)

def isSpace (c : Char) : Bool :=
  c = ' ' || c = '\t' || c = '\n' || c = '\r'

def skipSpaces : Input → Input
  | .char c :: rest => if isSpace c then skipSpaces rest else .char c :: rest
  | text => text

def readWord : List Char → Input → Except Error Input
  | [], text => .ok text
  | _ :: _, [] => fail .endInValue
  | c :: word, symbol :: rest => if symbol = .char c then readWord word rest else fail .expectedWord

/-! Strings -/

def hexValue? (c : Char) : Option Nat :=
  if '0' ≤ c ∧ c ≤ '9' then some (c.toNat - 48)
  else if 'a' ≤ c ∧ c ≤ 'f' then some (c.toNat - 87)
  else if 'A' ≤ c ∧ c ≤ 'F' then some (c.toNat - 55)
  else none

def Symbol.hexValue? : Symbol → Option Nat
  | .char c => Json.hexValue? c
  | .stray _ => none

/-- Four hexadecimal digits; four bytes have to be left before the digits are looked at. -/
def readHex : Input → Except Error (Nat × Input)
  | a :: b :: c :: d :: rest =>
    match Symbol.hexValue? a, Symbol.hexValue? b, Symbol.hexValue? c, Symbol.hexValue? d with
    | some a, some b, some c, some d => .ok (((a * 16 + b) * 16 + c) * 16 + d, rest)
    | _, _, _, _ => fail .badEscape
  | short => if short.foldl (fun n symbol => n + symbol.width) 0 < 4 then fail .endInString else fail .badEscape

def isLeading (n : Nat) : Bool := 0xD800 ≤ n && n ≤ 0xDBFF

def isTrailing (n : Nat) : Bool := 0xDC00 ≤ n && n ≤ 0xDFFF

def readTrailing (leading : Nat) : Input → Except Error (Char × Input)
  | [] => fail .endInString
  | .char '\\' :: [] => fail .endInString
  | .char '\\' :: .char 'u' :: rest => do
    let (n, rest) ← readHex rest
    if isTrailing n then
      return (Char.ofNat (0x10000 + (leading - 0xD800) * 0x400 + (n - 0xDC00)), rest)
    else fail .loneSurrogate
  | _ => fail .missingSurrogate

def readUnicode (text : Input) : Except Error (Char × Input) := do
  let (n, rest) ← readHex text
  if isTrailing n then fail .loneSurrogate
  else if isLeading n then readTrailing n rest
  else return (Char.ofNat n, rest)

def shortEscape? : Char → Option Char
  | '"' => some '"'
  | '\\' => some '\\'
  | '/' => some '/'
  | 'b' => some '\x08'
  | 'f' => some '\x0c'
  | 'n' => some '\n'
  | 'r' => some '\r'
  | 't' => some '\t'
  | _ => none

def readEscape : Input → Except Error (Char × Input)
  | [] => fail .endInString
  | .stray _ :: _ => fail .badEscape
  | .char c :: rest =>
    if c = 'u' then readUnicode rest
    else match shortEscape? c with
      | some escaped => .ok (escaped, rest)
      | none => fail .badEscape

/-- The symbols up to the closing quote, escapes replaced. The measure is any list no shorter than
the text, as the text itself is. -/
def readSymbols {μ : Type} : List μ → Input → Except Error (List Symbol × Input)
  | [], _ => fail .endInString
  | _, [] => fail .endInString
  | _ :: measure, .stray bytes :: rest => do
    let (more, rest) ← readSymbols measure rest
    return (.stray bytes :: more, rest)
  | _ :: measure, .char c :: rest =>
    if c = '"' then .ok ([], rest)
    else if c = '\\' then do
      let (escaped, rest) ← readEscape rest
      let (more, rest) ← readSymbols measure rest
      return (.char escaped :: more, rest)
    else if c.toNat < 0x20 then fail .controlCharacter
    else do
      let (more, rest) ← readSymbols measure rest
      return (.char c :: more, rest)

def readString (text : Input) : Except Error (String × Input) := do
  let (symbols, rest) ← readSymbols text text
  match Text.chars? symbols with
  | some cs => return (String.ofList cs, rest)
  | none => fail .badCharacter

/-! Numbers -/

def digit? : Symbol → Option Nat
  | .char c => if '0' ≤ c ∧ c ≤ '9' then some (c.toNat - 48) else none
  | .stray _ => none

def readDigits : Input → List Nat × Input
  | [] => ([], [])
  | symbol :: rest =>
    match digit? symbol with
    | some d => let (ds, rest) := readDigits rest; (d :: ds, rest)
    | none => ([], symbol :: rest)

def readSomeDigits (text : Input) : Except Error (List Nat × Input) :=
  match readDigits text with
  | ([], []) => fail .endInValue
  | ([], _ :: _) => fail .badNumber
  | (ds, rest) => .ok (ds, rest)

structure Literal where
  negative : Bool
  whole : List Nat
  fraction : List Nat
  exponent : Option Int
  deriving DecidableEq

def natOfDigits (ds : List Nat) : Nat :=
  ds.foldl (fun n d => n * 10 + d) 0

def readWhole (text : Input) : Except Error (List Nat × Input) := do
  let (ds, rest) ← readSomeDigits text
  match ds with
  | 0 :: _ :: _ => fail .badNumber
  | _ => return (ds, rest)

def readFraction : Input → Except Error (List Nat × Input)
  | .char '.' :: rest => readSomeDigits rest
  | text => .ok ([], text)

def readExponent : Input → Except Error (Option Int × Input)
  | .char c :: rest =>
    if c = 'e' ∨ c = 'E' then
      match rest with
      | .char '-' :: rest => do
        let (ds, rest) ← readSomeDigits rest
        return (some (-(natOfDigits ds : Int)), rest)
      | .char '+' :: rest => do
        let (ds, rest) ← readSomeDigits rest
        return (some (natOfDigits ds), rest)
      | rest => do
        let (ds, rest) ← readSomeDigits rest
        return (some (natOfDigits ds), rest)
    else .ok (none, .char c :: rest)
  | text => .ok (none, text)

def readLiteral (negative : Bool) (text : Input) : Except Error (Literal × Input) := do
  let (whole, rest) ← readWhole text
  let (fraction, rest) ← readFraction rest
  let (exponent, rest) ← readExponent rest
  return (⟨negative, whole, fraction, exponent⟩, rest)

/-- Takes digits into a significand while it fits 64 bits; answers also how many were taken. -/
def absorb (significand : Nat) : List Nat → Nat × Nat
  | [] => (significand, 0)
  | d :: ds =>
    if (significand * 10 + d : Nat) < unsignedBound then
      let (n, taken) := absorb (significand * 10 + d) ds
      (n, taken + 1)
    else (significand, 0)

def Literal.real? (l : Literal) : Option Binary64 :=
  let (high, wholeTaken) := absorb 0 l.whole
  let (significand, fractionTaken) := absorb high l.fraction
  let exponent := (l.whole.length - wholeTaken : Nat) - (fractionTaken : Int) + l.exponent.getD 0
  (scaleByTen (unitsOfNat significand) exponent).map fun units => ⟨l.negative, units⟩

/-- The integer that is written, if it is written as one and has 64 bits; minus zero is none. -/
def Literal.integer? (l : Literal) : Option Integer :=
  let n := natOfDigits l.whole
  if l.fraction = [] ∧ l.exponent = none ∧ ¬ (l.negative = true ∧ n = 0) then
    Integer.ofInt? (if l.negative then -n else n)
  else none

def Literal.number (l : Literal) : Except Error Number :=
  match l.integer? with
  | some n => .ok (.integer n)
  | none =>
    match l.real? with
    | some x => .ok (.real x)
    | none => fail .numberOutOfRange

def readNumber (negative : Bool) (text : Input) : Except Error (Number × Input) := do
  let (literal, rest) ← readLiteral negative text
  let n ← literal.number
  return (n, rest)

end SessionGate.Json
