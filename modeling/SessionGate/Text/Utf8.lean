/- UTF-8 text as characters. A byte text is read one byte at a time: bytes that can belong to no
   character stay in the text as strays, so that reading loses nothing. -/
namespace SessionGate.Text

abbrev Bytes := List UInt8

inductive Symbol where
  | char (c : Char)
  | stray (bytes : Bytes)
  deriving DecidableEq, Repr

def byte (n : Nat) : UInt8 := UInt8.ofNat n

/-- The bytes of a character: one below U+0080, two below U+0800, three below U+10000, else four. -/
def encodeChar (c : Char) : Bytes :=
  let n := c.toNat
  if n < 0x80 then [byte n]
  else if n < 0x800 then [byte (0xC0 + n / 0x40), byte (0x80 + n % 0x40)]
  else if n < 0x10000 then
    [byte (0xE0 + n / 0x1000), byte (0x80 + n / 0x40 % 0x40), byte (0x80 + n % 0x40)]
  else
    [byte (0xF0 + n / 0x40000), byte (0x80 + n / 0x1000 % 0x40), byte (0x80 + n / 0x40 % 0x40),
      byte (0x80 + n % 0x40)]

def encodeChars (cs : List Char) : Bytes :=
  cs.flatMap encodeChar

def encode (s : String) : Bytes :=
  encodeChars s.toList

/-- A character of which some bytes are read: the bytes, the bits they carry, how many bytes are
owed, and the least and greatest byte that may come next. -/
structure Begun where
  seen : Bytes
  bits : Nat
  owed : Nat
  least : Nat
  greatest : Nat

def begin? (b : UInt8) : Option (Char ⊕ Begun) :=
  let n := b.toNat
  if n < 0x80 then some (.inl (Char.ofNat n))
  else if n < 0xC2 then none
  else if n < 0xE0 then some (.inr ⟨[b], n - 0xC0, 1, 0x80, 0xBF⟩)
  else if n = 0xE0 then some (.inr ⟨[b], 0, 2, 0xA0, 0xBF⟩)
  else if n = 0xED then some (.inr ⟨[b], 0xD, 2, 0x80, 0x9F⟩)
  else if n < 0xF0 then some (.inr ⟨[b], n - 0xE0, 2, 0x80, 0xBF⟩)
  else if n = 0xF0 then some (.inr ⟨[b], 0, 3, 0x90, 0xBF⟩)
  else if n < 0xF4 then some (.inr ⟨[b], n - 0xF0, 3, 0x80, 0xBF⟩)
  else if n = 0xF4 then some (.inr ⟨[b], 4, 3, 0x80, 0x8F⟩)
  else none

def Begun.accepts (begun : Begun) (b : UInt8) : Bool :=
  begun.least ≤ b.toNat && b.toNat ≤ begun.greatest

def Begun.push (begun : Begun) (b : UInt8) : Char ⊕ Begun :=
  let bits := begun.bits * 0x40 + (b.toNat - 0x80)
  if begun.owed ≤ 1 then .inl (Char.ofNat bits)
  else .inr ⟨begun.seen ++ [b], bits, begun.owed - 1, 0x80, 0xBF⟩

def startByte (b : UInt8) : List Symbol × Option Begun :=
  match begin? b with
  | none => ([.stray [b]], none)
  | some (.inl c) => ([.char c], none)
  | some (.inr begun) => ([], some begun)

/-- The same where a character may be open. A byte that cannot continue it ends it as a stray and
is then read on its own. -/
def stepByte (open? : Option Begun) (b : UInt8) : List Symbol × Option Begun :=
  match open? with
  | none => startByte b
  | some begun =>
    if begun.accepts b then
      match begun.push b with
      | .inl c => ([.char c], none)
      | .inr more => ([], some more)
    else
      let (symbols, next) := startByte b
      (.stray begun.seen :: symbols, next)

def decodeFrom : Option Begun → Bytes → List Symbol
  | none, [] => []
  | some begun, [] => [.stray begun.seen]
  | open?, b :: rest =>
    let (symbols, next) := stepByte open? b
    symbols ++ decodeFrom next rest

def decode (bytes : Bytes) : List Symbol :=
  decodeFrom none bytes

def Symbol.bytes : Symbol → Bytes
  | .char c => encodeChar c
  | .stray bytes => bytes

def Symbol.width (symbol : Symbol) : Nat :=
  symbol.bytes.length

def Symbol.shown : Symbol → Char
  | .char c => c
  | .stray _ => '\uFFFD'

def decodeLossy (bytes : Bytes) : String :=
  String.ofList ((decode bytes).map Symbol.shown)

def chars? : List Symbol → Option (List Char)
  | [] => some []
  | .char c :: rest => (chars? rest).map (c :: ·)
  | .stray _ :: _ => none

def decode? (bytes : Bytes) : Option String :=
  (chars? (decode bytes)).map String.ofList

def symbols (s : String) : List Symbol :=
  s.toList.map .char

end SessionGate.Text
