import SessionGate.Json.Reader

/- Readers for one shape of value each. They name what they found when it is of another shape, and
   of two problems they report the one that comes first in the text. -/
namespace SessionGate.Json

open Text (Symbol)

def refuse {α : Type} (expected : Shape) (text : Input) : Except Error α :=
  match skipSpaces text with
  | .char '[' :: _ => .error (.mismatch .sequence expected)
  | .char '{' :: _ => .error (.mismatch .map expected)
  | text => do
    let (value, _) ← readScalar text
    .error (.mismatch value.found expected)

def readText (text : Input) : Except Error (String × Input) :=
  match skipSpaces text with
  | .char '"' :: rest => readString rest
  | text => refuse .text text

def readSigned (text : Input) : Except Error (Int × Input) :=
  match skipSpaces text with
  | .char '[' :: rest => refuse .signed (.char '[' :: rest)
  | .char '{' :: rest => refuse .signed (.char '{' :: rest)
  | text => do
    match ← readScalar text with
    | (.number (.integer n), rest) =>
      if n.val < signedBound then return (n.val, rest) else .error (.beyond n)
    | (value, _) => .error (.mismatch value.found .signed)

def readOptional {α : Type} (reader : Input → Except Error (α × Input)) (text : Input) :
    Except Error (Option α × Input) :=
  match skipSpaces text with
  | .char 'n' :: rest => do
    let rest ← readWord ['u', 'l', 'l'] rest
    return (none, rest)
  | text => do
    let (a, rest) ← reader text
    return (some a, rest)

def readTexts (fuel : Nat) (text : Input) : Except Error (List String × Input) :=
  match skipSpaces text with
  | .char '[' :: rest => readItems readText fuel true rest
  | text => refuse .sequence text

def readObject {σ : Type} (expected : Shape) (member : σ → String → Input → Except Error (σ × Input))
    (start : σ) (fuel : Nat) (text : Input) : Except Error (σ × Input) :=
  match skipSpaces text with
  | .char '{' :: rest => readMembers member fuel true start rest
  | text => refuse expected text

def readListEnd (text : Input) : Except Error Input :=
  match skipSpaces text with
  | [] => fail .endInList
  | .char ']' :: rest => .ok rest
  | .char ',' :: rest =>
    match skipSpaces rest with
    | .char ']' :: _ => fail .trailingComma
    | _ => fail .trailingCharacters
  | _ => fail .trailingCharacters

/-- Whether a field is still free for its member; a second one is refused at its name. -/
def once {α : Type} (field : Option α) (name : String) : Except Error Unit :=
  if field.isSome then .error (.duplicate name) else .ok ()

def readMap (text : Input) : Except Error Members :=
  readEntire (fun fuel => readObject .map (fun members name text => do
    let text ← readColon text
    let (value, rest) ← readValue fuel (maxLevels - 1) text
    return (Members.insert members name value, rest)) [] fuel) text

end SessionGate.Json
