import SessionGate.Json.Token

/- The strict reader: values, and whole documents, up to a number of nested levels. -/
namespace SessionGate.Json

open Text (Symbol)

def maxLevels : Nat := 127

inductive Next where
  | closed (rest : Input)
  | more (text : Input)

def nextItem (first : Bool) (text : Input) : Except Error Next :=
  match skipSpaces text with
  | [] => fail .endInList
  | .char ']' :: rest => .ok (.closed rest)
  | text =>
    if first then .ok (.more text)
    else match text with
      | .char ',' :: rest =>
        match skipSpaces rest with
        | [] => fail .endInValue
        | .char ']' :: _ => fail .trailingComma
        | rest => .ok (.more rest)
      | _ => fail .expectedCommaOrBracket

def nextName (first : Bool) (text : Input) : Except Error Next :=
  match skipSpaces text with
  | [] => fail .endInObject
  | .char '}' :: rest => .ok (.closed rest)
  | text =>
    if first then
      match text with
      | .char '"' :: rest => .ok (.more rest)
      | _ => fail .nameNotString
    else match text with
      | .char ',' :: rest =>
        match skipSpaces rest with
        | [] => fail .endInValue
        | .char '"' :: rest => .ok (.more rest)
        | .char '}' :: _ => fail .trailingComma
        | _ => fail .nameNotString
      | _ => fail .expectedCommaOrBrace

def readColon (text : Input) : Except Error Input :=
  match skipSpaces text with
  | [] => fail .endInObject
  | .char ':' :: rest => .ok rest
  | _ => fail .expectedColon

def readItems {α : Type} (item : Input → Except Error (α × Input)) :
    Nat → Bool → Input → Except Error (List α × Input)
  | 0, _, _ => fail .endInList
  | fuel + 1, first, text => do
    match ← nextItem first text with
    | .closed rest => return ([], rest)
    | .more text =>
      let (a, rest) ← item text
      let (more, rest) ← readItems item fuel false rest
      return (a :: more, rest)

/-- The members of an object whose brace has been seen. Each name is handed on as soon as it is
read, with the text from its colon. -/
def readMembers {σ : Type} (member : σ → String → Input → Except Error (σ × Input)) :
    Nat → Bool → σ → Input → Except Error (σ × Input)
  | 0, _, _, _ => fail .endInObject
  | fuel + 1, first, state, text => do
    match ← nextName first text with
    | .closed rest => return (state, rest)
    | .more text =>
      let (name, rest) ← readString text
      let (state, rest) ← member state name rest
      readMembers member fuel false state rest

def readScalar : Input → Except Error (Value × Input)
  | [] => fail .endInValue
  | .stray _ :: _ => fail .expectedValue
  | .char c :: rest =>
    if c = 'n' then return (.null, ← readWord ['u', 'l', 'l'] rest)
    else if c = 't' then return (.boolean true, ← readWord ['r', 'u', 'e'] rest)
    else if c = 'f' then return (.boolean false, ← readWord ['a', 'l', 's', 'e'] rest)
    else if c = '"' then do
      let (s, rest) ← readString rest
      return (.text s, rest)
    else if c = '-' then do
      let (n, rest) ← readNumber true rest
      return (.number n, rest)
    else if '0' ≤ c ∧ c ≤ '9' then do
      let (n, rest) ← readNumber false (.char c :: rest)
      return (.number n, rest)
    else fail .expectedValue

/-- A value of at most the given number of levels; `fuel` is no less than the length of the text. -/
def readValue (fuel : Nat) (levels : Nat) (text : Input) : Except Error (Value × Input) :=
  match skipSpaces text with
  | .char '[' :: rest =>
    match levels with
    | 0 => fail .tooDeep
    | levels + 1 => do
      let (items, rest) ← readItems (fun text => readValue fuel levels text) fuel true rest
      return (.array items, rest)
  | .char '{' :: rest =>
    match levels with
    | 0 => fail .tooDeep
    | levels + 1 => do
      let (members, rest) ← readMembers (fun members name text => do
        let text ← readColon text
        let (value, rest) ← readValue fuel levels text
        return (Members.insert members name value, rest)) fuel true [] rest
      return (.object members, rest)
  | text => readScalar text

def readEntire {α : Type} (reader : Nat → Input → Except Error (α × Input)) (text : Input) :
    Except Error α := do
  let (a, rest) ← reader (text.length + 1) text
  match skipSpaces rest with
  | [] => return a
  | _ :: _ => fail .trailingCharacters

def read (text : Input) : Except Error Value :=
  readEntire (fun fuel => readValue fuel maxLevels) text

end SessionGate.Json
