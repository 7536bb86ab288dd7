import SessionGate.Json.Reader

/- The lenient reader, for values that nobody asks for: any number of levels, numbers of any size,
   surrogates in any order. -/
namespace SessionGate.Json

open Text (Symbol)

def skipEscape : Input → Except Error Input
  | [] => fail .endInString
  | .stray _ :: _ => fail .badEscape
  | .char c :: rest =>
    if c = 'u' then do
      let (_, rest) ← readHex rest
      return rest
    else if (shortEscape? c).isSome then .ok rest
    else fail .badEscape

/-- The rest after the closing quote of a string; the measure is any list no shorter than the text. -/
def skipSymbols {μ : Type} : List μ → Input → Except Error Input
  | [], _ => fail .endInString
  | _, [] => fail .endInString
  | _ :: measure, .stray _ :: rest => skipSymbols measure rest
  | _ :: measure, .char c :: rest =>
    if c = '"' then .ok rest
    else if c = '\\' then do
      let rest ← skipEscape rest
      skipSymbols measure rest
    else if c.toNat < 0x20 then fail .controlCharacter
    else skipSymbols measure rest

def skipString (text : Input) : Except Error Input := skipSymbols text text

def skipSomeDigits (text : Input) : Except Error Input :=
  match readDigits text with
  | ([], _) => fail .badNumber
  | (_ :: _, rest) => .ok rest

def skipFraction : Input → Except Error Input
  | .char '.' :: rest => skipSomeDigits rest
  | text => .ok text

def skipExponent : Input → Except Error Input
  | .char c :: rest =>
    if c = 'e' ∨ c = 'E' then
      match rest with
      | .char '-' :: rest => skipSomeDigits rest
      | .char '+' :: rest => skipSomeDigits rest
      | rest => skipSomeDigits rest
    else .ok (.char c :: rest)
  | text => .ok text

def skipNumber (text : Input) : Except Error Input := do
  match readDigits text with
  | ([], _) => fail .badNumber
  | (0 :: _ :: _, _) => fail .badNumber
  | (_, rest) =>
    let rest ← skipFraction rest
    skipExponent rest

def skipScalar : Input → Except Error Input
  | [] => fail .endInValue
  | .stray _ :: _ => fail .expectedValue
  | .char c :: rest =>
    if c = 'n' then readWord ['u', 'l', 'l'] rest
    else if c = 't' then readWord ['r', 'u', 'e'] rest
    else if c = 'f' then readWord ['a', 'l', 's', 'e'] rest
    else if c = '"' then skipString rest
    else if c = '-' then skipNumber rest
    else if '0' ≤ c ∧ c ≤ '9' then skipNumber (.char c :: rest)
    else fail .expectedValue

def skipToItem (first : Bool) (text : Input) : Except Error Next :=
  match skipSpaces text with
  | [] => fail .endInList
  | .char ']' :: rest => .ok (.closed rest)
  | text =>
    if first then .ok (.more text)
    else match text with
      | .char ',' :: rest => .ok (.more rest)
      | _ => fail .expectedCommaOrBracket

def skipToName (first : Bool) (text : Input) : Except Error Next :=
  match skipSpaces text with
  | [] => fail .endInObject
  | .char '}' :: rest => .ok (.closed rest)
  | text =>
    if first then opening text
    else match text with
      | .char ',' :: rest => opening (skipSpaces rest)
      | _ => fail .expectedCommaOrBrace
where
  opening : Input → Except Error Next
    | [] => fail .endInObject
    | .char '"' :: rest => .ok (.more rest)
    | _ => fail .nameNotString

def skipItems (item : Input → Except Error Input) : Nat → Bool → Input → Except Error Input
  | 0, _, _ => fail .endInList
  | fuel + 1, first, text => do
    match ← skipToItem first text with
    | .closed rest => return rest
    | .more text =>
      let rest ← item text
      skipItems item fuel false rest

def skipMembers (item : Input → Except Error Input) : Nat → Bool → Input → Except Error Input
  | 0, _, _ => fail .endInObject
  | fuel + 1, first, text => do
    match ← skipToName first text with
    | .closed rest => return rest
    | .more text =>
      let rest ← skipString text
      let rest ← readColon rest
      let rest ← item rest
      skipMembers item fuel false rest

/-- The rest after any value; `fuel` is more than the length of the text. -/
def skipValue : Nat → Input → Except Error Input
  | 0, _ => fail .endInValue
  | fuel + 1, text =>
    match skipSpaces text with
    | .char '[' :: rest => skipItems (fun text => skipValue fuel text) (fuel + 1) true rest
    | .char '{' :: rest => skipMembers (fun text => skipValue fuel text) (fuel + 1) true rest
    | text => skipScalar text

end SessionGate.Json
