import SessionGate.Json.Value

/- The written form of a value: on one line without spaces, or with a line for each item and two
   blanks for each level. -/
namespace SessionGate.Json

def hexDigit (n : Nat) : Char :=
  if n < 10 then Char.ofNat (48 + n) else Char.ofNat (87 + n)

def writeChar (c : Char) : List Char :=
  match c with
  | '"' => ['\\', '"']
  | '\\' => ['\\', '\\']
  | '\x08' => ['\\', 'b']
  | '\x0c' => ['\\', 'f']
  | '\n' => ['\\', 'n']
  | '\r' => ['\\', 'r']
  | '\t' => ['\\', 't']
  | c =>
    if c.toNat < 0x20 then ['\\', 'u', '0', '0', hexDigit (c.toNat / 16), hexDigit (c.toNat % 16)]
    else [c]

def writeString (s : String) : List Char :=
  '"' :: (s.toList.flatMap writeChar ++ ['"'])

/-- What stands between two brackets and around the items in them. -/
structure Layout where
  lead : Nat → List Char
  colon : List Char

def compact : Layout := ⟨fun _ => [], [':']⟩

def pretty : Layout := ⟨fun level => '\n' :: List.replicate (2 * level) ' ', [':', ' ']⟩

mutual

def Layout.value (layout : Layout) (level : Nat) : Value → List Char
  | .null => ['n', 'u', 'l', 'l']
  | .boolean true => ['t', 'r', 'u', 'e']
  | .boolean false => ['f', 'a', 'l', 's', 'e']
  | .number n => n.text.toList
  | .text s => writeString s
  | .array [] => ['[', ']']
  | .array (item :: rest) =>
    '[' :: layout.lead (level + 1) ++ layout.value (level + 1) item ++
      layout.items (level + 1) rest ++ layout.lead level ++ [']']
  | .object [] => ['{', '}']
  | .object ((name, value) :: rest) =>
    '{' :: layout.lead (level + 1) ++ writeString name ++ layout.colon ++
      layout.value (level + 1) value ++ layout.members (level + 1) rest ++ layout.lead level ++ ['}']

def Layout.items (layout : Layout) (level : Nat) : List Value → List Char
  | [] => []
  | item :: rest => ',' :: layout.lead level ++ layout.value level item ++ layout.items level rest

def Layout.members (layout : Layout) (level : Nat) : List (String × Value) → List Char
  | [] => []
  | (name, value) :: rest =>
    ',' :: layout.lead level ++ writeString name ++ layout.colon ++ layout.value level value ++
      layout.members level rest

end

def Value.compact (v : Value) : String :=
  String.ofList (Json.compact.value 0 v)

def Value.pretty (v : Value) : String :=
  String.ofList (Json.pretty.value 0 v)

end SessionGate.Json
