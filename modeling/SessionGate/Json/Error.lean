import SessionGate.Json.Value
import SessionGate.Text.Quoted

/- Why a JSON text cannot be read: the first problem in the order of the text. -/
namespace SessionGate.Json

inductive Fault where
  | endInValue
  | endInList
  | endInObject
  | endInString
  | expectedValue
  | expectedWord
  | expectedColon
  | expectedCommaOrBracket
  | expectedCommaOrBrace
  | nameNotString
  | trailingComma
  | trailingCharacters
  | badNumber
  | numberOutOfRange
  | badEscape
  | badCharacter
  | controlCharacter
  | loneSurrogate
  | missingSurrogate
  | tooDeep
  deriving DecidableEq, Repr

def Fault.message : Fault → String
  | .endInValue => "EOF while parsing a value"
  | .endInList => "EOF while parsing a list"
  | .endInObject => "EOF while parsing an object"
  | .endInString => "EOF while parsing a string"
  | .expectedValue => "expected value"
  | .expectedWord => "expected ident"
  | .expectedColon => "expected `:`"
  | .expectedCommaOrBracket => "expected `,` or `]`"
  | .expectedCommaOrBrace => "expected `,` or `\x7d`"
  | .nameNotString => "key must be a string"
  | .trailingComma => "trailing comma"
  | .trailingCharacters => "trailing characters"
  | .badNumber => "invalid number"
  | .numberOutOfRange => "number out of range"
  | .badEscape => "invalid escape"
  | .badCharacter => "invalid unicode code point"
  | .controlCharacter => "control character (\\u0000-\\u001F) found while parsing a string"
  | .loneSurrogate => "lone leading surrogate in hex escape"
  | .missingSurrogate => "unexpected end of hex escape"
  | .tooDeep => "recursion limit exceeded"

inductive Found where
  | null
  | boolean (b : Bool)
  | number (n : Number)
  | text (s : String)
  | sequence
  | map
  deriving DecidableEq

def ticked (s : String) : String := "`" ++ s ++ "`"

def Found.message : Found → String
  | .null => "null"
  | .boolean b => "boolean " ++ ticked (toString b)
  | .number (.integer n) => "integer " ++ ticked (toString n.val)
  | .number (.real x) => "floating point " ++ ticked x.text
  | .text s => "string " ++ Text.quote s
  | .sequence => "sequence"
  | .map => "map"

def Value.found : Value → Found
  | .null => .null
  | .boolean b => .boolean b
  | .number n => .number n
  | .text s => .text s
  | .array _ => .sequence
  | .object _ => .map

/-- What a reader is looking for; a record goes by the name under which it is reported. -/
inductive Shape where
  | text
  | sequence
  | map
  | signed
  | record (name : String)
  deriving DecidableEq

def Shape.message : Shape → String
  | .text => "a string"
  | .sequence => "a sequence"
  | .map => "a map"
  | .signed => "i64"
  | .record name => "struct " ++ name

inductive Error where
  | malformed (fault : Fault)
  | mismatch (found : Found) (expected : Shape)
  | beyond (n : Integer)
  | missing (name : String)
  | duplicate (name : String)
  | tooShort (length : Nat) (record : String) (fields : Nat)
  | tooLong (length : Nat)
  | notTextOrNumber (written : String)
  deriving DecidableEq

def Error.message : Error → String
  | .malformed fault => fault.message
  | .mismatch found expected => "invalid type: " ++ found.message ++ ", expected " ++ expected.message
  | .beyond n => "invalid value: integer " ++ ticked (toString n.val) ++ ", expected " ++ Shape.signed.message
  | .missing name => "missing field " ++ ticked name
  | .duplicate name => "duplicate field " ++ ticked name
  | .tooShort length record fields =>
    "invalid length " ++ toString length ++ ", expected struct " ++ record ++ " with " ++
      toString fields ++ (if fields = 1 then " element" else " elements")
  | .tooLong length => "invalid length " ++ toString length ++ ", expected fewer elements in array"
  | .notTextOrNumber written => "expected string or number, got " ++ written

end SessionGate.Json
