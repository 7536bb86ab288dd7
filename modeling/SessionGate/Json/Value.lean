import SessionGate.Decimal.Shortest

/- JSON values. A number keeps its class: an integer of 64 bits, signed or unsigned, or a double.
   Members stay in the order in which they are listed; a document that is read or kept lists each
   name once, in the order of the names. -/
namespace SessionGate.Json

open Decimal

def signedBound : Int := 0x8000000000000000

def unsignedBound : Int := 0x10000000000000000

structure Integer where
  val : Int
  least : -signedBound ≤ val
  greatest : val < unsignedBound
  deriving DecidableEq

def Integer.ofInt? (n : Int) : Option Integer :=
  if valid : -signedBound ≤ n ∧ n < unsignedBound then some ⟨n, valid.1, valid.2⟩ else none

inductive Number where
  | integer (n : Integer)
  | real (x : Binary64)
  deriving DecidableEq

def Number.text : Number → String
  | .integer n => toString n.val
  | .real x => x.text

inductive Value where
  | null
  | boolean (b : Bool)
  | number (n : Number)
  | text (s : String)
  | array (items : List Value)
  | object (members : List (String × Value))

instance : Inhabited Value := ⟨.null⟩

abbrev Members := List (String × Value)

namespace Members

def insert (members : Members) (name : String) (value : Value) : Members :=
  match members with
  | [] => [(name, value)]
  | (other, kept) :: rest =>
    if name < other then (name, value) :: (other, kept) :: rest
    else if name = other then (name, value) :: rest
    else (other, kept) :: insert rest name value

def erase (members : Members) (name : String) : Members :=
  members.filter fun member => member.1 ≠ name

def get? (members : Members) (name : String) : Option Value :=
  (members.find? fun member => member.1 = name).map (·.2)

/-- The members in the order of their names, the last of equal names winning. -/
def ofList (members : List (String × Value)) : Members :=
  members.foldl (fun kept member => insert kept member.1 member.2) []

end Members

def texts (items : List String) : Value :=
  .array (items.map .text)

def onlyTexts (items : List Value) : List String :=
  items.filterMap fun
    | .text s => some s
    | _ => none

end SessionGate.Json
