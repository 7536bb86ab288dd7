import SessionGate.Address.Domain
import SessionGate.Address.Ipv4
import SessionGate.Address.Ipv6

/- Hosts, as addresses name them. -/
namespace SessionGate.Address

inductive Host where
  | domain (name : String)
  | ipv4 (number : Nat)
  | ipv6 (pieces : List Nat)
  | named (text : String)
  deriving DecidableEq, Repr

namespace Host

def empty : Host := .named ""

def text : Host → String
  | .domain name => name
  | .ipv4 number => Ipv4.text number
  | .ipv6 pieces => "[" ++ Ipv6.text pieces ++ "]"
  | .named text => text

def readBracketed? (cs : List Char) : Option (Option Host) :=
  match cs with
  | '[' :: rest =>
    some (if rest.getLast? = some ']' then (Ipv6.read? rest.dropLast).map .ipv6 else none)
  | _ => none

/-- A host of the web. It is a name unless its last part is a number. -/
def readWeb? (cs : List Char) : Option Host :=
  match readBracketed? cs with
  | some host => host
  | none =>
    match (Text.decode? (Text.Percent.decode cs)).bind fun s => Domain.read? s.toList with
    | none => none
    | some [] => none
    | some name =>
      if Ipv4.isMeant name then (Ipv4.read? name).map .ipv4
      else some (.domain (String.ofList name))

def isNamedChar (c : Char) : Bool :=
  c ≠ '\x00' && !"\t\n\r #/:<>?@[\\]^|".toList.contains c

def isPrintable (c : Char) : Bool := 0x20 ≤ c.toNat && c.toNat < 0x7F

def readNamed? (cs : List Char) : Option Host :=
  match readBracketed? cs with
  | some host => host
  | none =>
    if cs.all isNamedChar then some (.named (String.ofList (Text.Percent.encode isPrintable cs)))
    else none

end Host

end SessionGate.Address
