import SessionGate.Address.Reader
import SessionGate.Remote.Error
import SessionGate.Text.Blank
import SessionGate.Text.Utf8

/- Requests, what comes back for them, and the networks that carry both. -/
namespace SessionGate.Remote

open Text (Bytes)

inductive Method where
  | get
  | post
  deriving DecidableEq, Repr

def Method.name : Method → String
  | .get => "GET"
  | .post => "POST"

structure Request where
  method : Method
  url : String
  authorization : Option String
  contentType : Option String
  body : String
  deriving DecidableEq, Repr

def addressTarget? (url : String) : Option String := (Address.read? url).map Address.target

def isHostChar (c : Char) : Bool := !"\"\x60\x7b\x7d".toList.contains c

def maxAddressSize : Nat := 65534

def isSendable (address : Address) : Bool :=
  (address.scheme = "http" || address.scheme = "https") &&
    ((address.host.map Address.Host.text).getD "").toList.all isHostChar &&
    address.text.length ≤ maxAddressSize

def isHeaderText (s : String) : Bool :=
  s.toList.all fun c => c = '\t' || (0x20 ≤ c.toNat && c.toNat ≠ 0x7F)

/-- What comes back for a request in the end, after any redirects, which are not followed here. -/
inductive Reply where
  | complete (status : Nat) (body : Bytes)
  | truncated (status : Nat) (body : Bytes)
  | dropped
  deriving DecidableEq, Repr

/-- A network: one that no request leaves, or one that gives the replies in order and keeps the
requests it carried. -/
inductive Network where
  | unreachable
  | scripted (replies : List Reply) (sent : List Request)
  deriving DecidableEq, Repr

namespace Network

def exchange (request : Request) : Network → Reply × Network
  | .unreachable => (.dropped, .unreachable)
  | .scripted [] sent => (.dropped, .scripted [] (sent ++ [request]))
  | .scripted (reply :: rest) sent => (reply, .scripted rest (sent ++ [request]))

def sent : Network → List Request
  | .unreachable => []
  | .scripted _ sent => sent

end Network

def isBodiless (status : Nat) : Bool := status = 204 || status = 304

def Reply.receive (url : String) : Reply → Except Error String
  | .dropped => .error (.request ("error sending request for url (" ++ url ++ ")"))
  | .truncated _ _ => .error (.request "error decoding response body")
  | .complete status body =>
    let text := if isBodiless status then "" else Text.decodeLossy body
    if 200 ≤ status ∧ status < 300 then .ok text else .error (.status status text)

end SessionGate.Remote
