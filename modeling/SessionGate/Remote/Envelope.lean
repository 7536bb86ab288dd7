import SessionGate.Json.Shape
import SessionGate.Json.Skip
import SessionGate.Remote.Error

/- The envelope around every answer: a business code and a message. Only a text with code 200 is
   looked into any further. -/
namespace SessionGate.Remote

open Json (Input)

structure Envelope where
  code : Int
  msg : Option String
  deriving DecidableEq, Repr

namespace Envelope

def record : String := "EnvelopeHead"

structure Draft where
  code : Option Int
  msg : Option (Option String)

def Draft.finish (draft : Draft) : Except Json.Error Envelope :=
  match draft.code with
  | some code => .ok ⟨code, draft.msg.join⟩
  | none => .error (.missing "code")

def Draft.member (fuel : Nat) (draft : Draft) (name : String) (text : Input) :
    Except Json.Error (Draft × Input) := do
  if name = "code" then
    Json.once draft.code name
    let (code, rest) ← Json.readSigned (← Json.readColon text)
    return ({ draft with code := some code }, rest)
  else if name = "msg" then
    Json.once draft.msg name
    let (msg, rest) ← Json.readOptional Json.readText (← Json.readColon text)
    return ({ draft with msg := some msg }, rest)
  else
    let rest ← Json.skipValue fuel (← Json.readColon text)
    return (draft, rest)

/-- An envelope that is given as the list of its fields, the message left out or not. -/
def readList (text : Input) : Except Json.Error (Envelope × Input) := do
  match ← Json.nextItem true text with
  | .closed _ => .error (.tooShort 0 record 2)
  | .more text =>
    let (code, rest) ← Json.readSigned text
    match ← Json.nextItem false rest with
    | .closed rest => return (⟨code, none⟩, rest)
    | .more text =>
      let (msg, rest) ← Json.readOptional Json.readText text
      return (⟨code, msg⟩, ← Json.readListEnd rest)

def readAt (fuel : Nat) (text : Input) : Except Json.Error (Envelope × Input) :=
  match Json.skipSpaces text with
  | .char '[' :: rest => readList rest
  | text => do
    let (draft, rest) ← Json.readObject (.record record) (Draft.member fuel) ⟨none, none⟩ fuel text
    return (← draft.finish, rest)

def read (text : Input) : Except Json.Error Envelope :=
  Json.readEntire readAt text

def success : Int := 200

def signedOut : Int := 401

def verdict (envelope : Envelope) : Except Error Unit :=
  let msg := envelope.msg.getD ""
  if envelope.code = success then .ok ()
  else if envelope.code = signedOut then .error (.unauthorized msg)
  else .error (.server envelope.code msg)

end Envelope

def parsed {α : Type} (result : Except Json.Error α) : Except Error α :=
  result.mapError fun e => .parse e.message

def checkEnvelope (text : Input) : Except Error Unit := do
  let envelope ← parsed (Envelope.read text)
  envelope.verdict

/-- Judges the envelope of a text, then reads the whole text again for what it carries. -/
def openEnvelope {α : Type} (payload : Input → Except Json.Error α) (text : Input) :
    Except Error α := do
  checkEnvelope text
  parsed (payload text)

end SessionGate.Remote
