import SessionGate.Storage.Backend

/- Stores whose calls may be made to fail. A call that fails does not reach the store. -/
namespace SessionGate.Storage

inductive Operation where
  | read
  | write
  | delete
  deriving DecidableEq, Repr

class FaultPlan (φ : Type) where
  check : Operation → String → φ → Option Error × φ

structure Faulty (φ β : Type) where
  plan : φ
  store : β

namespace Faulty

variable {φ β : Type} [FaultPlan φ]

def attempt {α : Type} (operation : Operation) (key : String) (call : β → Except Error α × β)
    (faulty : Faulty φ β) : Except Error α × Faulty φ β :=
  match FaultPlan.check operation key faulty.plan with
  | (some error, plan) => (.error error, ⟨plan, faulty.store⟩)
  | (none, plan) =>
    let (answer, store) := call faulty.store
    (answer, ⟨plan, store⟩)

instance [Backend β] : Backend (Faulty φ β) where
  read key := attempt .read key (Backend.read key)
  write key value := attempt .write key (Backend.write key value)
  delete key := attempt .delete key (Backend.delete key)

end Faulty

structure Fault where
  operation : Operation
  key : Option String
  skip : Nat
  cause : String
  deriving DecidableEq, Repr

def Fault.sees (fault : Fault) (operation : Operation) (key : String) : Bool :=
  fault.operation = operation && (fault.key.isNone || fault.key = some key)

/-- The first fault that is due ends the check; those before it count the call. -/
def checkFaults (operation : Operation) (key : String) : List Fault → Option Error × List Fault
  | [] => (none, [])
  | fault :: rest =>
    if fault.sees operation key then
      if fault.skip = 0 then (some (.medium fault.cause), fault :: rest)
      else
        let (found, rest) := checkFaults operation key rest
        (found, { fault with skip := fault.skip - 1 } :: rest)
    else
      let (found, rest) := checkFaults operation key rest
      (found, fault :: rest)

instance : FaultPlan (List Fault) := ⟨checkFaults⟩

end SessionGate.Storage
