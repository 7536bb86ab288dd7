import SessionGate.Storage.Error

/- Stores of values by key, and the work that clients do on them, written as the calls they make
   one after another. Between two calls of one client another may make its own. -/
namespace SessionGate.Storage

open Json (Value Members)

/-- A store of values by key. A call may fail, and may change the store even then. -/
class Backend (β : Type) where
  read : String → β → Except Error (Option Value) × β
  write : String → Value → β → Except Error Unit × β
  delete : String → β → Except Error Unit × β

structure Memory where
  entries : Members

namespace Memory

def empty : Memory := ⟨[]⟩

def size (store : Memory) : Nat := store.entries.length

instance : Backend Memory where
  read key store := (.ok (Members.get? store.entries key), store)
  write key value store := (.ok (), ⟨Members.insert store.entries key value⟩)
  delete key store := (.ok (), ⟨Members.erase store.entries key⟩)

end Memory

inductive Calls (α : Type) where
  | done (a : α)
  | read (key : String) (next : Except Error (Option Value) → Calls α)
  | write (key : String) (value : Value) (next : Except Error Unit → Calls α)
  | delete (key : String) (next : Except Error Unit → Calls α)

def Calls.map {α γ : Type} (f : α → γ) : Calls α → Calls γ
  | .done a => .done (f a)
  | .read key next => .read key fun answer => (next answer).map f
  | .write key value next => .write key value fun answer => (next answer).map f
  | .delete key next => .delete key fun answer => (next answer).map f

def Calls.run {α β : Type} [Backend β] : Calls α → β → α × β
  | .done a, store => (a, store)
  | .read key next, store =>
    let (answer, store) := Backend.read key store
    (next answer).run store
  | .write key value next, store =>
    let (answer, store) := Backend.write key value store
    (next answer).run store
  | .delete key next, store =>
    let (answer, store) := Backend.delete key store
    (next answer).run store

end SessionGate.Storage
