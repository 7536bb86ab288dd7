import SessionGate.Proofs.Storage.FieldMap

/- Two clients of one store that take turns, call by call. Each keeps to a key of its own, and all that it
   learns of the store is what it finds there, so that the turns of the other are nothing to it: not even one
   between the reading of the fields and their writing. -/
namespace SessionGate.Storage

open Json (Value Members)

/-! Work after work -/

def Calls.bind {α γ : Type} (calls : Calls α) (following : α → Calls γ) : Calls γ :=
  match calls with
  | .done a => following a
  | .read key next => .read key fun answer => (next answer).bind following
  | .write key value next => .write key value fun answer => (next answer).bind following
  | .delete key next => .delete key fun answer => (next answer).bind following

def sequence : List Errand → Calls (List Work.Reply)
  | [] => .done []
  | errand :: rest => errand.work.calls.bind fun reply => (sequence rest).map (reply :: ·)

section Runs

variable {β : Type} [Backend β]

theorem run_bind {α γ : Type} (calls : Calls α) (following : α → Calls γ) (store : β) :
    (calls.bind following).run store = (following (calls.run store).1).run (calls.run store).2 := by
  induction calls generalizing store with
  | done a => rfl
  | read key next ih => exact ih _ _
  | write key value next ih => exact ih _ _
  | delete key next ih => exact ih _ _

theorem sequence_run (errands : List Errand) (store : β) :
    (sequence errands).run store = runErrands errands store := by
  induction errands generalizing store with
  | nil => rfl
  | cons errand rest ih =>
    simp only [sequence, run_bind, run_map, ih]
    rfl

end Runs

section Keeping

variable {α γ : Type} {key : String} {storable : Value → Prop}

theorem Calls.KeepsTo.bind {calls : Calls α} (keeps : calls.KeepsTo key storable)
    {following : α → Calls γ} (each : ∀ a, (following a).KeepsTo key storable) :
    (calls.bind following).KeepsTo key storable := by
  induction calls with
  | done a => exact each a
  | read asked next ih =>
    exact ⟨keeps.1, fun stored storable => ih _ (keeps.2 stored storable)⟩
  | write asked value next ih => exact ⟨keeps.1, keeps.2.1, ih _ keeps.2.2⟩
  | delete asked next ih => exact ⟨keeps.1, ih _ keeps.2⟩

theorem sequence_keeps {errands : List Errand}
    (each : ∀ errand ∈ errands, errand.work.calls.KeepsTo key storable) :
    (sequence errands).KeepsTo key storable := by
  induction errands with
  | nil => trivial
  | cons errand rest ih =>
    obtain ⟨first, others⟩ := List.forall_mem_cons.mp each
    exact first.bind fun reply => (ih others).map _

end Keeping

/-! Turns -/

inductive Side where
  | fields
  | token
  deriving DecidableEq, Repr

/-- The calls of two clients in the order of their turns. Calls that are left when the turns are over come
after them, those for the fields first. -/
def takeTurns {α γ β : Type} [Backend β] (fields : Calls α) (token : Calls γ) :
    List Side → β → (α × γ) × β
  | [], store =>
    let (told, store) := fields.run store
    let (found, store) := token.run store
    ((told, found), store)
  | .fields :: turns, store =>
    let (fields, store) := fields.turn store
    takeTurns fields token turns store
  | .token :: turns, store =>
    let (token, store) := token.turn store
    takeTurns fields token turns store

section Turns

variable {β : Type} [Backend β] [Reliable β] {α γ : Type} {store : β} {held : Holdings}

open Reliable (Holds Storable)

theorem turns_on_values {first second : String} (apart : first ≠ second) (turns : List Side)
    {fields : Calls α} {token : Calls γ} (holds : Holds store held)
    (keeps : fields.KeepsTo first (Storable β)) (others : token.KeepsTo second (Storable β)) :
    (takeTurns fields token turns store).1 =
        ((fields.onValue (held first)).1, (token.onValue (held second)).1) ∧
      Holds (takeTurns fields token turns store).2
        (Function.update (Function.update held first (fields.onValue (held first)).2)
          second (token.onValue (held second)).2) := by
  induction turns generalizing fields token store held with
  | nil =>
    obtain ⟨told, between⟩ := run_on_value holds keeps
    obtain ⟨found, after⟩ := run_on_value between others
    rw [Function.update_of_ne apart.symm] at found after
    exact ⟨congrArg₂ Prod.mk told found, after⟩
  | cons turn rest ih =>
    cases turn with
    | fields =>
      obtain ⟨stored, after, keeps, same⟩ := turn_on_value holds keeps
      have onward := ih after keeps others
      rw [Function.update_self, Function.update_of_ne apart.symm, Function.update_idem, same] at onward
      exact onward
    | token =>
      obtain ⟨stored, after, others, same⟩ := turn_on_value holds others
      have onward := ih after keeps others
      rw [Function.update_self, Function.update_of_ne apart, Function.update_comm apart,
        Function.update_idem, same, Function.update_comm apart.symm] at onward
      exact onward

end Turns

/-! Each as if alone -/

/-- Both clients are told what each would be told with the store to itself, and leave under their keys what
each would leave there. Nothing else has changed. -/
structure AsIfAlone {β : Type} [Backend β] (fields : List FieldWork) (token : List TokenWork)
    (store : β) (outcome : (List Work.Reply × List Work.Reply) × β) : Prop where
  field_replies : outcome.1.1 = (runErrands (fields.map .fields) store).1
  token_replies : outcome.1.2 = (runErrands (token.map .token) store).1
  fields_left : ∃ stored, (Backend.read fieldsKey outcome.2).1 = .ok stored ∧
    (Backend.read fieldsKey (runErrands (fields.map .fields) store).2).1 = .ok stored
  token_left : ∃ stored, (Backend.read TokenStore.key outcome.2).1 = .ok stored ∧
    (Backend.read TokenStore.key (runErrands (token.map .token) store).2).1 = .ok stored
  others {key : String} (outside : key ≠ fieldsKey) (other : key ≠ TokenStore.key) :
    ∃ stored, (Backend.read key outcome.2).1 = .ok stored ∧ (Backend.read key store).1 = .ok stored

def interleave {β : Type} [Backend β] (fields : List FieldWork) (token : List TokenWork)
    (turns : List Side) (store : β) : (List Work.Reply × List Work.Reply) × β :=
  takeTurns (sequence (fields.map .fields)) (sequence (token.map .token)) turns store

theorem clients_do_not_disturb {β : Type} [Backend β] [Reliable β] {store : β} {held : Holdings}
    (holds : Reliable.Holds store held) {fields : List FieldWork}
    (settable : ∀ work ∈ fields, ∀ value, work.value? = some value → Reliable.Settable β value)
    (token : List TokenWork) (turns : List Side) :
    AsIfAlone fields token store (interleave fields token turns store) := by
  have keeps : (sequence (fields.map .fields)).KeepsTo fieldsKey (Reliable.Storable β) := by
    refine sequence_keeps fun errand among => ?_
    obtain ⟨work, listed, rfl⟩ := List.mem_map.mp among
    exact field_work_keeps β (settable work listed)
  have others : (sequence (token.map .token)).KeepsTo TokenStore.key (Reliable.Storable β) := by
    refine sequence_keeps fun errand among => ?_
    obtain ⟨work, _, rfl⟩ := List.mem_map.mp among
    exact token_work_keeps β work
  obtain ⟨told, leftFields⟩ := run_on_value holds keeps
  obtain ⟨found, leftToken⟩ := run_on_value holds others
  rw [sequence_run] at told leftFields found leftToken
  obtain ⟨replies, after⟩ := turns_on_values token_key_outside.symm turns holds keeps others
  have reads (key : String) := (Reliable.reads key after).1
  refine ⟨?_, ?_, ⟨_, ?_, (Reliable.reads fieldsKey leftFields).1⟩,
    ⟨_, ?_, (Reliable.reads TokenStore.key leftToken).1⟩, fun {key} outside other => ?_⟩
  · rw [told]
    exact congrArg Prod.fst replies
  · rw [found]
    exact congrArg Prod.snd replies
  · refine (reads fieldsKey).trans ?_
    rw [Function.update_of_ne token_key_outside.symm]
  · refine (reads TokenStore.key).trans ?_
    rw [Function.update_self, Function.update_self]
  · refine ⟨held key, (reads key).trans ?_, (Reliable.reads key holds).1⟩
    rw [Function.update_of_ne other, Function.update_of_ne outside]

/- The token is set when the fields were read for the second work but not yet written. -/
theorem token_set_within_put :
    Reliable.Holds filed (Members.get? filedEntries) ∧
      AsIfAlone [.get "user_id", .put .userName (.text "ann"), .get "user_id"] [.set "t", .get] filed
        (interleave [.get "user_id", .put .userName (.text "ann"), .get "user_id"] [.set "t", .get]
          [.fields, .fields, .token, .fields] filed) := by
  have holds : Reliable.Holds filed (Members.get? filedEntries) := ⟨_, filed_in_order, rfl⟩
  refine ⟨holds, clients_do_not_disturb holds ?_ _ _⟩
  intro work among value written
  simp only [List.mem_cons, List.not_mem_nil, or_false] at among
  rcases among with rfl | rfl | rfl
  · cases written
  · cases written
    exact Reliable.text_settable "ann"
  · cases written

end SessionGate.Storage
