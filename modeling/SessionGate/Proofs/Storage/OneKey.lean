import SessionGate.Proofs.Storage.Reliable

/- Clients that keep to one key of a store in order. All that such a client learns of the store is what it
   finds there, and all that it changes is that, so what comes of its calls is settled by this one value. -/
namespace SessionGate.Storage

open Json (Value Members)

/-- No call is about another key, and what is written is storable if what was read is. An answer that a call
failed is left out of account. -/
def Calls.KeepsTo {α : Type} (key : String) (storable : Value → Prop) : Calls α → Prop
  | .done _ => True
  | .read asked next => asked = key ∧ ∀ stored, (∀ value, stored = some value → storable value) →
      (next (.ok stored)).KeepsTo key storable
  | .write asked value next => asked = key ∧ storable value ∧ (next (.ok ())).KeepsTo key storable
  | .delete asked next => asked = key ∧ (next (.ok ())).KeepsTo key storable

/-- What a client tells that finds this value under its key, and what it leaves there, no call failing. -/
def Calls.onValue {α : Type} : Calls α → Option Value → α × Option Value
  | .done a, stored => (a, stored)
  | .read _ next, stored => (next (.ok stored)).onValue stored
  | .write _ value next, _ => (next (.ok ())).onValue (some value)
  | .delete _ next, _ => (next (.ok ())).onValue none

section Keeping

variable {α γ : Type} {key : String} {storable : Value → Prop}

theorem Calls.KeepsTo.map {calls : Calls α} (keeps : calls.KeepsTo key storable) (f : α → γ) :
    (calls.map f).KeepsTo key storable := by
  induction calls with
  | done a => trivial
  | read asked next ih =>
    exact ⟨keeps.1, fun stored storable => ih _ (keeps.2 stored storable)⟩
  | write asked value next ih => exact ⟨keeps.1, keeps.2.1, ih _ keeps.2.2⟩
  | delete asked next ih => exact ⟨keeps.1, ih _ keeps.2⟩

theorem onValue_map (f : α → γ) (calls : Calls α) (stored : Option Value) :
    (calls.map f).onValue stored = (f (calls.onValue stored).1, (calls.onValue stored).2) := by
  induction calls generalizing stored with
  | done a => rfl
  | read asked next ih => exact ih _ stored
  | write asked value next ih => exact ih _ _
  | delete asked next ih => exact ih _ _

end Keeping

/-! Its calls, one at a time and all together -/

def Calls.turn {α β : Type} [Backend β] : Calls α → β → Calls α × β
  | .done a, store => (.done a, store)
  | .read key next, store =>
    let (answer, store) := Backend.read key store
    (next answer, store)
  | .write key value next, store =>
    let (answer, store) := Backend.write key value store
    (next answer, store)
  | .delete key next, store =>
    let (answer, store) := Backend.delete key store
    (next answer, store)

section Runs

variable {β : Type} [Backend β] {α γ : Type}

theorem turn_run (calls : Calls α) (store : β) :
    (calls.turn store).1.run (calls.turn store).2 = calls.run store := by
  cases calls <;> rfl

variable [Reliable β] {store : β} {held : Holdings}

open Reliable (Holds Storable)

theorem turn_on_value {key : String} (holds : Holds store held) {calls : Calls α}
    (keeps : calls.KeepsTo key (Storable β)) :
    ∃ stored, Holds (calls.turn store).2 (Function.update held key stored) ∧
      (calls.turn store).1.KeepsTo key (Storable β) ∧
      (calls.turn store).1.onValue stored = calls.onValue (held key) := by
  cases calls with
  | done a => exact ⟨held key, by rwa [Function.update_eq_self], keeps, rfl⟩
  | read asked next =>
    obtain ⟨rfl, later⟩ := keeps
    obtain ⟨answered, after⟩ := Reliable.reads asked holds
    refine ⟨held asked, ?_, ?_, ?_⟩
    · rwa [Function.update_eq_self]
    · simp only [Calls.turn, answered]
      exact later _ fun value found => Reliable.held_storable holds found
    · simp only [Calls.turn, answered]
      rfl
  | write asked value next =>
    obtain ⟨rfl, storable, later⟩ := keeps
    obtain ⟨answered, after⟩ := Reliable.writes asked storable holds
    refine ⟨some value, after, ?_, ?_⟩
    · simpa only [Calls.turn, answered] using later
    · simp only [Calls.turn, answered]
      rfl
  | delete asked next =>
    obtain ⟨rfl, later⟩ := keeps
    obtain ⟨answered, after⟩ := Reliable.deletes asked holds
    refine ⟨none, after, ?_, ?_⟩
    · simpa only [Calls.turn, answered] using later
    · simp only [Calls.turn, answered]
      rfl

theorem run_on_value {key : String} (holds : Holds store held) {calls : Calls α}
    (keeps : calls.KeepsTo key (Storable β)) :
    (calls.run store).1 = (calls.onValue (held key)).1 ∧
      Holds (calls.run store).2 (Function.update held key (calls.onValue (held key)).2) := by
  induction calls generalizing store held with
  | done a =>
    simp only [Calls.onValue, Function.update_eq_self]
    exact ⟨rfl, holds⟩
  | read _ _ ih | write _ _ _ ih | delete _ _ ih =>
    obtain ⟨stored, after, keeps, same⟩ := turn_on_value holds keeps
    have onward := ih _ after keeps
    rw [Function.update_self, Function.update_idem] at onward
    rw [← same, ← turn_run]
    exact onward

end Runs

/-! The two stores -/

section Stores

variable (β : Type) [Backend β] [Reliable β]

open Reliable (Holds Storable Settable)

theorem fieldsOf_storable {stored : Option Value}
    (storable : ∀ value, stored = some value → Storable β value) :
    Storable β (.object (FieldStore.fieldsOf stored)) := by
  unfold FieldStore.fieldsOf
  split
  · exact storable _ rfl
  · exact Reliable.empty_storable

theorem change_keeps {f : Members → Members}
    (kept : ∀ fields, Storable β (.object fields) → Storable β (.object (f fields))) :
    (FieldStore.change f).KeepsTo fieldsKey (Storable β) :=
  ⟨rfl, fun _ storable => ⟨rfl, kept _ (fieldsOf_storable β storable), trivial⟩⟩

theorem put_keeps (field : Field) {value : Value} (settable : Settable β value) :
    (FieldStore.put field value).KeepsTo fieldsKey (Storable β) :=
  change_keeps β fun _ storable => Reliable.insert_storable storable field.key settable

theorem set_keeps (name : String) {value : Value} (settable : Settable β value) :
    (FieldStore.set name value).KeepsTo fieldsKey (Storable β) := by
  unfold FieldStore.set
  split
  · exact put_keeps β _ settable
  · trivial

theorem get_keeps (name : String) : (FieldStore.get name).KeepsTo fieldsKey (Storable β) :=
  ⟨rfl, fun _ _ => trivial⟩

theorem token_get_keeps : TokenStore.get.KeepsTo TokenStore.key (Storable β) := by
  refine ⟨rfl, fun stored _ => ?_⟩
  match stored with
  | none => trivial
  | some value => cases value <;> trivial

theorem token_get_onValue (stored : Option Value) :
    TokenStore.get.onValue stored = (tokenIn stored, stored) := by
  match stored with
  | none => rfl
  | some value => cases value <;> rfl

variable {β} {store : β} {held : Holdings} (holds : Holds store held)
include holds

theorem put_done (field : Field) {value : Value} (settable : Settable β value) :
    ((FieldStore.put field value).run store).1 = .ok () ∧
      Holds ((FieldStore.put field value).run store).2 (withField field value held) :=
  run_on_value holds (put_keeps β field settable)

theorem token_set_done (token : String) :
    ((TokenStore.set token).run store).1 = .ok () ∧
      Holds ((TokenStore.set token).run store).2
        (Function.update held TokenStore.key (some (.text token))) :=
  Reliable.writes TokenStore.key (Reliable.text_storable token) holds

theorem get_told (field : Field) :
    ((FieldStore.get field.key).run store).1 = fieldIn held field :=
  (run_on_value holds (get_keeps β field.key)).1

theorem token_get_told : (TokenStore.get.run store).1 = tokenIn (held TokenStore.key) :=
  (run_on_value holds (token_get_keeps β)).1.trans (congrArg Prod.fst (token_get_onValue _))

end Stores

end SessionGate.Storage
