import Mathlib.Logic.Function.Basic
import SessionGate.Proofs.Json.Order
import SessionGate.Storage.Fault
import SessionGate.Storage.FieldStore
import SessionGate.Storage.TokenStore

/- What a store holds, as a map from keys to values, and what becomes of a call that a plan of faults may
   refuse. -/
namespace SessionGate

namespace Json.Members

theorem get_insert (entries : Members) (key : String) (value : Value) :
    Members.get? (Members.insert entries key value) =
      Function.update (Members.get? entries) key (some value) := by
  funext other
  by_cases same : other = key
  · subst same
    rw [Function.update_self]
    exact get_insert_same entries other value
  · rw [Function.update_of_ne same]
    exact get_insert_other value same

theorem get_erase (entries : Members) (key : String) :
    Members.get? (Members.erase entries key) = Function.update (Members.get? entries) key none := by
  funext other
  by_cases same : other = key
  · subst same
    rw [Function.update_self]
    exact get_erase_same entries other
  · rw [Function.update_of_ne same]
    exact get_erase_other entries same

end Json.Members

namespace Storage

open Json (Value Members)
open Json.Members (get_insert_same get_insert_other)

abbrev Holdings := String → Option Value

/-- A change to what a store holds was made, or it was refused and nothing changed. -/
def Settled (result : Except Error Unit) (before wanted after : Holdings) : Prop :=
  (result = .ok () ∧ after = wanted) ∨ ∃ e, result = .error e ∧ after = before

section Faulty

variable {φ β : Type} [FaultPlan φ]

theorem attempt_outcome {α : Type} (operation : Operation) (key : String)
    (call : β → Except Error α × β) (faulty : Faulty φ β) :
    ((FaultPlan.check operation key faulty.plan).1 = none ∧
        (Faulty.attempt operation key call faulty).1 = (call faulty.store).1 ∧
        (Faulty.attempt operation key call faulty).2.store = (call faulty.store).2) ∨
      ∃ e, (FaultPlan.check operation key faulty.plan).1 = some e ∧
        (Faulty.attempt operation key call faulty).1 = .error e ∧
        (Faulty.attempt operation key call faulty).2.store = faulty.store := by
  unfold Faulty.attempt
  split
  · rename_i e plan due
    exact Or.inr ⟨e, by rw [due], rfl, rfl⟩
  · rename_i plan passed
    exact Or.inl ⟨by rw [passed], rfl, rfl⟩

theorem attempt_keeps {α : Type} {operation : Operation} {key : String}
    {call : β → Except Error α × β} {faulty : Faulty φ β}
    (holds : Except Error α → β → Prop)
    (passed : holds (call faulty.store).1 (call faulty.store).2)
    (refused : ∀ e, holds (.error e) faulty.store) :
    holds (Faulty.attempt operation key call faulty).1
      (Faulty.attempt operation key call faulty).2.store := by
  rcases attempt_outcome operation key call faulty with ⟨_, result, store⟩ | ⟨e, _, result, store⟩
  · rw [result, store]
    exact passed
  · rw [result, store]
    exact refused e

/-- A plan by which only writes ever fail. -/
class WritesOnly (φ : Type) [FaultPlan φ] : Prop where
  passes {operation : Operation} (other : operation ≠ .write) (key : String) (plan : φ) :
    (FaultPlan.check operation key plan).1 = none

theorem attempt_passes [WritesOnly φ] {α : Type} {operation : Operation}
    (other : operation ≠ .write) (key : String) (call : β → Except Error α × β)
    (faulty : Faulty φ β) :
    (Faulty.attempt operation key call faulty).1 = (call faulty.store).1 ∧
      (Faulty.attempt operation key call faulty).2.store = (call faulty.store).2 := by
  rcases attempt_outcome operation key call faulty with ⟨_, passed⟩ | ⟨e, due, _⟩
  · exact passed
  · cases (WritesOnly.passes other key faulty.plan).symm.trans due

end Faulty

/-- What befalls the writes to come, one after another; beyond the last, none fails. -/
structure WriteFaults where
  upcoming : List (Option Error)

instance : FaultPlan WriteFaults where
  check
    | .write, _, ⟨fate :: rest⟩ => (fate, ⟨rest⟩)
    | _, _, plan => (none, plan)

instance : WritesOnly WriteFaults where
  passes {operation} other key plan := by
    cases operation with
    | write => exact absurd rfl other
    | read => rfl
    | delete => rfl

/-! The fields and the token -/

theorem run_map {α β γ : Type} [Backend β] (f : α → γ) (calls : Calls α) (store : β) :
    (calls.map f).run store = (f (calls.run store).1, (calls.run store).2) := by
  induction calls generalizing store with
  | done a => rfl
  | read key next ih => exact ih _ _
  | write key value next ih => exact ih _ _
  | delete key next ih => exact ih _ _

def withField (field : Field) (value : Value) (holdings : Holdings) : Holdings :=
  Function.update holdings fieldsKey
    (some (.object (Members.insert (FieldStore.fieldsOf (holdings fieldsKey)) field.key value)))

def tokenIn : Option Value → String
  | some (.text token) => token
  | _ => ""

def fieldIn (holdings : Holdings) (field : Field) : Value :=
  FieldStore.valueIn (FieldStore.fieldsOf (holdings fieldsKey)) field.key

theorem listOf_texts (items : List String) : FieldStore.listOf (Json.texts items) = items := by
  simp only [FieldStore.listOf, Json.texts, Json.onlyTexts, List.filterMap_map]
  exact List.filterMap_some

theorem field_key_injective {field other : Field} (same : other.key = field.key) :
    other = field := by
  cases field <;> cases other <;> simp_all [Field.key]

theorem fieldIn_withField_same (field : Field) {value : Value} (present : value ≠ .null)
    (holdings : Holdings) : fieldIn (withField field value holdings) field = value := by
  unfold fieldIn withField
  rw [Function.update_self]
  simp only [FieldStore.fieldsOf, FieldStore.valueIn, get_insert_same]

theorem fieldIn_withField_other {field other : Field} (different : other ≠ field) (value : Value)
    (holdings : Holdings) : fieldIn (withField field value holdings) other = fieldIn holdings other := by
  have keys : other.key ≠ field.key := fun same => different (field_key_injective same)
  unfold fieldIn withField
  rw [Function.update_self]
  simp only [FieldStore.fieldsOf, FieldStore.valueIn, get_insert_other value keys]

theorem withField_outside {key : String} (outside : key ≠ fieldsKey) (field : Field)
    (value : Value) (holdings : Holdings) : withField field value holdings key = holdings key :=
  Function.update_of_ne outside _ _

theorem token_key_outside : TokenStore.key ≠ fieldsKey := by decide

end Storage

end SessionGate
