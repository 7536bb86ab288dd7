import SessionGate.Proofs.Storage.Holdings

/- Stores whose token is veiled: one fixed text stands in the place of any that is not empty. Whatever the
   field store does comes to the same on a store and on its veiled one, and so does what the token store does
   with veiled tokens. -/
namespace SessionGate

open Json (Value Members)

/-- What is left of a token once its text is taken away. -/
def veil (token : String) : String := if token = "" then "" else "*"

theorem veil_empty_iff (token : String) : veil token = "" ↔ token = "" := by
  unfold veil
  split <;> simp_all

theorem veil_eq_iff (token other : String) :
    veil token = veil other ↔ (token = "" ↔ other = "") := by
  unfold veil
  split <;> split <;> simp_all

/-- What tells the same of a veiled state tells the same of any two that are the same once veiled. -/
theorem told_alike {σ α : Type} (veiled : σ → σ) (tell : σ → α)
    (blind : ∀ state, tell (veiled state) = tell state) {left right : σ}
    (same : veiled left = veiled right) : tell left = tell right := by
  rw [← blind left, same, blind]

namespace Storage

open Json.Members (revalue get_revalue insert_revalue erase_revalue)

/-! Calls that leave a key alone -/

def Calls.Avoids {α : Type} (key : String) : Calls α → Prop
  | .done _ => True
  | .read asked next => asked ≠ key ∧ ∀ answer, (next answer).Avoids key
  | .write asked _ next => asked ≠ key ∧ ∀ answer, (next answer).Avoids key
  | .delete asked next => asked ≠ key ∧ ∀ answer, (next answer).Avoids key

section Avoiding

variable {α γ : Type} {key : String}

theorem Calls.Avoids.map {calls : Calls α} (avoids : calls.Avoids key) (f : α → γ) :
    (calls.map f).Avoids key := by
  induction calls with
  | done a => trivial
  | read asked next ih => exact ⟨avoids.1, fun answer => ih answer (avoids.2 answer)⟩
  | write asked value next ih => exact ⟨avoids.1, fun answer => ih answer (avoids.2 answer)⟩
  | delete asked next ih => exact ⟨avoids.1, fun answer => ih answer (avoids.2 answer)⟩

variable (other : fieldsKey ≠ key)
include other

theorem change_avoids (f : Members → Members) : (FieldStore.change f).Avoids key := by
  refine ⟨other, fun answer => ?_⟩
  cases answer with
  | error e => trivial
  | ok stored => exact ⟨other, fun _ => trivial⟩

theorem get_avoids (name : String) : (FieldStore.get name).Avoids key := by
  refine ⟨other, fun answer => ?_⟩
  cases answer <;> trivial

end Avoiding

/-! Veiled stores -/

def veilValue (key : String) (value : Value) : Value :=
  match value with
  | .text token => if key = TokenStore.key then .text (veil token) else .text token
  | value => value

theorem veilValue_other {key : String} (other : key ≠ TokenStore.key) (value : Value) :
    veilValue key value = value := by
  unfold veilValue
  split
  · exact if_neg other
  · rfl

def Memory.veiled (store : Memory) : Memory := ⟨revalue veilValue store.entries⟩

section Veiling

variable (key : String) (store : Memory)

theorem read_veiled : Backend.read key store.veiled =
    (.ok ((Members.get? store.entries key).map (veilValue key)), store.veiled) := by
  rw [← get_revalue]
  rfl

theorem write_veiled (value : Value) : Backend.write key (veilValue key value) store.veiled =
    (.ok (), (Backend.write key value store).2.veiled) := by
  simp only [Memory.veiled, Backend.write, insert_revalue]

theorem delete_veiled : Backend.delete key store.veiled =
    (.ok (), (Backend.delete key store).2.veiled) := by
  simp only [Memory.veiled, Backend.delete, erase_revalue]

variable {key} {store}

theorem read_other (other : key ≠ TokenStore.key) :
    Backend.read key store.veiled = ((Backend.read key store).1, store.veiled) := by
  have kept : veilValue key = id := funext (veilValue_other other)
  rw [read_veiled, kept, Option.map_id_fun, id]
  rfl

theorem write_other (other : key ≠ TokenStore.key) (value : Value) :
    Backend.write key value store.veiled =
      (.ok (), (Backend.write key value store).2.veiled) := by
  have written := write_veiled key store value
  rwa [veilValue_other other] at written

theorem Calls.Avoids.run_veiled {α : Type} {calls : Calls α} (avoids : calls.Avoids TokenStore.key)
    (store : Memory) : calls.run store.veiled = ((calls.run store).1, (calls.run store).2.veiled) := by
  induction calls generalizing store with
  | done a => rfl
  | read asked next ih =>
    simp only [Calls.run, read_other avoids.1]
    exact ih _ (avoids.2 _) store
  | write asked value next ih =>
    simp only [Calls.run, write_other avoids.1]
    exact ih _ (avoids.2 _) _
  | delete asked next ih =>
    simp only [Calls.run, delete_veiled]
    exact ih _ (avoids.2 _) _

theorem token_get_veiled (store : Memory) : TokenStore.get.run store.veiled =
    (veil (TokenStore.get.run store).1, (TokenStore.get.run store).2.veiled) := by
  simp only [TokenStore.get, Calls.run, read_veiled]
  simp only [Backend.read]
  cases Members.get? store.entries TokenStore.key with
  | none => rfl
  | some value => cases value <;> rfl

theorem token_set_veiled (token : String) (store : Memory) :
    (TokenStore.set (veil token)).run store.veiled =
      (.ok (), ((TokenStore.set token).run store).2.veiled) :=
  write_veiled TokenStore.key store (.text token)

theorem text_get_veiled (field : Field) (store : Memory) :
    (FieldStore.getText field).run store.veiled =
      (((FieldStore.getText field).run store).1, ((FieldStore.getText field).run store).2.veiled) :=
  ((get_avoids (Ne.symm token_key_outside) field.key).map _).run_veiled store

theorem list_get_veiled (field : Field) (store : Memory) :
    (FieldStore.getList field).run store.veiled =
      (((FieldStore.getList field).run store).1, ((FieldStore.getList field).run store).2.veiled) :=
  ((get_avoids (Ne.symm token_key_outside) field.key).map _).run_veiled store

theorem put_veiled (field : Field) (value : Value) (store : Memory) :
    (FieldStore.put field value).run store.veiled =
      (((FieldStore.put field value).run store).1,
        ((FieldStore.put field value).run store).2.veiled) :=
  (change_avoids (Ne.symm token_key_outside) fun fields =>
    Members.insert fields field.key value).run_veiled store

end Veiling

end Storage

end SessionGate
