import SessionGate.Proofs.Storage.OneKey

/- The field store seen from outside: a map from names to values that lives under one key of its backend,
   with the token beside it. Whatever is done in turn to both over a store in order, the answers are those of
   the map and of the token, and no other key is touched. -/
namespace SessionGate.Storage

open Json (Value Members)

/-! The work of both clients -/

inductive FieldWork where
  | set (name : String) (value : Value)
  | put (field : Field) (value : Value)
  | remove (name : String)
  | clear
  | get (name : String)
  | getText (field : Field)
  | getList (field : Field)

inductive TokenWork where
  | get
  | set (token : String)
  | remove

inductive Errand where
  | fields (work : FieldWork)
  | token (work : TokenWork)

def FieldWork.work : FieldWork → Work
  | .set name value => .set name value
  | .put field value => .put field value
  | .remove name => .remove name
  | .clear => .clear
  | .get name => .get name
  | .getText field => .getText field
  | .getList field => .getList field

def TokenWork.work : TokenWork → Work
  | .get => .getToken
  | .set token => .setToken token
  | .remove => .removeToken

namespace Errand

def work : Errand → Work
  | .fields work => work.work
  | .token work => work.work

def fields? : Errand → Option FieldWork
  | .fields work => some work
  | .token _ => none

def token? : Errand → Option TokenWork
  | .fields _ => none
  | .token work => some work

end Errand

def runErrands {β : Type} [Backend β] : List Errand → β → List Work.Reply × β
  | [], store => ([], store)
  | errand :: rest, store =>
    let (reply, store) := errand.work.calls.run store
    let (replies, store) := runErrands rest store
    (reply :: replies, store)

/-! The map -/

abbrev FieldMap := String → Option Value

def fieldNames : List String := ["user_id", "user_name", "user_avatar", "user_roles", "user_permissions"]

/-- What is told of a name; absent and null are the empty text. -/
def FieldMap.shown (fields : FieldMap) (name : String) : Value :=
  match fields name with
  | none | some .null => .text ""
  | some value => value

def FieldWork.onMap (fields : FieldMap) : FieldWork → Work.Reply × FieldMap
  | .set name value =>
    (.done (.ok ()), if name ∈ fieldNames then Function.update fields name (some value) else fields)
  | .put field value => (.done (.ok ()), Function.update fields field.key (some value))
  | .remove name => (.done (.ok ()), Function.update fields name none)
  | .clear => (.done (.ok ()), fun _ => none)
  | .get name => (.value (fields.shown name), fields)
  | .getText field => (.text (FieldStore.textOf (fields.shown field.key)), fields)
  | .getList field => (.texts (FieldStore.listOf (fields.shown field.key)), fields)

def TokenWork.onToken (token : String) : TokenWork → Work.Reply × String
  | .get => (.text token, token)
  | .set token => (.done (.ok ()), token)
  | .remove => (.done (.ok ()), "")

/-- A map and a token, neither of which knows of the other. -/
structure Shelf where
  fields : FieldMap
  token : String

def Errand.onShelf (shelf : Shelf) : Errand → Work.Reply × Shelf
  | .fields work =>
    let (reply, changed) := work.onMap shelf.fields
    (reply, { shelf with fields := changed })
  | .token work =>
    let (reply, changed) := work.onToken shelf.token
    (reply, { shelf with token := changed })

def Shelf.runErrands : List Errand → Shelf → List Work.Reply × Shelf
  | [], shelf => ([], shelf)
  | errand :: rest, shelf =>
    let (reply, shelf) := errand.onShelf shelf
    let (replies, shelf) := Shelf.runErrands rest shelf
    (reply :: replies, shelf)

def FieldMap.after (works : List FieldWork) (fields : FieldMap) : FieldMap :=
  works.foldl (fun fields work => (work.onMap fields).2) fields

def tokenAfter (works : List TokenWork) (token : String) : String :=
  works.foldl (fun token work => (work.onToken token).2) token

theorem Shelf.runErrands_apart (errands : List Errand) (shelf : Shelf) :
    (Shelf.runErrands errands shelf).2 =
      ⟨shelf.fields.after (errands.filterMap Errand.fields?),
        tokenAfter (errands.filterMap Errand.token?) shelf.token⟩ := by
  induction errands generalizing shelf with
  | nil => rfl
  | cons errand rest ih =>
    simp only [Shelf.runErrands, ih]
    cases errand <;> rfl

/-! What the clients do -/

theorem ofKey_key {name : String} {field : Field} (known : Field.ofKey? name = some field) :
    field.key = name := by
  simpa using List.find?_some known

theorem ofKey_none_iff (name : String) : Field.ofKey? name = none ↔ name ∉ fieldNames := by
  rw [Field.ofKey?, List.find?_eq_none]
  simp [Field.all, fieldNames, Field.key, eq_comm]

/-! Each keeps to a key of its own -/

section Works

variable (β : Type) [Backend β] [Reliable β]

open Reliable (Storable Settable)

def FieldWork.value? : FieldWork → Option Value
  | .set _ value | .put _ value => some value
  | _ => none

theorem field_work_keeps {work : FieldWork}
    (settable : ∀ value, work.value? = some value → Settable β value) :
    work.work.calls.KeepsTo fieldsKey (Storable β) := by
  cases work with
  | set name value => exact (set_keeps β name (settable value rfl)).map _
  | put field value => exact (put_keeps β field (settable value rfl)).map _
  | remove name =>
    exact (change_keeps β fun _ storable => Reliable.erase_storable storable name).map _
  | clear => exact ⟨rfl, trivial⟩
  | get name => exact (get_keeps β name).map _
  | getText field => exact ((get_keeps β field.key).map _).map _
  | getList field => exact ((get_keeps β field.key).map _).map _

theorem token_work_keeps (work : TokenWork) :
    work.work.calls.KeepsTo TokenStore.key (Storable β) := by
  cases work with
  | get => exact (token_get_keeps β).map _
  | set token => exact ⟨rfl, Reliable.text_storable token, trivial⟩
  | remove => exact ⟨rfl, trivial⟩

end Works

/-! What comes of it -/

def mapOf (stored : Option Value) : FieldMap := Members.get? (FieldStore.fieldsOf stored)

def shelfIn (held : Holdings) : Shelf := ⟨mapOf (held fieldsKey), tokenIn (held TokenStore.key)⟩

theorem set_on_map (name : String) (value : Value) (stored : Option Value) :
    ((FieldStore.set name value).onValue stored).1 = .ok () ∧
      mapOf ((FieldStore.set name value).onValue stored).2 =
        if name ∈ fieldNames then Function.update (mapOf stored) name (some value)
        else mapOf stored := by
  unfold FieldStore.set
  cases known : Field.ofKey? name with
  | none =>
    rw [if_neg ((ofKey_none_iff name).mp known)]
    exact ⟨rfl, rfl⟩
  | some field =>
    have listed : name ∈ fieldNames := by
      by_contra absent
      cases known.symm.trans ((ofKey_none_iff name).mpr absent)
    rw [if_pos listed, ← ofKey_key known]
    exact ⟨rfl, Members.get_insert _ field.key value⟩

theorem field_work_on_map (work : FieldWork) (stored : Option Value) :
    (work.work.calls.onValue stored).1 = (work.onMap (mapOf stored)).1 ∧
      mapOf (work.work.calls.onValue stored).2 = (work.onMap (mapOf stored)).2 := by
  cases work with
  | set name value =>
    obtain ⟨done, made⟩ := set_on_map name value stored
    simp only [FieldWork.work, Work.calls, onValue_map, done]
    exact ⟨rfl, made⟩
  | put field value => exact ⟨rfl, Members.get_insert _ field.key value⟩
  | remove name => exact ⟨rfl, Members.get_erase _ name⟩
  | clear => exact ⟨rfl, rfl⟩
  | get name | getText field | getList field => exact ⟨rfl, rfl⟩

theorem token_work_on_token (work : TokenWork) (stored : Option Value) :
    (work.work.calls.onValue stored).1 = (work.onToken (tokenIn stored)).1 ∧
      tokenIn (work.work.calls.onValue stored).2 = (work.onToken (tokenIn stored)).2 := by
  cases work with
  | get =>
    simp only [TokenWork.work, Work.calls, onValue_map, token_get_onValue]
    exact ⟨rfl, rfl⟩
  | set token => exact ⟨rfl, rfl⟩
  | remove => exact ⟨rfl, rfl⟩

/-- The store tells what a map would that began as `first`, and the token what it would with no map
beside it. -/
structure BehavesAsMap {β : Type} [Backend β] (first : FieldMap) (errands : List Errand) (store : β) : Prop where
  replies : (runErrands errands store).1 =
    (Shelf.runErrands errands ⟨first, (TokenStore.get.run store).1⟩).1
  values (name : String) : ((FieldStore.get name).run (runErrands errands store).2).1 =
    (first.after (errands.filterMap Errand.fields?)).shown name
  lists (field : Field) (items : List String)
    (stored : first.after (errands.filterMap Errand.fields?) field.key = some (Json.texts items)) :
    ((FieldStore.getList field).run (runErrands errands store).2).1 = items
  token : (TokenStore.get.run (runErrands errands store).2).1 =
    tokenAfter (errands.filterMap Errand.token?) (TokenStore.get.run store).1
  others (key : String) (outside : key ≠ fieldsKey) (other : key ≠ TokenStore.key) :
    (Backend.read key (runErrands errands store).2).1 = (Backend.read key store).1

section Clients

variable {β : Type} [Backend β] [Reliable β] {store : β} {held : Holdings}

open Reliable (Holds Settable)

/-- A store in order after some work has this on its shelf, and under all other keys what was there before. -/
def Leaves (shelf : Shelf) (before : Holdings) (store : β) : Prop :=
  ∃ after, Holds store after ∧ shelfIn after = shelf ∧
    ∀ key, key ≠ fieldsKey → key ≠ TokenStore.key → after key = before key

theorem errand_follows (holds : Holds store held) {errand : Errand}
    (settable : ∀ work, errand = .fields work → ∀ value, work.value? = some value → Settable β value) :
    (errand.work.calls.run store).1 = (errand.onShelf (shelfIn held)).1 ∧
      Leaves (errand.onShelf (shelfIn held)).2 held (errand.work.calls.run store).2 := by
  cases errand with
  | fields work =>
    obtain ⟨told, after⟩ := run_on_value holds (field_work_keeps β (settable work rfl))
    obtain ⟨reply, fields⟩ := field_work_on_map work (held fieldsKey)
    refine ⟨told.trans reply, _, after, ?_, fun key outside _ => Function.update_of_ne outside _ _⟩
    simp only [shelfIn, Function.update_self, Function.update_of_ne token_key_outside]
    exact congrArg (Shelf.mk · _) fields
  | token work =>
    obtain ⟨told, after⟩ := run_on_value holds (token_work_keeps β work)
    obtain ⟨reply, token⟩ := token_work_on_token work (held TokenStore.key)
    refine ⟨told.trans reply, _, after, ?_, fun key _ other => Function.update_of_ne other _ _⟩
    simp only [shelfIn, Function.update_self, Function.update_of_ne token_key_outside.symm]
    exact congrArg (Shelf.mk _) token

theorem errands_follow (holds : Holds store held) {errands : List Errand}
    (settable : ∀ work, .fields work ∈ errands → ∀ value, work.value? = some value →
      Settable β value) :
    (runErrands errands store).1 = (Shelf.runErrands errands (shelfIn held)).1 ∧
      Leaves (Shelf.runErrands errands (shelfIn held)).2 held (runErrands errands store).2 := by
  induction errands generalizing store held with
  | nil => exact ⟨rfl, held, holds, rfl, fun _ _ _ => rfl⟩
  | cons errand rest ih =>
    obtain ⟨reply, between, next, shelf, kept⟩ := errand_follows holds
      fun work same => settable work (same ▸ List.mem_cons_self)
    obtain ⟨replies, last, final, shelves, others⟩ :=
      ih next fun work among => settable work (List.mem_cons_of_mem _ among)
    rw [shelf] at replies shelves
    refine ⟨?_, last, final, shelves, fun key outside other => ?_⟩
    · simp only [runErrands, Shelf.runErrands, reply, replies]
    · exact (others key outside other).trans (kept key outside other)

theorem listOf_shown {fields : FieldMap} {name : String} {items : List String}
    (stored : fields name = some (Json.texts items)) :
    FieldStore.listOf (fields.shown name) = items := by
  have shown : fields.shown name = Json.texts items := by
    simp only [FieldMap.shown, stored]
    rfl
  rw [shown, listOf_texts]

theorem field_store_is_a_map (holds : Holds store held) {errands : List Errand}
    (settable : ∀ work, .fields work ∈ errands → ∀ value, work.value? = some value →
      Settable β value)
    {stored : Option Value} (found : (Backend.read fieldsKey store).1 = .ok stored) :
    BehavesAsMap (Members.get? (FieldStore.fieldsOf stored)) errands store := by
  have same : held fieldsKey = stored :=
    Except.ok.inj ((Reliable.reads fieldsKey holds).1.symm.trans found)
  have first : shelfIn held = ⟨mapOf stored, (TokenStore.get.run store).1⟩ := by
    rw [shelfIn, same, token_get_told holds]
  obtain ⟨replies, after, final, shelf, kept⟩ := errands_follow holds settable
  rw [first] at replies shelf
  have apart := shelf.trans (Shelf.runErrands_apart errands _)
  have fields : mapOf (after fieldsKey) = _ := congrArg Shelf.fields apart
  have values (name : String) : ((FieldStore.get name).run (runErrands errands store).2).1 =
      (mapOf (after fieldsKey)).shown name := (run_on_value final (get_keeps β name)).1
  refine ⟨replies, fun name => ?_, fun field items kept => ?_, ?_, fun key outside other => ?_⟩
  · rw [values name, fields]
    rfl
  · rw [FieldStore.getList, run_map, values field.key]
    exact listOf_shown ((congrFun fields field.key).trans kept)
  · rw [token_get_told final]
    exact congrArg Shelf.token apart
  · rw [(Reliable.reads key final).1, (Reliable.reads key holds).1, kept key outside other]

end Clients

/- What is stored is a text, and the first change makes it an object. The token outlasts the fields. -/
theorem fields_replace_a_text :
    Reliable.Holds (⟨[(fieldsKey, .text "none"), ("theme", .text "dark")]⟩ : Memory)
        (Members.get? [(fieldsKey, .text "none"), ("theme", .text "dark")]) ∧
      BehavesAsMap (fun _ => none)
        [.fields (.set "color" (.text "red")), .fields (.remove "color"),
          .fields (.set "user_id" (.text "7")), .token (.set "t"), .fields .clear,
          .fields (.put .roles (Json.texts ["b", "a"])), .fields (.getList .roles), .token .get]
        (⟨[(fieldsKey, .text "none"), ("theme", .text "dark")]⟩ : Memory) := by
  have holds : Reliable.Holds (⟨[(fieldsKey, .text "none"), ("theme", .text "dark")]⟩ : Memory)
      (Members.get? [(fieldsKey, .text "none"), ("theme", .text "dark")]) := rfl
  exact ⟨holds, field_store_is_a_map holds (fun _ _ _ _ => trivial) rfl⟩

/-- A file that has a double under a key of nobody's. -/
def doubleBeside : FileStore :=
  ⟨⟨["s.json"]⟩, ⟨.directory [("s.json", .file (Text.encode "\x7b\"other\":3e49\x7d"))], []⟩⟩

/- Other keys are written and read again with each change, and a double may come back as another one. -/
theorem doubles_move_under_other_keys :
    doubleBeside.Saves ∧
      ((FieldStore.set "user_id" (.text "7")).run doubleBeside).1 = .ok () ∧
      ∃ entries, doubleBeside.load = .ok entries ∧
        ¬ BehavesAsMap (mapOf (Members.get? entries fieldsKey))
          [.fields (.set "user_id" (.text "7"))] doubleBeside := by
  have loads : doubleBeside.load.isOk = true := by decide +kernel
  refine ⟨fun _ => rfl, by decide +kernel, ?_⟩
  cases loaded : doubleBeside.load with
  | error e => cases loaded ▸ loads
  | ok entries =>
    refine ⟨entries, rfl, fun behaves => ?_⟩
    have same := behaves.others "other" (by decide) (by decide)
    have written := congrArg (Except.map (Option.map (Json.compact.value 0))) same
    revert written
    decide +kernel

end SessionGate.Storage
