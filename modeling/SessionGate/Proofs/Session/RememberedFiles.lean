import SessionGate.Proofs.Session.Remembering
import SessionGate.Proofs.Storage.Nesting

/- A document in a file remembers privileges. It is written and read again as a whole, and with it whatever else
   is in it, doubles included, which may come back as other ones; lists of texts come back as they were. Where
   a step on the files fails the document stays as it is. -/
namespace SessionGate.Session

open Json (Value Members ButDoubles maxLevels)
open Storage Privileges

theorem listOf_butDoubles {value kept : Value} (alike : ButDoubles value kept) :
    FieldStore.listOf kept = FieldStore.listOf value := by
  cases alike with
  | array each => exact Json.onlyTexts_butDoubles each
  | _ => rfl

theorem valueIn_butDoubles {fields : Members} {kept : Value → Value}
    (each : ∀ member ∈ fields, ButDoubles member.2 (kept member.2)) (name : String) :
    ButDoubles (FieldStore.valueIn fields name)
      (FieldStore.valueIn (Json.readMembersAs kept fields) name) := by
  have found : Members.get? (Json.readMembersAs kept fields) name =
      (Members.get? fields name).map kept := Members.get_revalue (fun _ => kept) fields name
  unfold FieldStore.valueIn
  rw [found]
  cases known : Members.get? fields name with
  | none => exact .same _
  | some value =>
    have alike : ButDoubles value (kept value) := each (name, value) (Members.mem_of_get known)
    simp only [Option.map_some]
    generalize kept value = read at alike
    cases alike with
    | same => exact .same _
    | real x y => exact .real x y
    | array each => exact .array each
    | object each => exact .object each

theorem fieldIn_reread {entries kept : Members} (alike : ButDoubles (.object entries) (.object kept))
    (field : Field) :
    ButDoubles (fieldIn (Members.get? entries) field) (fieldIn (Members.get? kept) field) := by
  unfold fieldIn
  cases alike with
  | same => exact .same _
  | @object _ read each =>
    have found : Members.get? (Json.readMembersAs read entries) fieldsKey =
        (Members.get? entries fieldsKey).map read := Members.get_revalue (fun _ => read) entries _
    rw [found]
    cases known : Members.get? entries fieldsKey with
    | none => exact .same _
    | some value =>
      have alike := each (fieldsKey, value) (Members.mem_of_get known)
      simp only [Option.map_some]
      generalize read value = kept at alike
      cases alike with
      | object each => exact valueIn_butDoubles each field.key
      | _ => exact .same _

theorem privilegesIn_reread {entries kept : Members}
    (alike : ButDoubles (.object entries) (.object kept)) :
    privilegesIn (Members.get? kept fieldsKey) = privilegesIn (Members.get? entries fieldsKey) := by
  have lists (field : Field) := listOf_butDoubles (fieldIn_reread alike field)
  exact congrArg₂ Privileges.mk (lists .roles) (lists .permissions)

/-- The document can be read, and has these privileges. -/
def HasPrivileges (store : FileStore) (held : Privileges) : Prop :=
  Usable store ∧ ∃ entries, store.load = .ok entries ∧
    privilegesIn (Members.get? entries fieldsKey) = held

theorem Usable.hasPrivileges {store : FileStore} (usable : Usable store) :
    ∃ held, HasPrivileges store held := by
  obtain ⟨entries, loaded⟩ := usable.loads
  exact ⟨_, usable, entries, loaded, rfl⟩

theorem made_done_privileges {store : FileStore} {entries : Members}
    (loaded : store.load = .ok entries) {change : Change} (writable : change.Writable)
    (done : (change.made store).1 = .ok ()) :
    HasPrivileges (change.made store).2
      (privilegesIn (Members.get? (change.edit entries) fieldsKey)) := by
  obtain ⟨found, kept, again, new, reread, alike⟩ := made_reads writable done
  cases loaded.symm.trans again
  exact ⟨usable_of_made writable done, kept, (load_of_read new).trans reread,
    privilegesIn_reread alike⟩

theorem made_failed_privileges {store : FileStore} {held : Privileges}
    (known : HasPrivileges store held) {change : Change} {e : Storage.Error}
    (failed : (change.made store).1 = .error e) : HasPrivileges (change.made store).2 held := by
  obtain ⟨⟨content, entries, read, document⟩, has⟩ := known
  have kept := failed_keeps read failed
  have same := (load_of_read kept).trans (load_of_read read).symm
  exact ⟨⟨content, entries, kept, document⟩, same ▸ has⟩

theorem made_taken {store : FileStore} {entries : Members} (usable : Usable store)
    (loaded : store.load = .ok entries) {change : Change} (writable : change.Writable) :
    ∃ after, HasPrivileges (change.made store).2 after ∧
      Taken (change.made store).1 (privilegesIn (Members.get? entries fieldsKey))
        (privilegesIn (Members.get? (change.edit entries) fieldsKey)) after := by
  cases answer : (change.made store).1 with
  | ok done => exact ⟨_, made_done_privileges loaded writable answer, Or.inl rfl⟩
  | error e =>
    have known : HasPrivileges store (privilegesIn (Members.get? entries fieldsKey)) :=
      ⟨usable, entries, loaded, rfl⟩
    exact ⟨_, made_failed_privileges known answer, Or.inr ⟨⟨e, rfl⟩, rfl⟩⟩

/-- The change to a document that stores a field. -/
def fieldChange (update : Update) (entries : Members) : Change :=
  .written fieldsKey (.object (Members.insert (FieldStore.fieldsOf (Members.get? entries fieldsKey))
    update.field.key update.value))

section Documents

variable {store : FileStore} {entries : Members}

theorem put_made (loaded : store.load = .ok entries) (update : Update) :
    update.put.run store = (fieldChange update entries).made store := by
  simp only [Update.put, FieldStore.put, FieldStore.change, Calls.run, read_loaded loaded]
  rfl

theorem fieldChange_writable (loaded : store.load = .ok entries) (update : Update) :
    (fieldChange update entries).Writable := by
  have exact := update_value_kept update
  have fields : (Value.object (FieldStore.fieldsOf (Members.get? entries fieldsKey))).Sound
      (maxLevels - 2 + 1) := fieldsOf_sound (load_sound loaded)
  exact fields.insert update.field.key ⟨exact.fits, exact.whole.legible⟩

theorem loaded_of_put {update : Update} (done : (update.put.run store).1 = .ok ()) :
    ∃ entries, store.load = .ok entries := by
  cases loaded : store.load with
  | ok entries => exact ⟨entries, rfl⟩
  | error e =>
    rw [(FileStore.refuses_of_load loaded).run update.put] at done
    cases done

theorem token_writable (token : String) : (Change.written TokenStore.key (.text token)).Writable :=
  ⟨.text token, .text token⟩

theorem deleted_writable (key : String) : (Change.deleted key).Writable := trivial

theorem other_kept {held : Privileges} (known : HasPrivileges store held) {change : Change}
    (writable : change.Writable) (other : ∀ entries,
      Members.get? (change.edit entries) fieldsKey = Members.get? entries fieldsKey) :
    HasPrivileges (change.made store).2 held := by
  obtain ⟨usable, entries, loaded, rfl⟩ := known
  obtain ⟨after, later, taken⟩ := made_taken usable loaded writable
  rw [other] at taken
  obtain rfl := taken.elim id And.right
  exact later

end Documents

instance : Remembering FileStore where
  Remembers := HasPrivileges
  read_keeps _ _ _ known := known
  read_answers known stored answered := by
    obtain ⟨_, entries, loaded, rfl⟩ := known
    rw [read_loaded loaded] at answered
    cases answered
    rfl
  put_settles update store held known := by
    obtain ⟨usable, entries, loaded, rfl⟩ := known
    have taken := made_taken usable loaded (fieldChange_writable loaded update)
    rw [put_made loaded update]
    simp only [fieldChange, Change.edit, Members.get_insert_same, privilegesIn_update] at taken ⊢
    exact taken
  clear_settles {store held} known := by
    obtain ⟨usable, entries, loaded, rfl⟩ := known
    have taken := made_taken usable loaded (deleted_writable fieldsKey)
    simp only [Change.edit, Members.get_erase_same] at taken
    exact taken
  token_set_keeps token store held known :=
    other_kept known (token_writable token) fun _ =>
      Members.get_insert_other _ (Ne.symm token_key_outside)
  token_remove_keeps {store held} known :=
    other_kept known (deleted_writable TokenStore.key) fun entries =>
      Members.get_erase_other entries (Ne.symm token_key_outside)
  known_of_put {update store} done := by
    obtain ⟨entries, loaded⟩ := loaded_of_put done
    rw [put_made loaded update] at done ⊢
    exact ⟨_, made_done_privileges loaded (fieldChange_writable loaded update) done⟩
  known_of_removal done :=
    Usable.hasPrivileges (usable_of_made (deleted_writable TokenStore.key) done)

instance : Recalling FileStore where
  read_succeeds known := by
    obtain ⟨_, entries, loaded, _⟩ := known
    exact ⟨_, congrArg Prod.fst (read_loaded loaded fieldsKey)⟩

end SessionGate.Session
