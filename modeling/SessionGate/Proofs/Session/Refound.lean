import SessionGate.Proofs.Session.FieldByField
import SessionGate.Proofs.Session.RememberedFiles

/- A profile that is stored in a file is found again when a session resumes, whatever else is in the document.
   Doubles elsewhere in it may come back as other ones, but the fields are texts and lists of texts. -/
namespace SessionGate.Session

open Json (Value Members ButDoubles)
open Storage

/-! What a document stands for -/

section Loaded

variable {store : FileStore} {entries : Members}

theorem token_loaded (loaded : store.load = .ok entries) :
    TokenStore.get.run store = (tokenIn (Members.get? entries TokenStore.key), store) := by
  simp only [TokenStore.get, Calls.run, read_loaded loaded]
  unfold tokenIn
  cases Members.get? entries TokenStore.key with
  | none => rfl
  | some value => cases value <;> rfl

theorem field_loaded (loaded : store.load = .ok entries) (field : Field) :
    (FieldStore.get field.key).run store = (fieldIn (Members.get? entries) field, store) := by
  simp only [FieldStore.get, Calls.run, read_loaded loaded]
  rfl

theorem text_loaded (loaded : store.load = .ok entries) (field : Field) :
    (FieldStore.getText field).run store =
      (FieldStore.textOf (fieldIn (Members.get? entries) field), store) := by
  rw [FieldStore.getText, run_map, field_loaded loaded]

theorem list_loaded (loaded : store.load = .ok entries) (field : Field) :
    (FieldStore.getList field).run store =
      (FieldStore.listOf (fieldIn (Members.get? entries) field), store) := by
  rw [FieldStore.getList, run_map, field_loaded loaded]

theorem resume_loaded (loaded : store.load = .ok entries) :
    resume store = ⟨recordIn (Members.get? entries), store⟩ := by
  simp only [resume, token_loaded loaded, text_loaded loaded, list_loaded loaded, recordIn]

theorem recordIn_of_fields {fresh : Record} {holdings : Holdings}
    (each : ∀ field, fieldIn holdings field = fresh.value field) :
    recordIn holdings = { fresh with token := tokenIn (holdings TokenStore.key) } := by
  simp only [recordIn, each]
  simp only [Record.value, Update.ofRecord, Update.value, FieldStore.textOf, listOf_texts]

end Loaded

/-! Fields that are stored in a file -/

/-- The document can be read, and has these fields as a record has them. -/
def HasFields (fresh : Record) (fields : List Field) (store : FileStore) : Prop :=
  ∃ entries, store.load = .ok entries ∧
    ∀ field ∈ fields, fieldIn (Members.get? entries) field = fresh.value field

theorem HasFields.fewer {fresh : Record} {fields others : List Field} {store : FileStore}
    (has : HasFields fresh fields store) (fewer : others ⊆ fields) : HasFields fresh others store := by
  obtain ⟨entries, loaded, each⟩ := has
  exact ⟨entries, loaded, fun field among => each field (fewer among)⟩

/-- A field that is stored is there, and the others are as they were, but for their doubles. -/
theorem put_reread {store : FileStore} {entries : Members} (loaded : store.load = .ok entries)
    {update : Update} (done : (update.put.run store).1 = .ok ()) :
    ∃ kept, (update.put.run store).2.load = .ok kept ∧ ∀ field,
      ButDoubles (fieldIn (withField update.field update.value (Members.get? entries)) field)
        (fieldIn (Members.get? kept) field) := by
  rw [put_made loaded] at done ⊢
  obtain ⟨found, kept, again, new, reread, alike⟩ :=
    made_reads (fieldChange_writable loaded update) done
  cases loaded.symm.trans again
  refine ⟨kept, (load_of_read new).trans reread, fun field => ?_⟩
  have same := fieldIn_reread alike field
  rwa [fieldChange, Change.edit, Members.get_insert] at same

theorem ofRecord_field (fresh : Record) (field : Field) : (Update.ofRecord fresh field).field = field := by
  cases field <;> rfl

theorem value_whole (fresh : Record) (field : Field) : (fresh.value field).Whole :=
  (update_value_kept (Update.ofRecord fresh field)).whole

theorem HasFields.put {fresh : Record} {fields : List Field} {store : FileStore}
    (has : HasFields fresh fields store) {field : Field}
    (done : ((storeField fresh field).run store).1 = .ok ()) :
    HasFields fresh (field :: fields) ((storeField fresh field).run store).2 := by
  obtain ⟨entries, loaded, each⟩ := has
  rw [← put_ofRecord] at done ⊢
  obtain ⟨kept, reloaded, alike⟩ := put_reread loaded done
  refine ⟨kept, reloaded, fun asked among => ?_⟩
  have stored : fieldIn (holdField fresh (Members.get? entries) field) asked = fresh.value asked := by
    by_cases same : asked = field
    · subst same
      exact fieldIn_withField_same asked (update_value_present _) _
    · rw [holdField, fieldIn_withField_other same]
      exact each asked ((List.mem_cons.mp among).resolve_left same)
  have same := alike asked
  rw [ofRecord_field] at same
  change ButDoubles (fieldIn (holdField fresh (Members.get? entries) field) asked) _ at same
  rw [stored] at same
  exact (value_whole fresh asked).kept same

/-! What comes of a profile -/

section Commits

variable {β : Type} [Backend β] {session : Session β}

theorem commit_done {update : Update} (done : (commit update session).1 = .ok ()) :
    (update.put.run session.store).1 = .ok () ∧ (commit update session).2 =
      ⟨update.apply session.record, (update.put.run session.store).2⟩ := by
  rw [commit_taking] at done ⊢
  cases answer : ((FieldStore.put update.field update.value).run session.store).1 with
  | ok stored =>
    rw [taking_done answer]
    exact ⟨answer, rfl⟩
  | error e =>
    rw [taking_refused answer] at done
    cases done

theorem commitAll_taken {updates : List Update} (done : (commitAll updates session).1 = .ok ()) :
    (commitAll updates session).2.record = updates.foldl Update.apply session.record := by
  induction updates generalizing session with
  | nil => rfl
  | cons update rest ih =>
    obtain ⟨first, same⟩ := commitAll_cons_done done
    rw [same] at done ⊢
    rw [ih done, (commit_done first).2]
    rfl

end Commits

theorem HasFields.commitAll {fresh : Record} {before fields : List Field}
    {session : Session FileStore} (has : HasFields fresh before session.store)
    (done : (commitAll (fields.map (Update.ofRecord fresh)) session).1 = .ok ()) :
    HasFields fresh (fields ++ before)
      (Session.commitAll (fields.map (Update.ofRecord fresh)) session).2.store := by
  induction fields generalizing before session with
  | nil => exact has
  | cons field rest ih =>
    obtain ⟨first, same⟩ := commitAll_cons_done done
    obtain ⟨stored, next⟩ := commit_done first
    rw [put_ofRecord] at stored next
    have kept : HasFields fresh (field :: before)
        (commit (Update.ofRecord fresh field) session).2.store := next ▸ has.put stored
    rw [List.map_cons, same] at done ⊢
    refine (ih kept done).fewer ?_
    rw [List.cons_append]
    exact List.perm_middle.symm.subset

theorem fetched_record_is_found_again {settings : AvatarSettings} {profile told : Remote.Profile}
    {session : Session FileStore}
    (done : (finishProfile settings (.ok profile) session).1 = .ok told) :
    told = profile ∧ ∃ fresh token, CalledFor settings session.record profile fresh ∧
      (finishProfile settings (.ok profile) session).2.record = fresh ∧
      (resume (finishProfile settings (.ok profile) session).2.store).record =
        { fresh with token := token } := by
  obtain ⟨fresh, calledFor, updates⟩ := updatesOf_called_for settings session.record profile
  have finished : finishProfile settings (.ok profile) session =
      ((commitAll (Field.all.map (Update.ofRecord fresh)) session).1.map fun _ => profile,
        (commitAll (Field.all.map (Update.ofRecord fresh)) session).2) := by
    rw [← updates]
    rfl
  rw [finished] at done ⊢
  cases committed : (commitAll (Field.all.map (Update.ofRecord fresh)) session).1 with
  | error e =>
    rw [committed] at done
    cases done
  | ok taken =>
    rw [committed] at done
    cases done
    obtain ⟨entries, loaded⟩ := loaded_of_put (commit_done (commitAll_cons_done committed).1).1
    have has : HasFields fresh [] session.store := ⟨entries, loaded, nofun⟩
    obtain ⟨kept, reloaded, each⟩ := has.commitAll committed
    have record := commitAll_taken committed
    have whole : fresh = { fresh with token := session.record.token } := by rw [← calledFor.token]
    refine ⟨rfl, fresh, tokenIn (Members.get? kept TokenStore.key), calledFor,
      record.trans whole.symm, ?_⟩
    rw [resume_loaded reloaded, recordIn_of_fields fun field => each field ?_]
    cases field <;> decide

/-! Stores in which all fields can be stored -/

/-- The document can be read, and can be saved whatever is in it. -/
structure Serves (store : FileStore) : Prop where
  loads : ∃ entries, store.load = .ok entries
  saves : store.Saves

theorem Serves.made {store : FileStore} (serves : Serves store) {change : Change}
    (writable : change.Writable) : (change.made store).1 = .ok () ∧ Serves (change.made store).2 := by
  obtain ⟨entries, loaded⟩ := serves.loads
  have made : change.made store = store.save (change.edit entries) := by
    rw [change.made_eq, FileStore.change, loaded]
  have done := serves.saves.save_done (change.edit entries)
  have again := (FileStore.lasts_of_save done).2
  rw [← made] at done again
  exact ⟨done, (usable_of_made writable done).loads, again⟩

theorem Serves.commit {session : Session FileStore} (serves : Serves session.store) (update : Update) :
    (Session.commit update session).1 = .ok () ∧
      (Session.commit update session).2.store.path = session.store.path ∧
      Serves (Session.commit update session).2.store := by
  obtain ⟨entries, loaded⟩ := serves.loads
  obtain ⟨stored, next⟩ := serves.made (fieldChange_writable loaded update)
  rw [commit_taking, ← Update.put, put_made loaded, taking_done stored]
  exact ⟨rfl, made_path _ _, next⟩

theorem Serves.commitAll {session : Session FileStore} (serves : Serves session.store)
    (updates : List Update) : (Session.commitAll updates session).1 = .ok () ∧
      (Session.commitAll updates session).2.store.path = session.store.path ∧
      Serves (Session.commitAll updates session).2.store := by
  induction updates generalizing session with
  | nil => exact ⟨rfl, rfl, serves⟩
  | cons update rest ih =>
    obtain ⟨done, place, next⟩ := serves.commit update
    have committed : Session.commit update session = (.ok (), (Session.commit update session).2) :=
      Prod.ext done rfl
    obtain ⟨all, kept, last⟩ := ih next
    rw [Session.commitAll, committed]
    exact ⟨all, kept.trans place, last⟩

theorem Serves.fetched {session : Session FileStore} (serves : Serves session.store)
    (settings : AvatarSettings) (profile : Remote.Profile) :
    (finishProfile settings (.ok profile) session).1 = .ok profile := by
  simp only [finishProfile, (serves.commitAll _).1]
  rfl

end SessionGate.Session
