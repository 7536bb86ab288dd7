import SessionGate.Proofs.Session.Restart
import SessionGate.Proofs.Storage.Document

/- Two sessions, one over a file and one over memory. Whatever is done to both, the same comes of it,
   unless an operation on the file fails; and such a failure is never kept from whoever asked. -/
namespace SessionGate.Session

open Storage
open Json (Members maxLevels)

/-! Calls -/

/-- The same came of it in both stores, unless a file operation has failed. -/
inductive Agree (path : Path) :
    Except Storage.Error Unit × FileStore → Except Storage.Error Unit × Memory → Prop where
  | failed {cause : PathError} {store : FileStore} {memory : Except Storage.Error Unit × Memory} :
      Agree path (.error (.path cause), store) memory
  | same {result : Except Storage.Error Unit} {store : FileStore} {memory : Memory}
      (mirrors : Mirrors path store memory) : Agree path (result, store) (result, memory)

section Calls

variable {path : Path} {store : FileStore} {memory : Memory}

theorem change_agrees (mirrors : Mirrors path store memory)
    {f : Members → Members} (keepable : Keepable (f memory.entries)) :
    Agree path (store.change f) (.ok (), ⟨f memory.entries⟩) := by
  have outcome := mirrors.change keepable
  generalize store.change f = changed at outcome ⊢
  obtain ⟨result, after⟩ := changed
  rcases outcome with ⟨cause, failed⟩ | ⟨done, kept⟩
  · obtain rfl : result = .error (.path cause) := failed
    exact .failed
  · obtain rfl : result = .ok () := done
    exact .same kept.mirrors

theorem write_agrees (mirrors : Mirrors path store memory)
    (key : String) {value : Json.Value} (exact : value.Exact (maxLevels - 1)) :
    Agree path (Backend.write key value store) (Backend.write key value memory) :=
  change_agrees mirrors (mirrors.keepable.insert key exact)

theorem delete_agrees (mirrors : Mirrors path store memory)
    (key : String) : Agree path (Backend.delete key store) (Backend.delete key memory) :=
  change_agrees mirrors (mirrors.keepable.erase key)

def Asks {α : Type} : Calls α → Prop
  | .done _ => True
  | .read _ next => ∀ answer, Asks (next answer)
  | .write _ _ _ | .delete _ _ => False

theorem asks_map {α γ : Type} {f : α → γ} {calls : Calls α} (asks : Asks calls) :
    Asks (calls.map f) := by
  induction calls with
  | done a => trivial
  | read key next ih => exact fun answer => ih answer (asks answer)
  | write => exact asks.elim
  | delete => exact asks.elim

theorem token_asks : Asks TokenStore.get := by
  intro answer
  match answer with
  | .error _ => trivial
  | .ok none => trivial
  | .ok (some value) => cases value <;> trivial

theorem field_asks (key : String) : Asks (FieldStore.get key) := by
  intro answer
  cases answer <;> trivial

theorem asks_still {α : Type} {calls : Calls α} (asks : Asks calls) (memory : Memory) :
    (calls.run memory).2 = memory := by
  induction calls with
  | done a => rfl
  | read key next ih => exact ih _ (asks _)
  | write => exact asks.elim
  | delete => exact asks.elim

theorem asks_alike {α : Type} {calls : Calls α} (asks : Asks calls)
    (mirrors : Mirrors path store memory) :
    calls.run store = ((calls.run memory).1, store) := by
  induction calls with
  | done a => rfl
  | read key next ih =>
    simp only [Calls.run, mirrors.read key]
    exact ih _ (asks _)
  | write => exact asks.elim
  | delete => exact asks.elim

theorem text_asks (field : Field) : Asks (FieldStore.getText field) := asks_map (field_asks field.key)

theorem list_asks (field : Field) : Asks (FieldStore.getList field) := asks_map (field_asks field.key)

theorem fields_kept {entries : Members} (keepable : Keepable entries) (key : String) :
    (Json.Value.object (FieldStore.fieldsOf (Members.get? entries key))).Exact (maxLevels - 1) := by
  have none : (Json.Value.object []).Exact (maxLevels - 1) := Json.exact_empty _
  cases known : Members.get? entries key with
  | none => exact none
  | some value =>
    have member := Members.mem_of_get known
    cases value with
    | object members => exact ⟨keepable.fits _ member, keepable.whole _ member⟩
    | _ => exact none

theorem update_value_kept (update : Update) : update.value.Exact (maxLevels - 2) := by
  cases update with
  | userId s | userName s | avatar s => exact Json.exact_text _ s
  | roles items | permissions items => exact Json.exact_texts _ items

theorem put_agrees (mirrors : Mirrors path store memory)
    (update : Update) :
    Agree path ((FieldStore.put update.field update.value).run store)
      ((FieldStore.put update.field update.value).run memory) := by
  have fields : (Json.Value.object (FieldStore.fieldsOf
      (Members.get? memory.entries fieldsKey))).Exact (maxLevels - 2 + 1) :=
    fields_kept mirrors.keepable fieldsKey
  simp only [FieldStore.put, FieldStore.change, Calls.run, mirrors.read fieldsKey]
  exact write_agrees mirrors fieldsKey (fields.insert update.field.key (update_value_kept update))

theorem set_agrees (mirrors : Mirrors path store memory)
    (token : String) :
    Agree path ((TokenStore.set token).run store) ((TokenStore.set token).run memory) :=
  write_agrees mirrors TokenStore.key (Json.exact_text _ token)

end Calls

/-! Sessions -/

/-- The same record, and a file that stands for what is in memory. -/
structure Twins (path : Path) (file : Session FileStore) (kept : Session Memory) : Prop where
  record : file.record = kept.record
  mirrors : Mirrors path file.store kept.store

/-- The same came of it in both sessions, unless a file operation has failed and the session says so. -/
inductive Alike {α : Type} (path : Path) :
    Except Error α × Session FileStore → Except Error α × Session Memory → Prop where
  | lost {cause : PathError} {file : Session FileStore} {kept : Except Error α × Session Memory} :
      Alike path (.error (.storage (.path cause)), file) kept
  | same {result : Except Error α} {file : Session FileStore} {kept : Session Memory}
      (twins : Twins path file kept) : Alike path (result, file) (result, kept)

theorem resume_alike {path : Path} {store : FileStore} {memory : Memory}
    (mirrors : Mirrors path store memory) :
    resume store = ⟨(resume memory).record, store⟩ := by
  have file {α : Type} {calls : Calls α} (asks : Asks calls) := asks_alike asks mirrors
  simp only [resume, file token_asks, file (text_asks _), file (list_asks _),
    asks_still token_asks, asks_still (text_asks _), asks_still (list_asks _)]

theorem exchange_alike {path : Path} {store : FileStore} {memory : Memory}
    (mirrors : Mirrors path store memory)
    (client : Remote.Client) (call : Call) (network : Remote.Network) :
    exchange client call store network = ((exchange client call memory network).1, store,
      (exchange client call memory network).2.2) := by
  cases call with
  | login credentials => rfl
  | profile => simp only [exchange, asks_alike token_asks mirrors, asks_still token_asks]
  | logout token => rfl

theorem exchange_still (client : Remote.Client) (call : Call) (memory : Memory)
    (network : Remote.Network) : (exchange client call memory network).2.1 = memory := by
  cases call with
  | login credentials => simp only [exchange]
  | profile => simp only [exchange, asks_still token_asks]
  | logout token => simp only [exchange]

theorem taking_alike {path : Path} {record taken : Record} {file : Except Storage.Error Unit × FileStore}
    {memory : Except Storage.Error Unit × Memory} (agree : Agree path file memory) :
    Alike path (taking record taken file) (taking record taken memory) := by
  cases agree with
  | failed => exact .lost
  | @same result store memory mirrors =>
    cases result with
    | error e => exact .same ⟨rfl, mirrors⟩
    | ok done => exact .same ⟨rfl, mirrors⟩

theorem Alike.map {α γ : Type} {path : Path} {file : Except Error α × Session FileStore}
    {kept : Except Error α × Session Memory} (alike : Alike path file kept) (f : α → γ) :
    Alike path (file.1.map f, file.2) (kept.1.map f, kept.2) := by
  cases alike with
  | lost => exact .lost
  | same twins => exact .same twins

section Steps

variable {path : Path} {file : Session FileStore} {kept : Session Memory}

theorem commit_alike (twins : Twins path file kept) (update : Update) :
    Alike path (commit update file) (commit update kept) := by
  rw [commit_taking, commit_taking, twins.record]
  exact taking_alike (put_agrees twins.mirrors update)

theorem commitAll_alike (twins : Twins path file kept) (updates : List Update) :
    Alike path (commitAll updates file) (commitAll updates kept) := by
  induction updates generalizing file kept with
  | nil => exact .same twins
  | cons update rest ih =>
    have first := commit_alike twins update
    simp only [commitAll]
    generalize commit update file = stored at first ⊢
    generalize commit update kept = other at first ⊢
    cases first with
    | lost => exact .lost
    | @same result _ _ later =>
      cases result with
      | error e => exact .same later
      | ok done => exact ih later

theorem finishLogin_alike (twins : Twins path file kept)
    (answer : Except Remote.Error Remote.Grant) :
    Alike path (finishLogin answer file) (finishLogin answer kept) := by
  cases answer with
  | error e => exact .same twins
  | ok grant =>
    rw [finishLogin_taking, finishLogin_taking, twins.record]
    exact taking_alike (set_agrees twins.mirrors grant.token)

theorem finishProfile_alike (twins : Twins path file kept) (settings : AvatarSettings)
    (answer : Except Remote.Error Remote.Profile) :
    Alike path (finishProfile settings answer file) (finishProfile settings answer kept) := by
  cases answer with
  | error e => exact .same twins
  | ok profile =>
    simp only [finishProfile, twins.record]
    exact (commitAll_alike twins _).map _

theorem finishLogout_alike (twins : Twins path file kept) (answer : Except Remote.Error Unit) :
    Alike path (finishLogout answer file) (finishLogout answer kept) := by
  cases answer with
  | error e => exact .same twins
  | ok done =>
    have first : Agree path (TokenStore.remove.run file.store) (TokenStore.remove.run kept.store) :=
      delete_agrees twins.mirrors TokenStore.key
    simp only [finishLogout]
    generalize TokenStore.remove.run file.store = removed at first ⊢
    cases first with
    | failed => exact .lost
    | @same _ store _ mirrors =>
      have second : Agree path (FieldStore.clear.run store) (FieldStore.clear.run
          (TokenStore.remove.run kept.store).2) := delete_agrees mirrors fieldsKey
      generalize FieldStore.clear.run store = cleared at second ⊢
      cases second with
      | failed => exact .lost
      | same mirrors => exact .same ⟨rfl, mirrors⟩

theorem finish_alike (twins : Twins path file kept) (settings : AvatarSettings) (answer : Answer) :
    Alike path (finish settings answer file) (finish settings answer kept) := by
  cases answer with
  | login answer => exact (finishLogin_alike twins answer).map _
  | profile answer => exact (finishProfile_alike twins settings answer).map _
  | logout answer => exact (finishLogout_alike twins answer).map _

end Steps

end SessionGate.Session
