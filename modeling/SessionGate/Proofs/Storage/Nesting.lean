import SessionGate.Proofs.Json.Rereading
import SessionGate.Proofs.Storage.Histories
import SessionGate.Proofs.Storage.Interrupted
import SessionGate.Proofs.Storage.Refusals

/- How deep a value in a document may nest. A write puts values of any depth into the file, and a reader takes
   so many levels at most: below that the document can be read whatever is done to it later, above it
   every later call is refused. -/
namespace SessionGate.Storage

open Json (Value Members maxLevels)
open Text (Bytes)

/-! Documents -/

theorem readDocument_sound {content : Bytes} {entries : Members}
    (known : readDocument content = .ok entries) : (Value.object entries).Sound maxLevels := by
  unfold readDocument at known
  split at known
  · cases known
    exact Json.sound_empty _
  · cases read : Json.readMap (Text.decode content) with
    | error cause =>
      rw [read] at known
      cases known
    | ok found =>
      rw [read] at known
      cases known
      obtain ⟨rest, form, _⟩ := (Json.read_ok_iff _ _).mp
        ((Json.read_object_iff _ _).mpr ((Json.readMap_ok_iff _ _).mp read))
      exact form.sound

theorem readDocument_fails {content : Bytes} {e : Error} (failed : readDocument content = .error e) :
    ∃ cause, e = .malformed cause := by
  unfold readDocument at failed
  split at failed
  · cases failed
  · cases read : Json.readMap (Text.decode content) with
    | error cause =>
      rw [read] at failed
      cases failed
      exact ⟨cause, rfl⟩
    | ok found =>
      rw [read] at failed
      cases failed

theorem load_sound {store : FileStore} {entries : Members} (loaded : store.load = .ok entries) :
    (Value.object entries).Sound maxLevels := by
  unfold FileStore.load at loaded
  split at loaded
  · exact readDocument_sound loaded
  · cases loaded
    exact Json.sound_empty _
  · cases loaded

theorem readDocument_written_iff (entries kept : Members) :
    readDocument (writeDocument entries) = .ok kept ↔
      Json.readMap ((Json.pretty.value 0 (.object entries)).map .char) = .ok kept := by
  rw [readDocument, writeDocument_not_blank, if_neg Bool.false_ne_true, writeDocument,
    Text.decode_encodeChars]
  cases Json.readMap ((Json.pretty.value 0 (.object entries)).map .char) with
  | error cause => simp [Except.mapError]
  | ok kept => simp [Except.mapError]

theorem written_reads_iff {entries : Members} {levels : Nat}
    (sound : (Value.object entries).Sound levels) :
    (∃ kept, readDocument (writeDocument entries) = .ok kept) ↔ (Value.object entries).Fits maxLevels := by
  rw [← Json.readMap_written_iff Json.pretty_spaced sound]
  exact exists_congr (readDocument_written_iff entries)

theorem read_loaded {store : FileStore} {entries : Members} (loaded : store.load = .ok entries)
    (key : String) : Backend.read key store = (.ok (Members.get? entries key), store) := by
  show (store.load.map fun entries => Members.get? entries key, store) = _
  rw [loaded]
  rfl

/-! Changes -/

/-- The document is there and can be read. -/
def Usable (store : FileStore) : Prop :=
  ∃ content entries, FileTree.read store.path store.tree = .ok content ∧
    readDocument content = .ok entries

theorem Usable.loads {store : FileStore} (usable : Usable store) : ∃ entries, store.load = .ok entries := by
  obtain ⟨content, entries, read, known⟩ := usable
  exact ⟨entries, (load_of_read read).trans known⟩

def Change.Writable : Change → Prop
  | .written _ value => value.Sound (maxLevels - 1)
  | .deleted _ => True

theorem Change.Writable.sound {change : Change} (writable : change.Writable) {entries : Members}
    (sound : (Value.object entries).Sound maxLevels) :
    (Value.object (change.edit entries)).Sound maxLevels := by
  cases change with
  | written key value => exact sound.insert key writable
  | deleted key => exact sound.erase key

theorem made_path (store : FileStore) (change : Change) : (change.made store).2.path = store.path := by
  rw [change.made_eq, FileStore.change]
  cases store.load with
  | error e => rfl
  | ok entries => rfl

theorem made_fails {store : FileStore} {entries : Members} (loaded : store.load = .ok entries)
    {change : Change} {e : Error} (failed : (change.made store).1 = .error e) :
    ∃ cause, e = .path cause := by
  rw [change.made_eq, FileStore.change, loaded] at failed
  simp only [FileStore.save] at failed
  cases applied : (FileTree.applyAll (saveSteps store.path (writeDocument (change.edit entries)))
      store.tree).1 with
  | error cause =>
    rw [applied] at failed
    cases failed
    exact ⟨cause, rfl⟩
  | ok done =>
    rw [applied] at failed
    cases failed

theorem made_done {store : FileStore} {change : Change} (done : (change.made store).1 = .ok ()) :
    ∃ entries, store.load = .ok entries ∧
      FileTree.read (change.made store).2.path (change.made store).2.tree =
        .ok (writeDocument (change.edit entries)) := by
  rw [change.made_eq, FileStore.change] at done ⊢
  cases loaded : store.load with
  | error e =>
    rw [loaded] at done
    cases done
  | ok entries =>
    rw [loaded] at done
    refine ⟨entries, rfl, ?_⟩
    simp only [FileStore.save] at done ⊢
    cases applied : FileTree.applyAll (saveSteps store.path (writeDocument (change.edit entries)))
        store.tree with
    | mk answer tree =>
      rw [applied] at done
      cases answer with
      | error cause => cases done
      | ok done => exact FileTree.save_reads_back applied

theorem made_reads {store : FileStore} {change : Change} (writable : change.Writable)
    (done : (change.made store).1 = .ok ()) :
    ∃ entries kept, store.load = .ok entries ∧
      FileTree.read (change.made store).2.path (change.made store).2.tree =
        .ok (writeDocument (change.edit entries)) ∧
      readDocument (writeDocument (change.edit entries)) = .ok kept ∧
      Json.ButDoubles (.object (change.edit entries)) (.object kept) := by
  obtain ⟨entries, loaded, new⟩ := made_done done
  have sound := writable.sound (load_sound loaded)
  obtain ⟨kept, reread⟩ := (written_reads_iff sound).mpr sound.fits
  have alike := Json.readMap_written_keeps Json.pretty_spaced sound
    ((readDocument_written_iff _ _).mp reread)
  exact ⟨entries, kept, loaded, new, reread, alike.2.2⟩

theorem failed_keeps {store : FileStore} {content : Bytes}
    (read : FileTree.read store.path store.tree = .ok content) {change : Change} {e : Error}
    (failed : (change.made store).1 = .error e) :
    FileTree.read (change.made store).2.path (change.made store).2.tree = .ok content := by
  obtain ⟨way, located, _, _⟩ := (FileTree.read_ok_iff _ _ _).mp read
  obtain ⟨taken, leftOff, outcome⟩ := leftOff_made store change
  obtain ⟨_, state⟩ := leftOff_steps (FileTree.named_of_read read)
    (FileTree.stepsBack_of_located located) leftOff
  have early := (outcome.resolve_left fun late => nomatch failed.symm.trans late.1).2
  have same := (state.resolve_right fun late => early late.1).2
  rw [made_path, FileTree.read_iff_holds, same]
  exact (FileTree.read_iff_holds _ _ _).mp read

theorem usable_of_made {store : FileStore} {change : Change} (writable : change.Writable)
    (done : (change.made store).1 = .ok ()) : Usable (change.made store).2 := by
  obtain ⟨_, kept, _, new, reread, _⟩ := made_reads writable done
  exact ⟨_, kept, new, reread⟩

theorem Usable.made {store : FileStore} (usable : Usable store) {change : Change}
    (writable : change.Writable) : Usable (change.made store).2 := by
  cases answer : (change.made store).1 with
  | ok done => exact usable_of_made writable answer
  | error e =>
    obtain ⟨content, entries, read, known⟩ := usable
    exact ⟨content, entries, failed_keeps read answer, known⟩

/-! Runs -/

namespace Action

def Writable : Action → Prop
  | .write key value => (Change.written key value).Writable
  | .read _ | .delete _ | .reopen => True

def refusal (e : Error) : Action → Except Error (Option Value)
  | .read _ | .write _ _ | .delete _ => .error e
  | .reopen => .ok none

end Action

def Undeterred (answer : Except Error (Option Value)) : Prop :=
  ∀ cause, answer ≠ .error (.malformed cause)

theorem undeterred_made {store : FileStore} {entries : Members} (loaded : store.load = .ok entries)
    (change : Change) : Undeterred ((change.made store).1.map fun _ => none) := by
  intro cause refused
  cases answer : (change.made store).1 with
  | ok done =>
    rw [answer] at refused
    cases refused
  | error e =>
    obtain ⟨other, rfl⟩ := made_fails loaded answer
    rw [answer] at refused
    cases refused

theorem undeterred_perform {store : FileStore} {entries : Members} (loaded : store.load = .ok entries)
    (action : Action) : Undeterred (perform FileStore.again action store).1 := by
  cases action with
  | read key =>
    intro cause refused
    have answer : store.load.map (fun entries => Members.get? entries key) =
        .error (.malformed cause) := refused
    rw [loaded] at answer
    cases answer
  | write key value => exact undeterred_made loaded (.written key value)
  | delete key => exact undeterred_made loaded (.deleted key)
  | reopen =>
    intro cause refused
    cases refused

theorem Usable.perform {store : FileStore} (usable : Usable store) {action : Action}
    (writable : action.Writable) : Usable (perform FileStore.again action store).2 := by
  cases action with
  | read key => exact usable
  | write key value =>
    have fine : (Change.written key value).Writable := writable
    exact usable.made fine
  | delete key =>
    have fine : (Change.deleted key).Writable := trivial
    exact usable.made fine
  | reopen => exact usable

/-- The document loads, and however it goes on no call fails for what is in it, the first one included that
writes something too deep. -/
structure StaysReadable (store : FileStore) : Prop where
  loads : ∃ entries, store.load = .ok entries
  answers (actions : List Action) (writable : ∀ action ∈ actions, action.Writable) (last : Action) :
    ∀ answer ∈ (performAll FileStore.again (actions ++ [last]) store).1, Undeterred answer

/-- However it goes on, every call fails for what is in the document, and the document stays. -/
def StaysUnreadable (store : FileStore) : Prop :=
  ∃ cause, ∀ actions : List Action, performAll FileStore.again actions store =
    (actions.map (Action.refusal (.malformed cause)), store)

theorem Usable.staysReadable {store : FileStore} (usable : Usable store) : StaysReadable store := by
  refine ⟨usable.loads, ?_⟩
  intro actions writable last
  induction actions generalizing store with
  | nil =>
    obtain ⟨entries, loaded⟩ := usable.loads
    exact List.forall_mem_singleton.mpr (undeterred_perform loaded last)
  | cons action rest ih =>
    obtain ⟨first, others⟩ := List.forall_mem_cons.mp writable
    obtain ⟨entries, loaded⟩ := usable.loads
    exact List.forall_mem_cons.mpr
      ⟨undeterred_perform loaded action, ih (usable.perform first) others⟩

theorem Refuses.staysUnreadable {store : FileStore} {cause : Json.Error}
    (refuses : Refuses (.malformed cause) store) : StaysUnreadable store := by
  refine ⟨cause, ?_⟩
  intro actions
  induction actions with
  | nil => rfl
  | cons action rest ih =>
    have one : perform FileStore.again action store =
        (action.refusal (.malformed cause), store) := by
      cases action with
      | read key => exact refuses.read key
      | write key value =>
        simp only [perform, refuses.write]
        rfl
      | delete key =>
        simp only [perform, refuses.delete]
        rfl
      | reopen => rfl
    simp only [performAll, one, ih, List.map_cons]

/-! Values -/

/-- The document can be read for good if the value has no more than so many levels, and never again if it
has more. -/
structure Decides (value : Value) (room : Nat) (store : FileStore) : Prop where
  within : value.Fits room → StaysReadable store
  beyond : ¬ value.Fits room → StaysUnreadable store

theorem Decides.congr {value other : Value} {room more : Nat} {store : FileStore}
    (decides : Decides value room store) (same : value.Fits room ↔ other.Fits more) :
    Decides other more store :=
  ⟨fun within => decides.within (same.mpr within), fun beyond => decides.beyond (mt same.mp beyond)⟩

theorem decides_of_written {store after : FileStore} {entries : Members}
    (loaded : store.load = .ok entries) {key : String} {value : Value} {levels : Nat}
    (sound : value.Sound levels) (written : Backend.write key value store = (.ok (), after)) :
    Decides value (maxLevels - 1) after := by
  have made : (Change.written key value).made store = (.ok (), after) := written
  obtain ⟨found, again, new⟩ := made_done (congrArg Prod.fst made)
  cases loaded.symm.trans again
  rw [made] at new
  have document : (Value.object entries).Sound (maxLevels - 1 + 1) := load_sound loaded
  have readable := written_reads_iff (document.insert_deeper key sound)
  have room := Json.fits_insert_iff document.fits key value
  constructor
  · intro within
    obtain ⟨kept, known⟩ := readable.mpr (room.mpr within)
    exact Usable.staysReadable ⟨_, kept, new, known⟩
  · intro beyond
    cases known : readDocument (writeDocument (Members.insert entries key value)) with
    | ok kept => exact absurd (room.mp (readable.mp ⟨kept, known⟩)) beyond
    | error e =>
      obtain ⟨cause, rfl⟩ := readDocument_fails known
      exact (FileStore.refuses_of_load ((load_of_read new).trans known)).staysUnreadable

theorem fieldsOf_sound {levels : Nat} {entries : Members}
    (sound : (Value.object entries).Sound (levels + 2)) :
    (Value.object (FieldStore.fieldsOf (Members.get? entries fieldsKey))).Sound (levels + 1) := by
  cases found : Members.get? entries fieldsKey with
  | none => exact Json.sound_empty levels
  | some stored =>
    cases stored with
    | object fields => exact (Json.sound_object_iff.mp sound).2 _ (Members.mem_of_get found)
    | _ => exact Json.sound_empty levels

theorem decides_of_put {store after : FileStore} {entries : Members} (loaded : store.load = .ok entries)
    {field : Field} {value : Value} {levels : Nat} (sound : value.Sound levels)
    (put : (FieldStore.put field value).run store = (.ok (), after)) :
    Decides value (maxLevels - 2) after := by
  have fields : (Value.object (FieldStore.fieldsOf (Members.get? entries fieldsKey))).Sound
      (maxLevels - 2 + 1) := fieldsOf_sound (load_sound loaded)
  simp only [FieldStore.put, FieldStore.change, Calls.run, read_loaded loaded] at put
  have decides := decides_of_written loaded (fields.insert_deeper field.key sound) put
  exact decides.congr (Json.fits_insert_iff fields.fits field.key value)

/- Beyond its room a value is not refused when it is written, it takes the whole document with it. -/
theorem written_document_reads_exactly_if {store : FileStore} {entries : Members}
    (loaded : store.load = .ok entries) {value : Value} {levels : Nat} (sound : value.Sound levels) :
    (∀ key after, Backend.write key value store = (.ok (), after) →
      Decides value (maxLevels - 1) after) ∧
    (∀ field after, (FieldStore.put field value).run store = (.ok (), after) →
      Decides value (maxLevels - 2) after) ∧
    ∀ key after, (FieldStore.set key value).run store = (.ok (), after) →
      if (Field.ofKey? key).isSome then Decides value (maxLevels - 2) after else after = store := by
  refine ⟨fun key after => decides_of_written loaded sound,
    fun field after => decides_of_put loaded sound, ?_⟩
  intro key after set
  unfold FieldStore.set at set
  cases known : Field.ofKey? key with
  | some field =>
    rw [known] at set
    exact decides_of_put loaded sound set
  | none =>
    rw [known] at set
    cases set
    rfl

def nested : Nat → Value
  | 0 => .array []
  | more + 1 => .array [nested more]

theorem nested_fits_iff {more levels : Nat} : (nested more).Fits levels ↔ more < levels := by
  induction more generalizing levels with
  | zero =>
    rw [nested, Json.fits_array_iff]
    constructor
    · rintro ⟨below, rfl, _⟩
      exact Nat.succ_pos below
    · intro some
      exact ⟨levels - 1, (Nat.sub_add_cancel some).symm, nofun⟩
  | succ more ih =>
    rw [nested, Json.fits_array_iff]
    constructor
    · rintro ⟨below, rfl, each⟩
      exact Nat.succ_lt_succ (ih.mp (List.forall_mem_singleton.mp each))
    · intro deeper
      refine ⟨levels - 1, (Nat.sub_add_cancel (Nat.zero_lt_of_lt deeper)).symm, ?_⟩
      exact List.forall_mem_singleton.mpr (ih.mpr (Nat.lt_sub_of_add_lt deeper))

theorem nested_whole (more : Nat) : (nested more).Whole := by
  induction more with
  | zero => exact .array nofun
  | succ more ih => exact .array (List.forall_mem_singleton.mpr ih)

theorem nested_sound (more : Nat) : (nested more).Sound (more + 1) :=
  ⟨nested_fits_iff.mpr (Nat.lt_succ_self more), (nested_whole more).legible⟩

def fresh : FileStore := ⟨⟨["s.json"]⟩, .empty⟩

theorem StaysUnreadable.not_loaded {store : FileStore} (unreadable : StaysUnreadable store) :
    ¬ ∃ entries, store.load = .ok entries := by
  rintro ⟨entries, loaded⟩
  obtain ⟨cause, answers⟩ := unreadable
  have answer := undeterred_perform loaded (.read "") cause
  exact answer (List.head_eq_of_cons_eq (congrArg Prod.fst (answers [.read ""])))

theorem one_list_more_is_too_many :
    fresh.load = .ok [] ∧ (∀ more, (nested more).Sound (more + 1)) ∧
      (Backend.write "a" (nested 125) fresh).1 = .ok () ∧
      StaysReadable (Backend.write "a" (nested 125) fresh).2 ∧
      (Backend.write "a" (nested 126) fresh).1 = .ok () ∧
      StaysUnreadable (Backend.write "a" (nested 126) fresh).2 ∧
      ((FieldStore.set "user_roles" (nested 124)).run fresh).1 = .ok () ∧
      StaysReadable ((FieldStore.set "user_roles" (nested 124)).run fresh).2 ∧
      ((FieldStore.put .roles (nested 125)).run fresh).1 = .ok () ∧
      StaysUnreadable ((FieldStore.put .roles (nested 125)).run fresh).2 := by
  have loaded : fresh.load = .ok [] := rfl
  have decided (more : Nat) := written_document_reads_exactly_if loaded (nested_sound more)
  have written (more : Nat) : (Backend.write "a" (nested more) fresh).1 = .ok () := rfl
  have set (more : Nat) : ((FieldStore.set "user_roles" (nested more)).run fresh).1 = .ok () := rfl
  have put (more : Nat) : ((FieldStore.put .roles (nested more)).run fresh).1 = .ok () := rfl
  have known := (decided 124).2.2 "user_roles" _ (Prod.ext (set 124) rfl)
  rw [if_pos (by decide)] at known
  refine ⟨loaded, nested_sound, written 125, ?_, written 126, ?_, set 124, ?_, put 125, ?_⟩
  · exact ((decided 125).1 "a" _ (Prod.ext (written 125) rfl)).within (nested_fits_iff.mpr (by decide))
  · exact ((decided 126).1 "a" _ (Prod.ext (written 126) rfl)).beyond (mt nested_fits_iff.mp (by decide))
  · exact known.within (nested_fits_iff.mpr (by decide))
  · exact ((decided 125).2.1 .roles _ (Prod.ext (put 125) rfl)).beyond (mt nested_fits_iff.mp (by decide))

theorem written_value_may_lose_the_document :
    fresh.load = .ok [] ∧ (nested 126).Whole ∧ (nested 126).Fits 127 ∧
      (Backend.write "a" (nested 126) fresh).1 = .ok () ∧
      ¬ ∃ entries, (Backend.write "a" (nested 126) fresh).2.load = .ok entries := by
  have loaded : fresh.load = .ok [] := rfl
  have written : (Backend.write "a" (nested 126) fresh).1 = .ok () := rfl
  have decides := decides_of_written loaded (nested_sound 126) (Prod.ext written rfl)
  have deep : ¬ (nested 126).Fits (maxLevels - 1) := mt nested_fits_iff.mp (by decide)
  exact ⟨loaded, nested_whole 126, (nested_sound 126).fits, written, (decides.beyond deep).not_loaded⟩

end SessionGate.Storage
