import SessionGate.Proofs.Storage.Document
import SessionGate.Proofs.Storage.Resaving

/- What becomes of a store in a file over time. It answers as a store in memory that started from the same
   map, and what its changes leave in the file tells of the map alone, not of the way to it. -/
namespace SessionGate.Storage

open Json (Value Members maxLevels)

inductive Action where
  | read (key : String)
  | write (key : String) (value : Value)
  | delete (key : String)
  | reopen

namespace Action

def Changes : Action → Prop
  | .write _ _ | .delete _ => True
  | .read _ | .reopen => False

def Storable : Action → Prop
  | .write _ value => value.Fits (maxLevels - 1) ∧ value.Whole
  | .read _ | .delete _ | .reopen => True

end Action

section Runs

variable {β : Type} [Backend β]

def perform (again : β → β) (action : Action) (store : β) : Except Error (Option Value) × β :=
  match action with
  | .read key => Backend.read key store
  | .write key value =>
    let (result, store) := Backend.write key value store
    (result.map fun _ => none, store)
  | .delete key =>
    let (result, store) := Backend.delete key store
    (result.map fun _ => none, store)
  | .reopen => (.ok none, again store)

def performAll (again : β → β) : List Action → β → List (Except Error (Option Value)) × β
  | [], store => ([], store)
  | action :: rest, store =>
    let (answer, store) := perform again action store
    let (answers, store) := performAll again rest store
    (answer :: answers, store)

end Runs

def FileStore.again (store : FileStore) : FileStore := ⟨store.path, store.tree⟩

/-- The file tells what the map is, and nothing else. -/
def Plain (path : Path) (store : FileStore) (memory : Memory) : Prop :=
  FileTree.read path store.tree = .ok (writeDocument memory.entries)

/-- The two stores have gone on alike. -/
structure Alike (path : Path) (changed : Prop)
    (file : Except Error (Option Value) × FileStore)
    (memory : Except Error (Option Value) × Memory) : Prop where
  answers : file.1 = memory.1
  mirrors : Mirrors path file.2 memory.2
  plain : changed → Plain path file.2 memory.2

section Steps

variable {path : Path} {store : FileStore} {memory : Memory}

theorem alike_of_change (mirrors : Mirrors path store memory) {f : Members → Members}
    (keepable : Keepable (f memory.entries))
    (undisturbed : ¬ Disturbed ((store.change f).1.map fun _ => (none : Option Value)))
    (changed : Prop) :
    Alike path changed ((store.change f).1.map fun _ => none, (store.change f).2)
      (.ok none, ⟨f memory.entries⟩) := by
  rcases mirrors.change keepable with ⟨cause, failed⟩ | ⟨done, kept⟩
  · rw [failed] at undisturbed
    exact absurd ⟨cause, rfl⟩ undisturbed
  · exact ⟨by rw [done]; rfl, kept.mirrors, fun _ => kept.content⟩

theorem perform_alike (mirrors : Mirrors path store memory) {action : Action}
    (storable : action.Storable)
    (undisturbed : ¬ Disturbed (perform FileStore.again action store).1) :
    Alike path (Plain path store memory ∨ action.Changes) (perform FileStore.again action store)
      (perform id action memory) := by
  cases action with
  | read key =>
    simp only [perform, mirrors.read key]
    exact ⟨rfl, mirrors, fun changed => changed.resolve_right id⟩
  | write key value =>
    exact alike_of_change mirrors (mirrors.keepable.insert key ⟨storable.1, storable.2⟩) undisturbed _
  | delete key => exact alike_of_change mirrors (mirrors.keepable.erase key) undisturbed _
  | reopen => exact ⟨rfl, mirrors, fun changed => changed.resolve_right id⟩

theorem performAll_alike (mirrors : Mirrors path store memory) {actions : List Action}
    (storable : ∀ action ∈ actions, action.Storable)
    (undisturbed : ∀ answer ∈ (performAll FileStore.again actions store).1, ¬ Disturbed answer) :
    (performAll FileStore.again actions store).1 = (performAll id actions memory).1 ∧
      Mirrors path (performAll FileStore.again actions store).2 (performAll id actions memory).2 ∧
      ((Plain path store memory ∨ ∃ action ∈ actions, action.Changes) →
        Plain path (performAll FileStore.again actions store).2 (performAll id actions memory).2) := by
  induction actions generalizing store memory with
  | nil => exact ⟨rfl, mirrors, fun changed => changed.resolve_right nofun⟩
  | cons action rest ih =>
    obtain ⟨fine, later⟩ := List.forall_mem_cons.mp undisturbed
    obtain ⟨first, others⟩ := List.forall_mem_cons.mp storable
    have one := perform_alike mirrors first fine
    obtain ⟨answers, kept, plain⟩ := ih one.mirrors others later
    refine ⟨congrArg₂ _ one.answers answers, kept, ?_⟩
    intro changed
    apply plain
    rcases changed with already | ⟨other, member, changes⟩
    · exact Or.inl (one.plain (Or.inl already))
    · rcases List.mem_cons.mp member with rfl | among
      · exact Or.inl (one.plain (Or.inr changes))
      · exact Or.inr ⟨other, among, changes⟩

/-! Where no file operation fails -/

theorem fine_iff (result : Except PathError Unit) (f : Unit → Option Value) :
    ¬ Disturbed ((result.mapError Error.path).map f) ↔ result = .ok () := by
  cases result with
  | error e => simp [Disturbed, Except.mapError, Except.map]
  | ok done => simp [Disturbed, Except.mapError, Except.map]

theorem change_fine_iff (mirrors : Mirrors path store memory) (f : Members → Members) :
    ¬ Disturbed ((store.change f).1.map fun _ => (none : Option Value)) ↔ store.Saves := by
  rw [FileStore.change, mirrors.loads, ← store.saves_iff (writeDocument (f memory.entries))]
  exact fine_iff _ _

theorem perform_fine_iff (mirrors : Mirrors path store memory) (action : Action) :
    ¬ Disturbed (perform FileStore.again action store).1 ↔ (action.Changes → store.Saves) := by
  cases action with
  | read key =>
    simp only [perform, mirrors.read key]
    exact ⟨fun _ changes => changes.elim, fun _ => nofun⟩
  | write key value | delete key =>
    exact (change_fine_iff mirrors _).trans (imp_iff_right trivial).symm
  | reopen => exact ⟨fun _ changes => changes.elim, fun _ => nofun⟩

theorem change_saves (mirrors : Mirrors path store memory) {f : Members → Members}
    (saves : store.Saves) : (store.change f).2.Saves := by
  rw [FileStore.change, mirrors.loads]
  exact (FileStore.lasts_of_save (saves.save_done _)).2

theorem perform_saves_iff (mirrors : Mirrors path store memory) {action : Action}
    (fine : ¬ Disturbed (perform FileStore.again action store).1) :
    (perform FileStore.again action store).2.Saves ↔ store.Saves := by
  cases action with
  | read key | reopen => exact Iff.rfl
  | write key value | delete key =>
    have saves := (perform_fine_iff mirrors _).mp fine trivial
    exact ⟨fun _ => saves, fun _ => change_saves mirrors saves⟩

theorem performAll_fine_iff (mirrors : Mirrors path store memory) {actions : List Action}
    (storable : ∀ action ∈ actions, action.Storable) :
    (∀ answer ∈ (performAll FileStore.again actions store).1, ¬ Disturbed answer) ↔
      ((∃ action ∈ actions, action.Changes) → store.Saves) := by
  induction actions generalizing store memory with
  | nil =>
    have none : ∀ answer ∈ (performAll FileStore.again [] store).1, ¬ Disturbed answer :=
      List.forall_mem_nil _
    exact iff_of_true none fun ⟨_, member, _⟩ => (List.not_mem_nil member).elim
  | cons action rest ih =>
    obtain ⟨first, others⟩ := List.forall_mem_cons.mp storable
    constructor
    · intro undisturbed changed
      obtain ⟨fine, later⟩ := List.forall_mem_cons.mp undisturbed
      obtain ⟨one, member, changes⟩ := changed
      rcases List.mem_cons.mp member with rfl | among
      · exact (perform_fine_iff mirrors one).mp fine changes
      · have next := (perform_alike mirrors first fine).mirrors
        exact (perform_saves_iff mirrors fine).mp ((ih next others).mp later ⟨one, among, changes⟩)
    · intro saves
      have fine := (perform_fine_iff mirrors action).mpr fun changes =>
        saves ⟨action, List.mem_cons_self, changes⟩
      have next := (perform_alike mirrors first fine).mirrors
      refine List.forall_mem_cons.mpr ⟨fine, (ih next others).mpr fun changed => ?_⟩
      obtain ⟨one, among, changes⟩ := changed
      exact (perform_saves_iff mirrors fine).mpr (saves ⟨one, List.mem_cons_of_mem _ among, changes⟩)

end Steps

/-- That no file operation fails can be told from the files at the start: nothing is changed, or documents
can be saved there. -/
theorem undisturbed_iff {start : FileStore} {entries : Members} (starts : Starts start entries)
    {actions : List Action} (storable : ∀ action ∈ actions, action.Storable) :
    (∀ answer ∈ (performAll FileStore.again actions start).1, ¬ Disturbed answer) ↔
      ((∃ action ∈ actions, action.Changes) → start.Saves) :=
  performAll_fine_iff starts.mirrors storable

/-- What is done to a store in a file from its start on, while no file operation fails. -/
structure History where
  start : FileStore
  entries : Members
  actions : List Action
  starts : Starts start entries
  storable : ∀ action ∈ actions, action.Storable
  undisturbed : ∀ answer ∈ (performAll FileStore.again actions start).1, ¬ Disturbed answer

namespace History

def inFile (history : History) : List (Except Error (Option Value)) × FileStore :=
  performAll FileStore.again history.actions history.start

def inMemory (history : History) : List (Except Error (Option Value)) × Memory :=
  performAll id history.actions ⟨history.entries⟩

def content (history : History) : Except PathError Text.Bytes :=
  FileTree.read history.start.path history.inFile.2.tree

def Changed (history : History) : Prop := ∃ action ∈ history.actions, action.Changes

end History

/- What is done up to some moment is a history as well, so this speaks of every moment. -/
theorem file_refines_memory (history : History) :
    history.inFile.1 = history.inMemory.1 ∧
      (∀ key, (Backend.read key history.inFile.2).2 = history.inFile.2) ∧
      (history.Changed → history.content = .ok (writeDocument history.inMemory.2.entries)) ∧
      ∀ other : History, history.Changed → other.Changed →
        (∀ key, Members.get? history.inMemory.2.entries key =
          Members.get? other.inMemory.2.entries key) → history.content = other.content := by
  have outcome (history : History) := performAll_alike history.starts.mirrors history.storable
    history.undisturbed
  have content (history : History) (changed : history.Changed) :
      history.content = .ok (writeDocument history.inMemory.2.entries) := by
    obtain ⟨_, _, plain⟩ := outcome history
    exact plain (Or.inr changed)
  obtain ⟨answers, mirrors, _⟩ := outcome history
  refine ⟨answers, fun key => rfl, content history, ?_⟩
  intro other changed otherChanged same
  obtain ⟨_, otherMirrors, _⟩ := outcome other
  have entries : history.inMemory.2.entries = other.inMemory.2.entries :=
    Members.sorted_ext mirrors.keepable.sorted otherMirrors.keepable.sorted same
  rw [content history changed, content other otherChanged, entries]

theorem undisturbed_of_done {answers : List (Except Error (Option Value))}
    (done : ∀ answer ∈ answers, answer = .ok none) : ∀ answer ∈ answers, ¬ Disturbed answer := by
  intro answer member disturbed
  obtain ⟨cause, failed⟩ := disturbed
  cases failed.symm.trans (done answer member)

def fromNothing : History where
  start := ⟨⟨["kept", "s.json"]⟩, .empty⟩
  entries := []
  actions := [.write "b" (.boolean true), .reopen, .write "a" (.text "\"")]
  starts := .missing rfl
  storable := by
    intro action member
    rcases List.mem_cons.mp member with rfl | member
    · exact ⟨.boolean _, .boolean _⟩
    rcases List.mem_cons.mp member with rfl | member
    · trivial
    · rw [List.mem_singleton.mp member]
      exact ⟨.text _, .text _⟩
  undisturbed := by
    have answers : (performAll FileStore.again [.write "b" (.boolean true), .reopen,
        .write "a" (.text "\"")] ⟨⟨["kept", "s.json"]⟩, .empty⟩).1 = List.replicate 3 (.ok none) := rfl
    exact undisturbed_of_done fun answer member => List.eq_of_mem_replicate (answers ▸ member)

def repeatedNames : Text.Bytes :=
  Text.encode " \x7b \"a\": 1, \"a\":\"\\u0022\" \x7d"

theorem repeatedNames_starts :
    Starts ⟨⟨["s.json"]⟩, ⟨.directory [("s.json", .file repeatedNames)], []⟩⟩ [("a", .text "\"")] := by
  have read : Json.readMap (Text.decode repeatedNames) = .ok [("a", .text "\"")] := rfl
  obtain ⟨listed, text, same⟩ := (Json.readMap_ok_iff _ _).mp read
  rw [same]
  refine .document rfl text ?_
  rw [← same]
  intro member found
  rw [List.mem_singleton.mp found]
  exact .text _

def fromRepeatedNames : History where
  start := ⟨⟨["s.json"]⟩, ⟨.directory [("s.json", .file repeatedNames)], []⟩⟩
  entries := [("a", .text "\"")]
  actions := [.write "b" (.boolean true), .delete "c"]
  starts := repeatedNames_starts
  storable := by
    intro action member
    rcases List.mem_cons.mp member with rfl | member
    · exact ⟨.boolean _, .boolean _⟩
    · rw [List.mem_singleton.mp member]
      trivial
  undisturbed := by
    have answers : (performAll FileStore.again [.write "b" (.boolean true), .delete "c"]
        ⟨⟨["s.json"]⟩, ⟨.directory [("s.json", .file repeatedNames)], []⟩⟩).1 =
          List.replicate 2 (.ok none) := rfl
    exact undisturbed_of_done fun answer member => List.eq_of_mem_replicate (answers ▸ member)

theorem same_bytes_from_two_starts : fromNothing.content = fromRepeatedNames.content := by
  obtain ⟨_, _, _, alike⟩ := file_refines_memory fromNothing
  exact alike fromRepeatedNames ⟨_, List.mem_cons_self, trivial⟩ ⟨_, List.mem_cons_self, trivial⟩
    fun key => rfl

end SessionGate.Storage
