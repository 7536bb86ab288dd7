import SessionGate.Proofs.Json.Written
import SessionGate.Proofs.Storage.Files
import SessionGate.Proofs.Text.Encoding

/- The document of a file store and the map that it stands for. A document that is written is read again
   as the same map, so that a store in a file answers as one in memory does, for as long as no file
   operation fails. -/
namespace SessionGate.Storage

open Json (Value Members DocumentText maxLevels)
open Text (Bytes)

/-! Documents -/

structure Keepable (entries : Members) : Prop where
  sorted : Members.Sorted entries
  fits : ∀ member ∈ entries, member.2.Fits (maxLevels - 1)
  whole : ∀ member ∈ entries, member.2.Whole

theorem keepable_iff_exact {entries : Members} :
    Keepable entries ↔ (Value.object entries).Exact maxLevels := by
  constructor
  · intro keepable
    exact Json.exact_object_iff.mpr ⟨keepable.sorted,
      fun member among => ⟨keepable.fits member among, keepable.whole member among⟩⟩
  · intro exact
    obtain ⟨sorted, each⟩ := Json.exact_object_iff.mp exact
    exact ⟨sorted, fun member among => (each member among).fits,
      fun member among => (each member among).whole⟩

theorem Keepable.empty : Keepable [] := keepable_iff_exact.mpr (Json.exact_empty _)

theorem Keepable.insert {entries : Members} (keepable : Keepable entries) (key : String)
    {value : Value} (exact : value.Exact (maxLevels - 1)) :
    Keepable (Members.insert entries key value) :=
  keepable_iff_exact.mpr ((keepable_iff_exact.mp keepable).insert key exact)

theorem Keepable.erase {entries : Members} (keepable : Keepable entries) (key : String) :
    Keepable (Members.erase entries key) :=
  keepable_iff_exact.mpr ((keepable_iff_exact.mp keepable).erase key)

theorem writeDocument_not_blank (entries : Members) :
    (writeDocument entries).all isBlankByte = false := by
  cases entries <;> rfl

theorem readDocument_writeDocument {entries : Members} (keepable : Keepable entries) :
    readDocument (writeDocument entries) = .ok entries := by
  have read := Json.readMap_written Json.pretty_spaced keepable.sorted keepable.fits keepable.whole
  rw [readDocument, writeDocument_not_blank, if_neg Bool.false_ne_true, writeDocument,
    Text.decode_encodeChars, read]
  rfl

theorem decode_blank {content : Bytes} (blank : content.all isBlankByte = true) :
    Text.decode content = content.map fun b => .char (Char.ofNat b.toNat) := by
  induction content with
  | nil => rfl
  | cons b rest ih =>
    obtain ⟨first, later⟩ := Bool.and_eq_true_iff.mp blank
    have small : b.toNat < 0x80 := by
      simp only [isBlankByte, Bool.or_eq_true, decide_eq_true_eq] at first
      rcases first with (((rfl | rfl) | rfl) | rfl) | rfl <;> decide
    have same : Text.byte b.toNat = b := UInt8.ofNat_toNat
    have begins := Text.begins_one small
    rw [same] at begins
    simp only [Text.decode, Text.decodeFrom, Text.stepByte, Text.startByte, begins]
    exact congrArg (_ :: ·) (ih later)

theorem documentText_not_blank {content : Bytes} {listed : List (String × Value)}
    (text : DocumentText (Text.decode content) listed) : content.all isBlankByte = false := by
  cases blank : content.all isBlankByte with
  | false => rfl
  | true =>
    obtain ⟨members, ⟨inner, final, opens, _⟩, _⟩ := text
    have brace : .char '\x7b' ∈ Text.decode content :=
      Json.mem_of_skipSpaces (opens ▸ List.mem_cons_self)
    rw [decode_blank blank] at brace
    obtain ⟨b, member, same⟩ := List.mem_map.mp brace
    have space := List.all_eq_true.mp blank b member
    simp only [isBlankByte, Bool.or_eq_true, decide_eq_true_eq] at space
    rcases space with (((rfl | rfl) | rfl) | rfl) | rfl <;> exact absurd same (by decide)

/-! Stores -/

/-- A file with which a store can start, and the map that it stands for. Blank is ASCII whitespace. -/
inductive Starts (store : FileStore) : Members → Prop where
  | missing (read : FileTree.read store.path store.tree = .error .notFound) : Starts store []
  | blank {content : Bytes} (read : FileTree.read store.path store.tree = .ok content)
      (blank : content.all isBlankByte = true) : Starts store []
  | document {content : Bytes} {listed : List (String × Value)}
      (read : FileTree.read store.path store.tree = .ok content)
      (text : DocumentText (Text.decode content) listed)
      (whole : ∀ member ∈ Members.ofList listed, member.2.Whole) :
      Starts store (Members.ofList listed)

/-- The document in the file at a path stands for what is in memory. -/
structure Mirrors (path : Path) (store : FileStore) (memory : Memory) : Prop where
  place : store.path = path
  loads : store.load = .ok memory.entries
  keepable : Keepable memory.entries

theorem load_of_read {store : FileStore} {content : Bytes}
    (read : FileTree.read store.path store.tree = .ok content) :
    store.load = readDocument content := by
  simp only [FileStore.load, read]

theorem Starts.mirrors {store : FileStore} {entries : Members} (starts : Starts store entries) :
    Mirrors store.path store ⟨entries⟩ := by
  cases starts with
  | missing read =>
    refine ⟨rfl, ?_, .empty⟩
    simp only [FileStore.load, read]
  | blank read blank =>
    refine ⟨rfl, ?_, .empty⟩
    rw [load_of_read read, readDocument, if_pos blank]
  | @document content listed read text whole =>
    have known := (Json.readMap_ok_iff _ _).mpr ⟨listed, text, rfl⟩
    have visible := documentText_not_blank text
    obtain ⟨members, _, forms, rfl⟩ := text
    refine ⟨rfl, ?_, Members.ofList_sorted _, ?_, whole⟩
    · rw [load_of_read read, readDocument, visible, if_neg Bool.false_ne_true, known]
      rfl
    · intro member found
      obtain ⟨one, among, rfl⟩ := List.mem_map.mp (Members.mem_ofList found)
      exact (forms one among).fits

def Disturbed {α : Type} (result : Except Error α) : Prop :=
  ∃ cause, result = .error (.path cause)

structure Kept (path : Path) (entries : Members) (store : FileStore) : Prop where
  mirrors : Mirrors path store ⟨entries⟩
  content : FileTree.read path store.tree = .ok (writeDocument entries)

theorem save_outcome (store : FileStore) {entries : Members} (keepable : Keepable entries) :
    Disturbed (store.save entries).1 ∨
      ((store.save entries).1 = .ok () ∧ Kept store.path entries (store.save entries).2) := by
  unfold FileStore.save
  cases saved : FileTree.applyAll (saveSteps store.path (writeDocument entries)) store.tree with
  | mk result tree =>
    cases result with
    | error e => exact Or.inl ⟨e, rfl⟩
    | ok done =>
      have content := FileTree.save_reads_back saved
      refine Or.inr ⟨rfl, ⟨rfl, ?_, keepable⟩, content⟩
      exact (load_of_read content).trans (readDocument_writeDocument keepable)

theorem Mirrors.read {path : Path} {store : FileStore} {memory : Memory}
    (mirrors : Mirrors path store memory) (key : String) :
    Backend.read key store = ((Backend.read key memory).1, store) := by
  show (store.load.map fun entries => Members.get? entries key, store) = _
  rw [mirrors.loads]
  rfl

theorem Mirrors.change {path : Path} {store : FileStore} {memory : Memory}
    (mirrors : Mirrors path store memory) {f : Members → Members}
    (keepable : Keepable (f memory.entries)) :
    Disturbed (store.change f).1 ∨
      ((store.change f).1 = .ok () ∧ Kept path (f memory.entries) (store.change f).2) := by
  unfold FileStore.change
  rw [mirrors.loads, ← mirrors.place]
  exact save_outcome store keepable

end SessionGate.Storage
