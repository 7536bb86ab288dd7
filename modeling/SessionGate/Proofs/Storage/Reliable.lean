import SessionGate.Proofs.Storage.Nesting
import SessionGate.Proofs.Storage.Holdings
import SessionGate.Proofs.Storage.Resaving

/- Stores that can be relied on: while one is in order each call succeeds, does what it says and leaves the
   store in order. One in memory always is; one in a file is if its document has no doubles and can be saved,
   and then takes what can be read again as it was written. -/
namespace SessionGate.Storage

open Json (Value Members maxLevels)

class Reliable (β : Type) [Backend β] where
  Holds : β → Holdings → Prop
  Storable : Value → Prop
  Settable : Value → Prop
  reads (key : String) {store : β} {held : Holdings} (holds : Holds store held) :
    (Backend.read key store).1 = .ok (held key) ∧ Holds (Backend.read key store).2 held
  writes (key : String) {value : Value} (storable : Storable value) {store : β} {held : Holdings}
    (holds : Holds store held) : (Backend.write key value store).1 = .ok () ∧
      Holds (Backend.write key value store).2 (Function.update held key (some value))
  deletes (key : String) {store : β} {held : Holdings} (holds : Holds store held) :
    (Backend.delete key store).1 = .ok () ∧
      Holds (Backend.delete key store).2 (Function.update held key none)
  held_storable {store : β} {held : Holdings} (holds : Holds store held) {key : String}
    {value : Value} (found : held key = some value) : Storable value
  text_storable (s : String) : Storable (.text s)
  empty_storable : Storable (.object [])
  insert_storable {fields : Members} (storable : Storable (.object fields)) (name : String)
    {value : Value} (settable : Settable value) : Storable (.object (Members.insert fields name value))
  erase_storable {fields : Members} (storable : Storable (.object fields)) (name : String) :
    Storable (.object (Members.erase fields name))
  text_settable (s : String) : Settable (.text s)
  texts_settable (items : List String) : Settable (Json.texts items)

/-! Stores in memory -/

instance : Reliable Memory where
  Holds memory held := Members.get? memory.entries = held
  Storable _ := True
  Settable _ := True
  reads key _ _ holds := ⟨congrArg Except.ok (congrFun holds key), holds⟩
  writes key value _ memory _ holds := ⟨rfl, holds ▸ Members.get_insert memory.entries key value⟩
  deletes key memory _ holds := ⟨rfl, holds ▸ Members.get_erase memory.entries key⟩
  held_storable _ _ _ _ := trivial
  text_storable _ := trivial
  empty_storable := trivial
  insert_storable _ _ _ _ := trivial
  erase_storable _ _ := trivial
  text_settable _ := trivial
  texts_settable _ := trivial

/-! Stores in a file -/

/-- The document can be read, has no doubles, and can be saved whatever is in it. -/
structure FileStore.InOrder (store : FileStore) (entries : Members) : Prop where
  loads : store.load = .ok entries
  exact : (Value.object entries).Exact maxLevels
  saves : store.Saves

theorem FileStore.inOrder_of_load {store : FileStore} {entries : Members}
    (loads : store.load = .ok entries) (whole : ∀ member ∈ entries, member.2.Whole)
    (saves : store.Saves) : store.InOrder entries :=
  ⟨loads, ⟨(load_sound loads).fits, .object whole⟩, saves⟩

namespace FileStore.InOrder

variable {store : FileStore} {entries : Members}

theorem save (inOrder : store.InOrder entries) {others : Members}
    (exact : (Value.object others).Exact maxLevels) :
    (store.save others).1 = .ok () ∧ (store.save others).2.InOrder others := by
  have done := inOrder.saves.save_done others
  obtain ⟨content, again⟩ := FileStore.lasts_of_save done
  have reread := readDocument_writeDocument (keepable_iff_exact.mpr exact)
  exact ⟨done, (load_of_read content).trans reread, exact, again⟩

theorem change (inOrder : store.InOrder entries) {f : Members → Members}
    (exact : (Value.object (f entries)).Exact maxLevels) :
    (store.change f).1 = .ok () ∧ (store.change f).2.InOrder (f entries) := by
  unfold FileStore.change
  rw [inOrder.loads]
  exact inOrder.save exact

end FileStore.InOrder

instance : Reliable FileStore where
  Holds store held := ∃ entries, store.InOrder entries ∧ held = Members.get? entries
  Storable value := value.Exact (maxLevels - 1)
  Settable value := value.Exact (maxLevels - 2)
  reads key store held := by
    rintro ⟨entries, inOrder, rfl⟩
    refine ⟨?_, entries, inOrder, rfl⟩
    show store.load.map (fun entries => Members.get? entries key) = _
    rw [inOrder.loads]
    rfl
  writes key value exact store held := by
    rintro ⟨entries, inOrder, rfl⟩
    have inside : (Value.object entries).Exact (maxLevels - 1 + 1) := inOrder.exact
    obtain ⟨done, after⟩ := inOrder.change (f := fun entries => Members.insert entries key value)
      (inside.insert key exact)
    exact ⟨done, _, after, (Members.get_insert entries key value).symm⟩
  deletes key store held := by
    rintro ⟨entries, inOrder, rfl⟩
    have inside : (Value.object entries).Exact (maxLevels - 1 + 1) := inOrder.exact
    obtain ⟨done, after⟩ := inOrder.change (f := fun entries => Members.erase entries key)
      (inside.erase key)
    exact ⟨done, _, after, (Members.get_erase entries key).symm⟩
  held_storable {store held} := by
    rintro ⟨entries, inOrder, rfl⟩ key value found
    exact (Json.exact_object_iff.mp inOrder.exact).2 (key, value) (Members.mem_of_get found)
  text_storable := Json.exact_text _
  empty_storable := Json.exact_empty _
  insert_storable storable name value settable := storable.insert name settable
  erase_storable storable name := storable.erase name
  text_settable := Json.exact_text _
  texts_settable := Json.exact_texts _

def filed : FileStore :=
  ⟨⟨["s.json"]⟩, ⟨.directory [("s.json", .file (Text.encode
    "\x7b \"theme\": \"dark\", \"storage_data\": \x7b \"user_id\": \"1\" \x7d \x7d"))], []⟩⟩

def filedEntries : Members :=
  [(fieldsKey, .object [("user_id", .text "1")]), ("theme", .text "dark")]

theorem filed_in_order : filed.InOrder filedEntries := by
  refine FileStore.inOrder_of_load rfl ?_ fun _ => rfl
  intro member among
  rcases List.mem_cons.mp among with rfl | among
  · exact .object fun member among => by
      rw [List.mem_singleton.mp among]
      exact .text "1"
  · rw [List.mem_singleton.mp among]
    exact .text "dark"

end SessionGate.Storage
