import SessionGate.Proofs.Storage.Ways

/- Whether a document can be saved does not depend on what is in it, and one that was saved once can be saved
   again. The directories on its way are there by then, the file beside it is gone, and in its place there
   stands a file. -/
namespace SessionGate.Storage

open Text (Bytes)
open Json (bind_ok_iff ok_of_mapError)

namespace Node

/-! Where a change can be made -/

theorem child_of_lookup {entries : List (String × Node)} {name : String} {old : Option Node}
    (known : lookup entries name = .ok old) : child? entries name = old := by
  unfold lookup at known
  split at known
  · cases known
  · exact Except.ok.inj known

theorem setChild_same {entries : List (String × Node)} {name : String} {node : Node}
    (known : child? entries name = some node) : setChild entries name node = entries := by
  induction entries with
  | nil => cases known
  | cons entry rest ih =>
    by_cases same : entry.1 = name
    · simp only [child?, List.find?_cons, same, decide_true, Option.map_some,
        Option.some.injEq] at known
      simp only [setChild, same, if_true, ← known]
      rw [← same]
    · simp only [child?, List.find?_cons, same, decide_false] at known
      simp only [setChild, same, if_false, ih known]

theorem update_same {change : Option Node → Except PathError (Option Node)} {node : Node}
    (leaves : change (some node) = .ok (some node)) {way : List String} (below : way ≠ [])
    {top : Node} (found : find way top = .ok node) : update change way top = .ok top := by
  induction way generalizing top with
  | nil => exact absurd rfl below
  | cons name rest ih =>
    cases top with
    | file content => cases found
    | directory entries =>
      obtain ⟨child, known, inner⟩ := (find_cons_iff _ _ _ _).mp found
      have here := setChild_same (child_of_lookup known)
      cases rest with
      | nil =>
        cases inner
        simp only [update, known, leaves, here]
      | cons next rest =>
        have deeper := ih (List.cons_ne_nil _ _) inner
        simp only [update, known, deeper, here]

/-- A way on which all but the last name leads through directories, and no name is too long. -/
inductive Reaches : List String → Node → Prop where
  | last {name : String} {entries : List (String × Node)} (short : isOverlong name = false) :
      Reaches [name] (.directory entries)
  | next {name : String} {way : List String} {entries inside : List (String × Node)}
      (known : lookup entries name = .ok (some (.directory inside)))
      (later : Reaches way (.directory inside)) : Reaches (name :: way) (.directory entries)

theorem short_of_lookup {entries : List (String × Node)} {name : String} {old : Option Node}
    (known : lookup entries name = .ok old) : isOverlong name = false := by
  unfold lookup at known
  split at known
  · cases known
  · rename_i short
    exact Bool.eq_false_iff.mpr short

theorem Updated.reaches {change : Option Node → Except PathError (Option Node)} {way : List String}
    {before after : Node} (updated : Updated change way before after) : Reaches way before := by
  induction updated with
  | dropped known _ => exact .last (short_of_lookup known)
  | placed known _ => exact .last (short_of_lookup known)
  | @deeper name next rest entries old node known inner ih =>
    cases inner <;> exact .next known ih

theorem Reaches.covered {way : List String} {before after : Node} (reaches : Reaches way before)
    (covers : Covers before after) : Reaches way after := by
  induction reaches generalizing after with
  | @last name entries short =>
    obtain ⟨others, same⟩ := covers [] entries rfl
    cases same
    exact .last short
  | @next name way entries inside known later ih =>
    obtain ⟨others, same⟩ := covers [] entries rfl
    cases same
    obtain ⟨more, there, deeper⟩ := covers.child known
    exact .next there (ih deeper)

theorem Reaches.updates {change : Option Node → Except PathError (Option Node)} {way : List String}
    {top : Node} (reaches : Reaches way top)
    (accepts : ∀ old, stands top way = old.map content? → ∃ new, change old = .ok new) :
    ∃ after, update change way top = .ok after := by
  induction reaches with
  | @last name entries short =>
    have known : lookup entries name = .ok (child? entries name) := by
      simp only [lookup, short, Bool.false_eq_true, if_false]
    have stood : stands (.directory entries) [name] = (child? entries name).map content? := by
      cases there : child? entries name <;> simp [stands, find, known, there, Except.toOption]
    obtain ⟨new, changed⟩ := accepts _ stood
    cases new <;> simp only [update, known, changed] <;> exact ⟨_, rfl⟩
  | @next name way entries inside known later ih =>
    have stood : stands (.directory entries) (name :: way) = stands (.directory inside) way := by
      simp only [stands, find, known]
    rw [stood] at accepts
    obtain ⟨after, updated⟩ := ih accepts
    cases later with
    | last short =>
      simp only [update, known] at updated ⊢
      exact ⟨_, by rw [updated]⟩
    | next there later =>
      simp only [update, known] at updated ⊢
      exact ⟨_, by rw [updated]⟩

end Node

namespace FileTree

section Steps

variable {path : Path} {before after : FileTree} {way : List String} {content : Bytes}

/-! Directories -/

/-- A directory is there and needs not be made. -/
def Made (path : Path) (tree : FileTree) : Prop :=
  ∃ way, locate path tree = .ok way ∧
    (way = [] ∨ ∃ entries, Node.find way tree.top = .ok (.directory entries))

theorem located_later (located : locate path before = .ok way) (home : after.home = before.home)
    (covers : Node.Covers before.top after.top) : locate path after = .ok way := by
  rw [locate_ok_iff] at located ⊢
  have same : route path after = route path before := by simp only [route, base, home]
  exact ⟨located.1, same ▸ covers.resolves .nil located.2⟩

theorem Made.later (made : Made path before) (home : after.home = before.home)
    (covers : Node.Covers before.top after.top) : Made path after := by
  obtain ⟨way, located, there⟩ := made
  refine ⟨way, located_later located home covers, there.imp_right ?_⟩
  rintro ⟨entries, found⟩
  exact covers way entries found

theorem needDirectory_places {old new : Option Node} (changed : needDirectory old = .ok new) :
    ∃ entries, new = some (.directory entries) := by
  unfold needDirectory at changed
  split at changed
  · cases changed
  · cases changed
    exact ⟨_, rfl⟩
  · cases changed
    exact ⟨[], rfl⟩

theorem made_of_makeDirectory (made : makeDirectory path before = .ok after) : Made path after := by
  obtain ⟨way, located, later⟩ := (bind_ok_iff _ _ _).mp made
  by_cases top : way = []
  · simp only [top, if_true] at later
    cases later
    exact ⟨way, located, Or.inl top⟩
  · simp only [top, if_false] at later
    obtain ⟨changes, old, new, changed, _, is⟩ :=
      update_changes needDirectory_spares needDirectory_plants later
    obtain ⟨entries, rfl⟩ := needDirectory_places changed
    obtain ⟨node, found, directory⟩ := (Node.stands_some_iff _ _ _).mp is
    obtain ⟨inside, rfl⟩ := (Node.content_directory_iff node).mp directory
    exact ⟨way, changes.locates located, Or.inr ⟨inside, found⟩⟩

theorem Made.makeDirectory (made : Made path before) : makeDirectory path before = .ok before := by
  obtain ⟨way, located, there⟩ := made
  unfold FileTree.makeDirectory
  rw [located]
  by_cases top : way = []
  · simp only [Json.ok_bind, top, if_true]
    rfl
  · obtain ⟨entries, found⟩ := there.resolve_left top
    have leaves : needDirectory (some (.directory entries)) = .ok (some (.directory entries)) := rfl
    simp only [Json.ok_bind, top, if_false, update, Node.update_same leaves top found]
    rfl

/-! Files -/

structure Takes (way : List String) (tree : FileTree) : Prop where
  reaches : Node.Reaches way tree.top
  free : tree.top.stands way ≠ some none

structure Placed (way : List String) (content : Bytes) (before after : FileTree) : Prop where
  changes : ChangesAt way before after
  reaches : Node.Reaches way before.top
  stands : after.top.stands way = some (some content)

theorem placed_of_update (updated : update (replaceFile content) way before = .ok after) :
    Placed way content before after := by
  obtain ⟨changes, old, new, changed, _, is⟩ :=
    update_changes (replaceFile_spares content) (replaceFile_plants content) updated
  cases replaceFile_places content old new changed
  exact ⟨changes, (updated_top updated).1.reaches, is⟩

theorem takes_of_update (updated : update (replaceFile content) way before = .ok after) :
    Takes way before := by
  refine ⟨(updated_top updated).1.reaches, ?_⟩
  obtain ⟨_, old, new, changed, was, _⟩ :=
    update_changes (replaceFile_spares content) (replaceFile_plants content) updated
  rw [was]
  match old with
  | none => nofun
  | some (.file kept) => nofun
  | some (.directory entries) => cases changed

theorem Placed.uncovers (placed : Placed way content before after) :
    Node.Covers after.top before.top := by
  intro other entries found
  have stood := Node.stands_of_found found
  have elsewhere : other ≠ way := by
    rintro rfl
    cases placed.stands.symm.trans stood
  rw [placed.changes.elsewhere other elsewhere] at stood
  obtain ⟨node, there, directory⟩ := (Node.stands_some_iff _ _ _).mp stood
  obtain ⟨inside, rfl⟩ := (Node.content_directory_iff node).mp directory
  exact ⟨inside, there⟩

theorem Placed.takes (placed : Placed way content before after) : Takes way after :=
  ⟨placed.reaches.covered placed.changes.covers, by simp [placed.stands]⟩

theorem ChangesAt.takes {other : List String} (changes : ChangesAt other before after)
    (takes : Takes way before) (elsewhere : way ≠ other) : Takes way after :=
  ⟨takes.reaches.covered changes.covers, by rw [changes.elsewhere way elsewhere]; exact takes.free⟩

theorem Takes.update (takes : Takes way before) (content : Bytes) :
    ∃ after, update (replaceFile content) way before = .ok after := by
  have accepts : ∀ old, before.top.stands way = old.map Node.content? →
      ∃ new, replaceFile content old = .ok new := by
    intro old stood
    match old with
    | none => exact ⟨_, rfl⟩
    | some (.file kept) => exact ⟨_, rfl⟩
    | some (.directory entries) => exact absurd stood takes.free
  obtain ⟨top, updated⟩ := takes.reaches.updates accepts
  exact ⟨⟨top, before.home⟩, by rw [FileTree.update, updated]; rfl⟩

theorem dropFile_updates (reaches : Node.Reaches way before.top)
    (stood : before.top.stands way = some (some content)) :
    ∃ after, update dropFile way before = .ok after := by
  have accepts : ∀ old, before.top.stands way = old.map Node.content? →
      ∃ new, dropFile old = .ok new := by
    intro old same
    rw [stood] at same
    match old with
    | none => cases same
    | some (.file kept) => exact ⟨_, rfl⟩
    | some (.directory entries) => cases same
  obtain ⟨top, updated⟩ := reaches.updates accepts
  exact ⟨⟨top, before.home⟩, by rw [FileTree.update, updated]; rfl⟩

/-! Saves -/

theorem parents_made {uppers : List Path}
    (applied : applyAll (uppers.map .makeDirectory) before = (.ok (), after)) :
    (∀ upper ∈ uppers, Made upper after) ∧ after.home = before.home ∧
      Node.Covers before.top after.top := by
  induction uppers generalizing before with
  | nil =>
    cases applied
    exact ⟨nofun, rfl, fun _ entries found => ⟨entries, found⟩⟩
  | cons upper rest ih =>
    simp only [List.map_cons, applyAll] at applied
    split at applied
    · cases applied
    · rename_i next made
      obtain ⟨others, home, covers⟩ := ih applied
      obtain ⟨_, _, changes, _⟩ := makeDirectory_changes made
      refine ⟨List.forall_mem_cons.mpr ⟨?_, others⟩, home.trans changes.home, ?_⟩
      · exact (made_of_makeDirectory made).later home covers
      · intro way entries found
        obtain ⟨inside, there⟩ := changes.covers way entries found
        exact covers way inside there

theorem parents_again {uppers : List Path} (made : ∀ upper ∈ uppers, Made upper before) :
    applyAll (uppers.map .makeDirectory) before = (.ok (), before) := by
  induction uppers with
  | nil => rfl
  | cons upper rest ih =>
    obtain ⟨first, others⟩ := List.forall_mem_cons.mp made
    simp only [List.map_cons, applyAll, apply, first.makeDirectory]
    exact ih others

/-- All is in place for a document to be saved, whatever is in it. -/
structure Ready (path : Path) (tree : FileTree) : Prop where
  parents : ∀ upper ∈ path.above, Made upper tree
  beside : path.temporary.ending = .name ∧
    ∃ way, locate path.temporary tree = .ok way ∧ Takes way tree
  place : path.ending = .name ∧ ∃ way, locate path tree = .ok way ∧ Takes way tree

theorem ready_of_saved (saved : applyAll (saveSteps path content) before = (.ok (), after)) :
    Ready path after := by
  obtain ⟨start, parents, last⟩ := (applyAll_append_iff _ _ _ _).mp saved
  obtain ⟨beside, written, renamed⟩ := (applyAll_pair_iff _ _ _ _).mp last
  obtain ⟨made, _, _⟩ := parents_made parents
  obtain ⟨old, located, besideNamed, updated⟩ := (write_ok_iff _ _ _ _).mp written
  obtain ⟨kept, from', new, _, known, to', named, moved⟩ := (rename_ok_iff _ _ _ _).mp renamed
  have first := placed_of_update updated
  cases known.symm.trans (first.changes.locates located)
  have makes {last : FileTree} (home : last.home = beside.home)
      (covers : Node.Covers beside.top last.top) : ∀ upper ∈ path.above, Made upper last :=
    fun upper among => ((made upper among).later first.changes.home first.changes.covers).later
      home covers
  cases moved with
  | still same unchanged =>
    subst unchanged same
    exact ⟨makes rfl fun _ entries found => ⟨entries, found⟩, ⟨besideNamed, old, known, first.takes⟩,
      named, old, to', first.takes⟩
  | @moved between differs placed dropped =>
    have second := placed_of_update placed
    obtain ⟨third, gone⟩ := drop_changes dropped
    have free : after.top.stands old ≠ some none := by simp [gone]
    have covers : Node.Covers beside.top after.top := by
      intro way entries found
      obtain ⟨inside, there⟩ := second.changes.covers way entries found
      exact third.covers way inside there
    refine ⟨makes (third.home.trans second.changes.home) covers, ⟨besideNamed, old, ?_, ?_⟩,
      named, new, ?_, ?_⟩
    · exact third.locates (second.changes.locates known)
    · exact ⟨first.takes.reaches.covered covers, free⟩
    · exact third.locates (second.changes.locates to')
    · exact third.takes second.takes (Ne.symm differs)

theorem Ready.puts (ready : Ready path before) (content : Bytes) : ∃ after,
    applyAll [.write path.temporary content, .rename path.temporary path] before =
      (.ok (), after) := by
  obtain ⟨besideNamed, old, located, takes⟩ := ready.beside
  obtain ⟨named, new, placeLocated, placeTakes⟩ := ready.place
  obtain ⟨beside, updated⟩ := takes.update content
  have written : write path.temporary content before = .ok beside :=
    (write_ok_iff _ _ _ _).mpr ⟨old, located, besideNamed, updated⟩
  have first := placed_of_update updated
  have renamed : ∃ after, rename path.temporary path beside = .ok after := by
    simp only [rename_ok_iff]
    by_cases same : old = new
    · exact ⟨beside, content, old, new, write_reads_back written, first.changes.locates located,
        first.changes.locates placeLocated, named, .still same rfl⟩
    · obtain ⟨between, placed⟩ :=
        (first.changes.takes placeTakes (Ne.symm same)).update content
      have second := placed_of_update placed
      have stood : between.top.stands old = some (some content) :=
        (second.changes.elsewhere old same).trans first.stands
      obtain ⟨after, dropped⟩ := dropFile_updates
        (first.takes.reaches.covered second.changes.covers) stood
      exact ⟨after, content, old, new, write_reads_back written, first.changes.locates located,
        first.changes.locates placeLocated, named, .moved same placed dropped⟩
  obtain ⟨after, moved⟩ := renamed
  exact ⟨after, (applyAll_pair_iff _ _ _ _).mpr ⟨beside, written, moved⟩⟩

theorem saved_again (saved : applyAll (saveSteps path content) before = (.ok (), after))
    (other : Bytes) : ∃ last, applyAll (saveSteps path other) after = (.ok (), last) := by
  have ready := ready_of_saved saved
  obtain ⟨last, put⟩ := ready.puts other
  exact ⟨last, (applyAll_append_iff _ _ _ _).mpr ⟨after, parents_again ready.parents, put⟩⟩

theorem ready_to_put {beside : FileTree} (made : ∀ upper ∈ path.above, Made upper before)
    (written : write path.temporary content before = .ok beside)
    (renamed : rename path.temporary path beside = .ok after) : Ready path before := by
  obtain ⟨old, located, besideNamed, updated⟩ := (write_ok_iff _ _ _ _).mp written
  obtain ⟨kept, from', new, _, known, to', named, moved⟩ := (rename_ok_iff _ _ _ _).mp renamed
  have first := placed_of_update updated
  cases known.symm.trans (first.changes.locates located)
  have takes := takes_of_update updated
  have place := located_later to' first.changes.home.symm first.uncovers
  refine ⟨made, ⟨besideNamed, old, located, takes⟩, named, new, place, ?_⟩
  by_cases same : new = old
  · exact same ▸ takes
  · cases moved with
    | still alike => exact absurd alike.symm same
    | moved differs placed =>
      obtain ⟨reaches, free⟩ := takes_of_update placed
      exact ⟨reaches.covered first.uncovers, first.changes.elsewhere new same ▸ free⟩

/-- Where one document can be saved, any other can. -/
theorem saved_whatever (saved : applyAll (saveSteps path content) before = (.ok (), after))
    (other : Bytes) : (applyAll (saveSteps path other) before).1 = .ok () := by
  obtain ⟨start, parents, last⟩ := (applyAll_append_iff _ _ _ _).mp saved
  obtain ⟨beside, written, renamed⟩ := (applyAll_pair_iff _ _ _ _).mp last
  obtain ⟨made, _, _⟩ := parents_made parents
  obtain ⟨put, done⟩ := (ready_to_put made written renamed).puts other
  have again : applyAll (saveSteps path other) before = (.ok (), put) :=
    (applyAll_append_iff _ _ _ _).mpr ⟨start, parents, done⟩
  exact congrArg Prod.fst again

end Steps

end FileTree

namespace FileStore

def Saves (store : FileStore) : Prop :=
  ∀ content, (FileTree.applyAll (saveSteps store.path content) store.tree).1 = .ok ()

theorem saves_iff (store : FileStore) (content : Bytes) :
    (FileTree.applyAll (saveSteps store.path content) store.tree).1 = .ok () ↔ store.Saves :=
  ⟨fun done => FileTree.saved_whatever (Prod.ext done rfl), fun saves => saves content⟩

theorem Saves.save_done {store : FileStore} (saves : store.Saves) (entries : Json.Members) :
    (store.save entries).1 = .ok () :=
  congrArg (Except.mapError Error.path) (saves (writeDocument entries))

theorem saves_of_save {store : FileStore} {entries : Json.Members}
    (done : (store.save entries).1 = .ok ()) : store.Saves :=
  (store.saves_iff (writeDocument entries)).mp (ok_of_mapError done)

theorem lasts_of_save {store : FileStore} {entries : Json.Members}
    (done : (store.save entries).1 = .ok ()) :
    FileTree.read (store.save entries).2.path (store.save entries).2.tree =
        .ok (writeDocument entries) ∧
      (store.save entries).2.Saves := by
  have applied : FileTree.applyAll (saveSteps store.path (writeDocument entries)) store.tree =
      (.ok (), (store.save entries).2.tree) := Prod.ext (ok_of_mapError done) rfl
  refine ⟨FileTree.save_reads_back applied, fun content => ?_⟩
  obtain ⟨last, again⟩ := FileTree.saved_again applied content
  exact congrArg Prod.fst again

end FileStore

end SessionGate.Storage
