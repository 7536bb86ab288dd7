import SessionGate.Proofs.Storage.Beside

/- Changes to a document that are cut off. The new document is written beside the old one and takes its place
   in the last step, so that whoever looks at the document finds one or the other, whole. -/
namespace SessionGate.Storage

open Text (Bytes)
open Json (Value Members bind_ok_iff)

namespace FileTree

/-! What is left by steps that are cut off -/

/-- After so many steps, of which the next may have written a part of its content. -/
inductive LeftOff : List Step → Nat → FileTree → FileTree → Prop where
  | start (steps : List Step) (tree : FileTree) : LeftOff steps 0 tree tree
  | amid {path : Path} {content part : Bytes} {rest : List Step} {tree after : FileTree}
      (partly : part <+: content) (written : write path part tree = .ok after) :
      LeftOff (.write path content :: rest) 0 tree after
  | next {step : Step} {rest : List Step} {taken : Nat} {tree between after : FileTree}
      (applied : apply step tree = .ok between) (later : LeftOff rest taken between after) :
      LeftOff (step :: rest) (taken + 1) tree after

theorem LeftOff.of_append {first second : List Step} {taken : Nat} {tree after : FileTree}
    (leftOff : LeftOff (first ++ second) taken tree after) :
    (taken < first.length ∧ LeftOff first taken tree after) ∨
      ∃ more between, taken = first.length + more ∧ LeftOff first first.length tree between ∧
        LeftOff second more between after := by
  induction first generalizing taken tree with
  | nil => exact Or.inr ⟨taken, tree, by simp, .start _ _, leftOff⟩
  | cons step rest ih =>
    cases leftOff with
    | start => exact Or.inl ⟨by simp, .start _ _⟩
    | amid partly written => exact Or.inl ⟨by simp, .amid partly written⟩
    | next applied later =>
      rcases ih later with ⟨short, early⟩ | ⟨more, between, count, whole, late⟩
      · exact Or.inl ⟨by simpa using short, .next applied early⟩
      · refine Or.inr ⟨more, between, ?_, .next applied whole, late⟩
        simp only [List.length_cons]
        omega

theorem leftOff_of_applyAll (steps : List Step) (tree : FileTree) :
    ∃ taken, LeftOff steps taken tree (applyAll steps tree).2 ∧
      ((applyAll steps tree).1 = .ok () ∧ taken = steps.length ∨
        (∃ e, (applyAll steps tree).1 = .error e) ∧ taken < steps.length) := by
  induction steps generalizing tree with
  | nil => exact ⟨0, .start _ _, Or.inl ⟨rfl, rfl⟩⟩
  | cons step rest ih =>
    simp only [applyAll]
    cases applied : apply step tree with
    | error e => exact ⟨0, .start _ _, Or.inr ⟨⟨e, rfl⟩, by simp⟩⟩
    | ok between =>
      obtain ⟨taken, later, outcome⟩ := ih between
      refine ⟨taken + 1, .next applied later, ?_⟩
      simpa using outcome

/-- All files but those in some places are as they were, and no directory is gone. -/
structure IntactBut (places : List (List String)) (before after : FileTree) : Prop where
  home : after.home = before.home
  covers : Node.Covers before.top after.top
  files : ∀ way, way ∉ places → ∀ content,
    after.top.stands way = some (some content) ↔ before.top.stands way = some (some content)

theorem IntactBut.refl (tree : FileTree) : IntactBut [] tree tree :=
  ⟨rfl, fun _ entries found => ⟨entries, found⟩, fun _ _ _ => Iff.rfl⟩

theorem ChangesAt.intact {way : List String} {before after : FileTree}
    (changes : ChangesAt way before after) : IntactBut [way] before after := by
  refine ⟨changes.home, changes.covers, ?_⟩
  intro other elsewhere content
  rw [changes.elsewhere other (by simpa using elsewhere)]

theorem IntactBut.trans {places others : List (List String)} {before between after : FileTree}
    (first : IntactBut places before between) (second : IntactBut others between after) :
    IntactBut (places ++ others) before after := by
  refine ⟨second.home.trans first.home, ?_, ?_⟩
  · intro way entries found
    obtain ⟨inside, there⟩ := first.covers way entries found
    exact second.covers way inside there
  · intro way elsewhere content
    obtain ⟨one, other⟩ := not_or.mp (mt List.mem_append.mpr elsewhere)
    exact (second.files way other content).trans (first.files way one content)

def Confined (path : Path) (before after : FileTree) : Prop :=
  ∃ places, IntactBut places before after ∧
    ∀ place ∈ places, locate path after = .ok place ∨ locate path.temporary after = .ok place

section Saving

variable {path : Path} {tree after : FileTree} {way : List String} {content : Bytes} {taken : Nat}

theorem holds_of_located (located : locate path tree = .ok way) :
    holds path tree = tree.top.stands way := by
  simp only [holds, find, located, Node.stands]
  rfl

/-! Parents -/

theorem above_route {upper : Path} (among : upper ∈ path.above) (tree : FileTree) :
    ∃ rest, route path tree = route upper tree ++ rest ∧ route upper tree ≠ [] ∧ rest ≠ [] := by
  simp only [Path.above, List.mem_map, List.mem_range] at among
  obtain ⟨n, short, rfl⟩ := among
  have taken : path.names.take (n + 1) ≠ [] := by
    intro none
    have length := congrArg List.length none
    rw [List.length_take, List.length_nil] at length
    omega
  have named : ∀ name ∈ path.names, Path.isName name = true :=
    fun name member => (List.mem_filter.mp member).2
  generalize start : (if path.isAbsolute then [""] else [] : List String) = parts
  have names : (Path.mk (parts ++ path.names.take (n + 1))).names = path.names.take (n + 1) := by
    have kept : (path.names.take (n + 1)).filter Path.isName = path.names.take (n + 1) :=
      List.filter_eq_self.mpr fun name member => named name (List.mem_of_mem_take member)
    rw [Path.names, List.filter_append, kept, ← start]
    cases path.isAbsolute <;> rfl
  have absolute : (Path.mk (parts ++ path.names.take (n + 1))).isAbsolute = path.isAbsolute := by
    cases first : path.names.take (n + 1) with
    | nil => exact absurd first taken
    | cons name rest =>
      have present := named name (List.mem_of_mem_take (first ▸ List.mem_cons_self))
      rw [← start]
      cases path.isAbsolute with
      | true => rfl
      | false =>
        have visible : name ≠ "" := by
          rintro rfl
          exact absurd present (by decide)
        simp [Path.isAbsolute, visible]
  refine ⟨path.names.drop (n + 1), ?_, ?_, ?_⟩
  · rw [route, route, base, base, names, absolute, List.append_assoc, List.take_append_drop]
  · rw [route, names]
    simp [taken]
  · intro none
    have length := congrArg List.length none
    rw [List.length_drop, List.length_nil] at length
    omega

theorem parent_intact {upper : Path} (among : upper ∈ path.above) (leads : Leads path tree way)
    (made : makeDirectory upper tree = .ok after) :
    IntactBut [] tree after ∧ after.top.stands way = tree.top.stands way := by
  obtain ⟨place, located, changes, still | ⟨is, was⟩⟩ := makeDirectory_changes made
  · subst still
    exact ⟨.refl _, rfl⟩
  · refine ⟨⟨changes.home, changes.covers, ?_⟩, ?_⟩
    · intro other _ content
      by_cases same : other = place
      · subst same
        simp [is, was]
      · rw [changes.elsewhere other same]
    · obtain ⟨rest, split, named, more⟩ := above_route among tree
      by_cases same : way = place
      · subst same
        have directory := (leads.above split named more located).resolve_left (· rfl)
        rw [is, directory]
      · exact changes.elsewhere way same

theorem parents_intact {uppers : List Path} (among : ∀ upper ∈ uppers, upper ∈ path.above)
    (leads : Leads path tree way) (leftOff : LeftOff (uppers.map .makeDirectory) taken tree after) :
    IntactBut [] tree after ∧ after.top.stands way = tree.top.stands way := by
  induction uppers generalizing tree taken with
  | nil =>
    cases leftOff
    exact ⟨.refl _, rfl⟩
  | cons upper rest ih =>
    obtain ⟨first, others⟩ := List.forall_mem_cons.mp among
    cases leftOff with
    | start => exact ⟨.refl _, rfl⟩
    | next applied later =>
      obtain ⟨one, same⟩ := parent_intact first leads applied
      obtain ⟨more, still⟩ := ih others (leads.later one.home one.covers) later
      exact ⟨one.trans more, still.trans same⟩

/-! The document -/

theorem beside_changes (named : path.Named) (steps : StepsBack path tree)
    (leads : Leads path tree way) (written : write path.temporary content tree = .ok after) :
    ∃ other, other ≠ way ∧ locate path.temporary after = .ok other ∧ ChangesAt other tree after := by
  obtain ⟨other, away, differs⟩ := temporary_leads named steps leads written
  obtain ⟨place, located, changes, _⟩ := write_changes written
  cases away.located located
  exact ⟨_, differs, changes.locates located, changes⟩

theorem replaced_changes {other : List String} (located : locate path.temporary tree = .ok other)
    (leads : Leads path tree way) (differs : other ≠ way)
    (renamed : rename path.temporary path tree = .ok after) :
    IntactBut [way, other] tree after ∧ locate path after = .ok way ∧
      locate path.temporary after = .ok other ∧ after.top.stands other = none := by
  obtain ⟨old, new, from', to', same | ⟨between, placed, dropped, gone⟩⟩ := rename_changes renamed
  · cases leads.located to'
    cases from'.symm.trans located
    exact absurd same differs
  · cases leads.located to'
    cases from'.symm.trans located
    exact ⟨placed.intact.trans dropped.intact, dropped.locates (placed.locates to'),
      dropped.locates (placed.locates from'), gone⟩

theorem leftOff_replace (named : path.Named) (steps : StepsBack path tree)
    (leads : Leads path tree way)
    (leftOff : LeftOff [.write path.temporary content, .rename path.temporary path] taken tree after) :
    Confined path tree after ∧
      (taken < 2 ∧ after.top.stands way = tree.top.stands way ∨
        taken = 2 ∧ read path after = .ok content ∧ holds path.temporary after = none) := by
  have beside {part : Bytes} (written : write path.temporary part tree = .ok after) :
      Confined path tree after ∧ after.top.stands way = tree.top.stands way := by
    obtain ⟨other, differs, located, changes⟩ := beside_changes named steps leads written
    refine ⟨⟨[other], changes.intact, ?_⟩, changes.elsewhere way (Ne.symm differs)⟩
    intro place member
    exact Or.inr (List.mem_singleton.mp member ▸ located)
  cases leftOff with
  | start => exact ⟨⟨[], .refl _, nofun⟩, Or.inl ⟨by omega, rfl⟩⟩
  | amid partly written =>
    obtain ⟨confined, same⟩ := beside written
    exact ⟨confined, Or.inl ⟨by omega, same⟩⟩
  | next written later =>
    cases later with
    | start =>
      obtain ⟨confined, same⟩ := beside written
      exact ⟨confined, Or.inl ⟨by omega, same⟩⟩
    | next renamed last =>
      cases last
      obtain ⟨other, differs, located, changes⟩ := beside_changes named steps leads written
      obtain ⟨intact, document, temporary, nothing⟩ := replaced_changes located
        (leads.later changes.home changes.covers) differs renamed
      refine ⟨⟨_, changes.intact.trans intact, ?_⟩, Or.inr ⟨rfl, ?_, ?_⟩⟩
      · intro place member
        simp only [List.singleton_append, List.mem_cons, List.not_mem_nil, or_false] at member
        rcases member with rfl | rfl | rfl
        · exact Or.inr temporary
        · exact Or.inl document
        · exact Or.inr temporary
      · exact rename_reads_back (write_reads_back written) renamed
      · rw [holds_of_located temporary, nothing]

theorem Confined.behind {between : FileTree} (intact : IntactBut [] tree between)
    (confined : Confined path between after) : Confined path tree after := by
  obtain ⟨places, rest, known⟩ := confined
  exact ⟨places, intact.trans rest, known⟩

theorem leftOff_save (named : path.Named) (steps : StepsBack path tree)
    (leftOff : LeftOff (saveSteps path content) taken tree after) :
    Confined path tree after ∧
      (taken < (saveSteps path content).length ∧ holds path after = holds path tree ∨
        taken = (saveSteps path content).length ∧ read path after = .ok content ∧
          holds path.temporary after = none) := by
  obtain ⟨before, name, ends⟩ := named.ends
  obtain ⟨names, _, split, _⟩ := route_temporary ends tree
  obtain ⟨way, leads⟩ := leads_of_stepsBack steps split ends.forward
  have size : (saveSteps path content).length = path.above.length + 2 := by simp [saveSteps]
  rw [size]
  have all : ∀ upper ∈ path.above, upper ∈ path.above := fun _ among => among
  rcases leftOff.of_append with ⟨short, early⟩ | ⟨more, between, count, parents, late⟩
  · rw [List.length_map] at short
    obtain ⟨intact, same⟩ := parents_intact all leads early
    have later := leads.later intact.home intact.covers
    exact ⟨⟨[], intact, nofun⟩, Or.inl ⟨by omega, leads.holds_same later same⟩⟩
  · rw [List.length_map] at count
    obtain ⟨intact, same⟩ := parents_intact all leads parents
    obtain ⟨inside, outcome⟩ := leftOff_replace named (steps.later intact.home intact.covers)
      (leads.later intact.home intact.covers) late
    have confined := inside.behind intact
    refine ⟨confined, ?_⟩
    rcases outcome with ⟨few, still⟩ | ⟨done, new⟩
    · obtain ⟨places, whole, _⟩ := confined
      have later := leads.later whole.home whole.covers
      exact Or.inl ⟨by omega, leads.holds_same later (still.trans same)⟩
    · exact Or.inr ⟨by omega, new⟩

end Saving

theorem rename_taken_iff (path : Path) (content : Bytes) (taken : Nat) :
    .rename path.temporary path ∈ (saveSteps path content).take taken ↔
      (saveSteps path content).length ≤ taken := by
  constructor
  · intro member
    by_contra short
    have front : saveSteps path content = (path.above.map Step.makeDirectory ++
        [.write path.temporary content]) ++ [.rename path.temporary path] := by simp [saveSteps]
    rw [front] at member short
    rw [List.length_append, List.length_singleton] at short
    rw [List.take_append_of_le_length (by omega)] at member
    simpa using List.mem_of_mem_take member
  · intro whole
    rw [List.take_of_length_le whole]
    simp [saveSteps]

end FileTree

/-! Changes -/

/-- What a store changes of its document. -/
inductive Change where
  | written (key : String) (value : Value)
  | deleted (key : String)

namespace Change

def edit : Change → Members → Members
  | .written key value => fun entries => Members.insert entries key value
  | .deleted key => fun entries => Members.erase entries key

def made (store : FileStore) : Change → Except Error Unit × FileStore
  | .written key value => Backend.write key value store
  | .deleted key => Backend.delete key store

def steps (store : FileStore) (change : Change) : List FileTree.Step :=
  match store.load with
  | .error _ => []
  | .ok entries => saveSteps store.path (writeDocument (change.edit entries))

theorem made_eq (store : FileStore) (change : Change) :
    change.made store = store.change change.edit := by
  cases change <;> rfl

end Change

open FileTree

def Renamed (store : FileStore) (change : Change) (taken : Nat) : Prop :=
  .rename store.path.temporary store.path ∈ (change.steps store).take taken

instance (store : FileStore) (change : Change) (taken : Nat) :
    Decidable (Renamed store change taken) :=
  inferInstanceAs (Decidable (_ ∈ (change.steps store).take taken))

def Complete (store : FileStore) (change : Change) (after : FileTree) : Prop :=
  ∃ entries, store.load = .ok entries ∧
    read store.path after = .ok (writeDocument (change.edit entries)) ∧
    holds store.path.temporary after = none

/-- A change to the document is made whole or not at all, wherever it is left off. -/
structure AllOrNothing (store : FileStore) (change : Change) : Prop where
  beside : store.path.temporary ≠ store.path
  nothing : ∀ taken after, LeftOff (change.steps store) taken store.tree after →
    ¬ Renamed store change taken → holds store.path after = holds store.path store.tree
  all : ∀ taken after, LeftOff (change.steps store) taken store.tree after →
    Renamed store change taken → Complete store change after
  confined : ∀ taken after, LeftOff (change.steps store) taken store.tree after →
    Confined store.path store.tree after
  made : ∃ taken, LeftOff (change.steps store) taken store.tree (change.made store).2.tree
  failed : ∀ e, (change.made store).1 = .error e →
    holds store.path (change.made store).2.tree = holds store.path store.tree
  done : (change.made store).1 = .ok () → Complete store change (change.made store).2.tree

section Changes

variable {store : FileStore} {change : Change}

theorem leftOff_steps (named : store.path.Named) (back : StepsBack store.path store.tree) {taken : Nat}
    {after : FileTree} (leftOff : LeftOff (change.steps store) taken store.tree after) :
    Confined store.path store.tree after ∧
      (¬ Renamed store change taken ∧ holds store.path after = holds store.path store.tree ∨
        Renamed store change taken ∧ Complete store change after) := by
  unfold Renamed Complete
  unfold Change.steps at leftOff ⊢
  cases loaded : store.load with
  | error e =>
    rw [loaded] at leftOff
    cases leftOff
    exact ⟨⟨[], .refl _, nofun⟩, Or.inl ⟨by simp, rfl⟩⟩
  | ok entries =>
    rw [loaded] at leftOff
    simp only [rename_taken_iff]
    obtain ⟨confined, ⟨short, same⟩ | ⟨whole, new⟩⟩ := leftOff_save named back leftOff
    · exact ⟨confined, Or.inl ⟨by omega, same⟩⟩
    · exact ⟨confined, Or.inr ⟨by omega, entries, rfl, new⟩⟩

theorem leftOff_made (store : FileStore) (change : Change) :
    ∃ taken, LeftOff (change.steps store) taken store.tree (change.made store).2.tree ∧
      ((change.made store).1 = .ok () ∧ Renamed store change taken ∨
        (∃ e, (change.made store).1 = .error e) ∧ ¬ Renamed store change taken) := by
  rw [change.made_eq]
  unfold Renamed Change.steps FileStore.change
  cases loaded : store.load with
  | error e => exact ⟨0, .start _ _, Or.inr ⟨⟨e, rfl⟩, by simp⟩⟩
  | ok entries =>
    obtain ⟨taken, leftOff, outcome⟩ := leftOff_of_applyAll
      (saveSteps store.path (writeDocument (change.edit entries))) store.tree
    simp only [rename_taken_iff]
    refine ⟨taken, leftOff, ?_⟩
    rcases outcome with ⟨done, whole⟩ | ⟨⟨e, failed⟩, short⟩
    · refine Or.inl ⟨?_, by omega⟩
      simp only [FileStore.save, done]
      rfl
    · refine Or.inr ⟨⟨.path e, ?_⟩, by omega⟩
      simp only [FileStore.save, failed]
      rfl

theorem temporary_differs {path : Path} (named : path.Named) : path.temporary ≠ path := by
  intro same
  obtain ⟨before, name, ends⟩ := named.ends
  obtain ⟨names, other, split, beside, differs⟩ := route_temporary ends FileTree.empty
  rw [same, split] at beside
  exact differs (List.cons.inj (List.append_inj_right' beside rfl)).1.symm

/- Steps back up are the one thing that parents made on the way can redirect, hence the condition on them. -/
theorem change_is_all_or_nothing (named : store.path.Named)
    (back : StepsBack store.path store.tree) (change : Change) : AllOrNothing store change := by
  obtain ⟨taken, leftOff, outcome⟩ := leftOff_made store change
  have left {taken : Nat} {after : FileTree}
      (leftOff : LeftOff (change.steps store) taken store.tree after) :=
    leftOff_steps named back leftOff
  refine ⟨temporary_differs named, ?_, ?_, fun _ _ later => (left later).1, ⟨taken, leftOff⟩, ?_, ?_⟩
  · intro taken after later early
    exact (left later).2.elim And.right fun late => absurd late.1 early
  · intro taken after later late
    exact (left later).2.elim (fun early => absurd late early.1) And.right
  · intro e failed
    rcases outcome with ⟨done, _⟩ | ⟨_, early⟩
    · cases done.symm.trans failed
    · exact (left leftOff).2.elim And.right fun late => absurd late.1 early
  · intro done
    rcases outcome with ⟨_, late⟩ | ⟨⟨e, failed⟩, _⟩
    · exact (left leftOff).2.elim (fun early => absurd late early.1) And.right
    · cases done.symm.trans failed

end Changes

def oldDocument : Bytes := Text.encode "\x7b\"k\": 1\x7d"

def roundabout : FileStore :=
  ⟨⟨["kept", "..", "s.json"]⟩, ⟨.directory [("kept", .empty), ("s.json", .file oldDocument)], []⟩⟩

def torn : FileTree :=
  ⟨.directory [("kept", .empty), ("s.json", .file oldDocument), ("s.json.tmp", .file [0x7B])], []⟩

theorem roundabout_stepsBack : StepsBack roundabout.path roundabout.tree := by
  intro front back split
  have route : ["kept", "..", "s.json"] = front ++ ".." :: back := split
  match front with
  | [] => simp at route
  | [name] =>
    obtain rfl : "kept" = name := (List.cons.inj route).1
    exact ⟨[], rfl⟩
  | name :: next :: [] => simp at route
  | name :: next :: last :: rest => simp at route

theorem torn_write_keeps_the_document :
    holds roundabout.path torn = some (some oldDocument) ∧
      Complete roundabout (.written "a" .null)
        (Change.made roundabout (.written "a" .null)).2.tree := by
  have named : roundabout.path.Named := ⟨["kept", ".."], "s.json", rfl, by decide⟩
  have whole := change_is_all_or_nothing named roundabout_stepsBack (.written "a" .null)
  have cut : LeftOff (Change.steps roundabout (.written "a" .null)) 2 roundabout.tree torn :=
    .next rfl (.next rfl (.amid ⟨_, rfl⟩ rfl))
  exact ⟨whole.nothing _ _ cut (by decide), whole.done rfl⟩

def hidden : FileStore :=
  ⟨⟨["missing", "..", "s.json"]⟩,
    ⟨.directory [("s.json", .file oldDocument), ("s.json.tmp", .empty)], []⟩⟩

/-- Parents that are made lead a step back up to a file that was not to be found before. -/
theorem failed_change_may_reveal_a_document :
    ¬ ∀ (store : FileStore) (change : Change), store.path.Named →
      ∀ e, (change.made store).1 = .error e →
        holds store.path (change.made store).2.tree = holds store.path store.tree := by
  intro same
  have still := same hidden (.written "a" .null) ⟨["missing", ".."], "s.json", rfl, by decide⟩
    (.path .isDirectory) rfl
  have before : holds hidden.path hidden.tree = none := rfl
  have after : holds hidden.path (Change.made hidden (.written "a" .null)).2.tree =
      some (some oldDocument) := rfl
  rw [before, after] at still
  cases still

end SessionGate.Storage
