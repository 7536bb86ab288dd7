import Mathlib.Data.List.Forall2
import SessionGate.Proofs.Json.Strings
import SessionGate.Storage.FileStore

/- What steps on files leave in place. A step may make a directory but takes none away, so that a way
   that was found stays open, and it leaves every file but its own as it was. A document that has been put
   into place is therefore the one that is read. -/
namespace SessionGate.Storage

open Text (Bytes)

namespace Node

theorem child_set_same (entries : List (String × Node)) (name : String) (node : Node) :
    child? (setChild entries name node) name = some node := by
  induction entries with
  | nil => simp [setChild, child?]
  | cons entry rest ih =>
    by_cases same : entry.1 = name
    · simp [setChild, child?, same]
    · simpa [setChild, child?, same] using ih

theorem child_set_other {name other : String} (different : other ≠ name)
    (entries : List (String × Node)) (node : Node) :
    child? (setChild entries name node) other = child? entries other := by
  induction entries with
  | nil => simp [setChild, child?, Ne.symm different]
  | cons entry rest ih =>
    by_cases same : entry.1 = name
    · simp [setChild, child?, same, Ne.symm different]
    · by_cases found : entry.1 = other
      · subst found
        simp [setChild, child?, same]
      · simpa [setChild, child?, same, found] using ih

theorem child_drop_other {name other : String} (different : other ≠ name)
    (entries : List (String × Node)) :
    child? (dropChild entries name) other = child? entries other := by
  unfold child? dropChild
  rw [List.find?_filter]
  congr 2
  funext entry
  by_cases found : entry.1 = other
  · simp [found, different]
  · simp [found]

theorem lookup_set_other {name other : String} (different : other ≠ name)
    (entries : List (String × Node)) (node : Node) :
    lookup (setChild entries name node) other = lookup entries other := by
  simp only [lookup, child_set_other different]

theorem lookup_drop_other {name other : String} (different : other ≠ name)
    (entries : List (String × Node)) :
    lookup (dropChild entries name) other = lookup entries other := by
  simp only [lookup, child_drop_other different]

theorem lookup_set_same {entries : List (String × Node)} {name : String} {old : Option Node}
    (known : lookup entries name = .ok old) (node : Node) :
    lookup (setChild entries name node) name = .ok (some node) := by
  unfold lookup at known ⊢
  split at known
  · cases known
  · rename_i short
    rw [if_neg short, child_set_same]

theorem find_cons_iff (name : String) (way : List String) (entries : List (String × Node))
    (node : Node) :
    find (name :: way) (.directory entries) = .ok node ↔
      ∃ child, lookup entries name = .ok (some child) ∧ find way child = .ok node := by
  simp only [find]
  constructor
  · intro found
    split at found
    · cases found
    · cases found
    · rename_i child known
      exact ⟨child, known, found⟩
  · intro given
    obtain ⟨child, known, found⟩ := given
    rw [known]
    exact found

/-- What a change to the end of a way can come to. -/
inductive Updated (change : Option Node → Except PathError (Option Node)) :
    List String → Node → Node → Prop where
  | dropped {name : String} {entries : List (String × Node)} {old : Option Node}
      (known : lookup entries name = .ok old) (changed : change old = .ok none) :
      Updated change [name] (.directory entries) (.directory (dropChild entries name))
  | placed {name : String} {entries : List (String × Node)} {old : Option Node} {node : Node}
      (known : lookup entries name = .ok old) (changed : change old = .ok (some node)) :
      Updated change [name] (.directory entries) (.directory (setChild entries name node))
  | deeper {name next : String} {rest : List String} {entries : List (String × Node)}
      {old node : Node} (known : lookup entries name = .ok (some old))
      (inner : Updated change (next :: rest) old node) :
      Updated change (name :: next :: rest) (.directory entries)
        (.directory (setChild entries name node))

theorem updated_of_ok {change : Option Node → Except PathError (Option Node)} {way : List String}
    {before after : Node} (updated : update change way before = .ok after) :
    Updated change way before after := by
  induction way generalizing before after with
  | nil => cases updated
  | cons name rest ih =>
    cases before with
    | file content => cases updated
    | directory entries =>
      simp only [update] at updated
      split at updated
      · cases updated
      · rename_i old known
        cases rest with
        | nil =>
          simp only at updated
          split at updated
          · cases updated
          · rename_i changed
            cases updated
            exact .dropped known changed
          · rename_i node changed
            cases updated
            exact .placed known changed
        | cons next rest =>
          cases old with
          | none => cases updated
          | some old =>
            simp only at updated
            split at updated
            · cases updated
            · rename_i node inner
              cases updated
              exact .deeper known (ih inner)

def Spares (change : Option Node → Except PathError (Option Node)) : Prop :=
  ∀ entries after, change (some (.directory entries)) = .ok after → after = some (.directory entries)

inductive Alike : Node → Node → Prop where
  | file (content : Bytes) : Alike (.file content) (.file content)
  | directory (entries others : List (String × Node)) :
      Alike (.directory entries) (.directory others)

theorem Alike.refl (node : Node) : Alike node node := by
  cases node with
  | file content => exact .file content
  | directory entries => exact .directory entries entries

theorem Updated.keeps {change : Option Node → Except PathError (Option Node)}
    (spares : Spares change) {way other : List String} {before after node : Node}
    (updated : Updated change way before after) (found : find other before = .ok node)
    (elsewhere : ∀ content, node = .file content → other ≠ way) :
    ∃ kept, find other after = .ok kept ∧ Alike node kept := by
  induction updated generalizing other with
  | @dropped name entries old known changed =>
    cases other with
    | nil =>
      cases found
      exact ⟨_, rfl, .directory _ _⟩
    | cons first rest =>
      obtain ⟨child, seen, inner⟩ := (find_cons_iff _ _ _ _).mp found
      by_cases same : first = name
      · subst same
        cases known.symm.trans seen
        cases child with
        | directory inside => cases spares _ _ changed
        | file content =>
          cases rest with
          | nil =>
            cases inner
            exact absurd rfl (elsewhere content rfl)
          | cons _ _ => cases inner
      · rw [← lookup_drop_other same] at seen
        exact ⟨node, (find_cons_iff _ _ _ _).mpr ⟨child, seen, inner⟩, .refl node⟩
  | @placed name entries old new known changed =>
    cases other with
    | nil =>
      cases found
      exact ⟨_, rfl, .directory _ _⟩
    | cons first rest =>
      obtain ⟨child, seen, inner⟩ := (find_cons_iff _ _ _ _).mp found
      by_cases same : first = name
      · subst same
        cases known.symm.trans seen
        cases child with
        | directory inside =>
          cases spares _ _ changed
          exact ⟨node, (find_cons_iff _ _ _ _).mpr ⟨_, lookup_set_same known _, inner⟩, .refl node⟩
        | file content =>
          cases rest with
          | nil =>
            cases inner
            exact absurd rfl (elsewhere content rfl)
          | cons _ _ => cases inner
      · rw [← lookup_set_other same entries new] at seen
        exact ⟨node, (find_cons_iff _ _ _ _).mpr ⟨child, seen, inner⟩, .refl node⟩
  | @deeper name next rest entries old new known updated ih =>
    cases other with
    | nil =>
      cases found
      exact ⟨_, rfl, .directory _ _⟩
    | cons first more =>
      obtain ⟨child, seen, inner⟩ := (find_cons_iff _ _ _ _).mp found
      by_cases same : first = name
      · subst same
        cases known.symm.trans seen
        obtain ⟨kept, there, alike⟩ := ih inner fun content file tail =>
          elsewhere content file (congrArg (first :: ·) tail)
        exact ⟨kept, (find_cons_iff _ _ _ _).mpr ⟨_, lookup_set_same known _, there⟩, alike⟩
      · rw [← lookup_set_other same entries new] at seen
        exact ⟨node, (find_cons_iff _ _ _ _).mpr ⟨child, seen, inner⟩, .refl node⟩

theorem Updated.finds_placed {change : Option Node → Except PathError (Option Node)} {node : Node}
    (places : ∀ old after, change old = .ok after → after = some node) {way : List String}
    {before after : Node} (updated : Updated change way before after) :
    find way after = .ok node := by
  induction updated with
  | dropped known changed => cases places _ _ changed
  | placed known changed =>
    cases places _ _ changed
    exact (find_cons_iff _ _ _ _).mpr ⟨_, lookup_set_same known _, rfl⟩
  | deeper known inner ih => exact (find_cons_iff _ _ _ _).mpr ⟨_, lookup_set_same known _, ih⟩

/-- Every directory of the first tree is one in the second. -/
def Covers (before after : Node) : Prop :=
  ∀ way entries, find way before = .ok (.directory entries) →
    ∃ others, find way after = .ok (.directory others)

theorem Updated.covers {change : Option Node → Except PathError (Option Node)}
    (spares : Spares change) {way : List String} {before after : Node}
    (updated : Updated change way before after) : Covers before after := by
  intro other entries found
  obtain ⟨kept, there, alike⟩ := updated.keeps spares found nofun
  cases alike
  exact ⟨_, there⟩

theorem Covers.child {entries others inside : List (String × Node)} {name : String}
    (covers : Covers (.directory entries) (.directory others))
    (known : lookup entries name = .ok (some (.directory inside))) :
    ∃ more, lookup others name = .ok (some (.directory more)) ∧
      Covers (.directory inside) (.directory more) := by
  have here := (find_cons_iff name [] entries _).mpr ⟨_, known, rfl⟩
  obtain ⟨more, there⟩ := covers _ _ here
  obtain ⟨found, seen, same⟩ := (find_cons_iff _ _ _ _).mp there
  cases same
  refine ⟨more, seen, ?_⟩
  intro way found inner
  obtain ⟨last, deeper⟩ := covers (name :: way) found ((find_cons_iff _ _ _ _).mpr ⟨_, known, inner⟩)
  obtain ⟨node, seen', inner'⟩ := (find_cons_iff _ _ _ _).mp deeper
  cases seen.symm.trans seen'
  exact ⟨last, inner'⟩

theorem passed_names {passed others : List (String × Node)}
    (above : List.Forall₂ (fun one other => one.1 = other.1 ∧ Covers one.2 other.2) passed others) :
    passed.map (·.1) = others.map (·.1) := by
  induction above with
  | nil => rfl
  | cons one _ ih => simp [one.1, ih]

theorem Covers.resolves {before after : Node} (covers : Covers before after)
    {passed others : List (String × Node)}
    (above : List.Forall₂ (fun one other => one.1 = other.1 ∧ Covers one.2 other.2) passed others)
    {names way : List String} (resolved : resolve before passed names = .ok way) :
    resolve after others names = .ok way := by
  induction names generalizing before after passed others with
  | nil =>
    simp only [resolve, passed_names above] at resolved ⊢
    exact resolved
  | cons name rest ih =>
    cases before with
    | file content => cases resolved
    | directory entries =>
      obtain ⟨found, here⟩ := covers [] entries rfl
      cases here
      simp only [resolve] at resolved ⊢
      by_cases back : name = upward
      · simp only [back, if_true] at resolved ⊢
        cases above with
        | nil => exact ih covers .nil resolved
        | cons one above => exact ih one.2 above resolved
      · simp only [back, if_false] at resolved ⊢
        by_cases last : rest = []
        · simp only [last, if_true, passed_names above] at resolved ⊢
          exact resolved
        · simp only [last, if_false] at resolved ⊢
          split at resolved
          · cases resolved
          · cases resolved
          · rename_i child known
            cases child with
            | file content =>
              obtain ⟨next, more, rfl⟩ := List.exists_cons_of_ne_nil last
              cases resolved
            | directory inside =>
              obtain ⟨more, seen, deeper⟩ := covers.child known
              rw [seen]
              refine ih deeper ?_ resolved
              exact .cons ⟨rfl, covers⟩ above

end Node

namespace FileTree

open Json (bind_ok_iff)

theorem replaceFile_places (content : Bytes) (old after : Option Node)
    (changed : replaceFile content old = .ok after) : after = some (.file content) := by
  unfold replaceFile at changed
  split at changed
  · cases changed
  · cases changed
    rfl

theorem replaceFile_spares (content : Bytes) : Node.Spares (replaceFile content) := nofun

theorem dropFile_spares : Node.Spares dropFile := nofun

theorem updated_top {change : Option Node → Except PathError (Option Node)} {way : List String}
    {before after : FileTree} (updated : update change way before = .ok after) :
    Node.Updated change way before.top after.top ∧ after.home = before.home := by
  unfold update at updated
  cases known : Node.update change way before.top with
  | error e =>
    rw [known] at updated
    cases updated
  | ok top =>
    rw [known] at updated
    cases updated
    exact ⟨Node.updated_of_ok known, rfl⟩

theorem located_again {change : Option Node → Except PathError (Option Node)}
    (spares : Node.Spares change) {way place : List String} {path : Path} {before after : FileTree}
    (located : locate path before = .ok place) (updated : update change way before = .ok after) :
    locate path after = .ok place := by
  obtain ⟨top, home⟩ := updated_top updated
  unfold locate at located ⊢
  split at located
  · cases located
  · rw [home]
    exact (top.covers spares).resolves .nil located

theorem read_ok_iff (path : Path) (tree : FileTree) (content : Bytes) :
    read path tree = .ok content ↔ ∃ way, locate path tree = .ok way ∧
      Node.find way tree.top = .ok (.file content) ∧ path.ending = .name := by
  constructor
  · intro read
    obtain ⟨node, found, later⟩ := (bind_ok_iff _ _ _).mp read
    obtain ⟨way, located, there⟩ := (bind_ok_iff _ _ _).mp found
    cases node with
    | directory entries => cases later
    | file kept =>
      simp only at later
      split at later
      · rename_i name
        cases later
        exact ⟨way, located, there, name⟩
      · cases later
  · intro given
    obtain ⟨way, located, there, name⟩ := given
    simp only [read, find, located, there, Json.ok_bind, name, if_true]
    rfl

theorem write_ok_iff (path : Path) (content : Bytes) (before after : FileTree) :
    write path content before = .ok after ↔ ∃ way, locate path before = .ok way ∧
      path.ending = .name ∧ update (replaceFile content) way before = .ok after := by
  constructor
  · intro written
    obtain ⟨way, located, later⟩ := (bind_ok_iff _ _ _).mp written
    split at later
    · rename_i name
      exact ⟨way, located, name, later⟩
    · cases later
  · intro given
    obtain ⟨way, located, name, updated⟩ := given
    simp only [write, located, Json.ok_bind, name, if_true, updated]

/-- A file stays where it is, or it is put in its new place and then taken from the old one. -/
inductive Moved (content : Bytes) (old new : List String) (before after : FileTree) : Prop where
  | still (same : old = new) (unchanged : after = before)
  | moved {between : FileTree} (differs : old ≠ new)
      (placed : update (replaceFile content) new before = .ok between)
      (dropped : update dropFile old between = .ok after)

theorem rename_ok_iff (source target : Path) (before after : FileTree) :
    rename source target before = .ok after ↔ ∃ content old new,
      read source before = .ok content ∧ locate source before = .ok old ∧
        locate target before = .ok new ∧ target.ending = .name ∧
        Moved content old new before after := by
  constructor
  · intro renamed
    obtain ⟨content, known, later⟩ := (bind_ok_iff _ _ _).mp renamed
    obtain ⟨old, from', later⟩ := (bind_ok_iff _ _ _).mp later
    obtain ⟨new, to', later⟩ := (bind_ok_iff _ _ _).mp later
    refine ⟨content, old, new, known, from', to', ?_⟩
    split at later
    · split at later <;> cases later
    · obtain ⟨node, _, refused⟩ := (bind_ok_iff _ _ _).mp later
      cases node <;> cases refused
    · rename_i name
      refine ⟨name, ?_⟩
      split at later
      · rename_i same
        cases later
        exact .still same rfl
      · rename_i differs
        obtain ⟨between, placed, dropped⟩ := (bind_ok_iff _ _ _).mp later
        exact .moved differs placed dropped
  · intro given
    obtain ⟨content, old, new, known, from', to', name, moved⟩ := given
    simp only [rename, known, from', to', name, Json.ok_bind]
    cases moved with
    | still same unchanged =>
      rw [if_pos same, unchanged]
      rfl
    | moved differs placed dropped => simp only [if_neg differs, placed, Json.ok_bind, dropped]

theorem write_reads_back {path : Path} {content : Bytes} {before after : FileTree}
    (written : write path content before = .ok after) : read path after = .ok content := by
  obtain ⟨way, located, name, updated⟩ := (write_ok_iff _ _ _ _).mp written
  have place := located_again (replaceFile_spares content) located updated
  have there := (updated_top updated).1.finds_placed (replaceFile_places content)
  exact (read_ok_iff _ _ _).mpr ⟨way, place, there, name⟩

theorem rename_reads_back {source target : Path} {content : Bytes} {before after : FileTree}
    (known : read source before = .ok content) (renamed : rename source target before = .ok after) :
    read target after = .ok content := by
  obtain ⟨found, old, new, again, from', to', name, moved⟩ := (rename_ok_iff _ _ _ _).mp renamed
  cases known.symm.trans again
  obtain ⟨way, place, there, _⟩ := (read_ok_iff _ _ _).mp known
  cases from'.symm.trans place
  cases moved with
  | still same unchanged =>
    subst unchanged same
    exact (read_ok_iff _ _ _).mpr ⟨old, to', there, name⟩
  | @moved between differs placed dropped =>
    have first := located_again (replaceFile_spares content) to' placed
    have last := located_again dropFile_spares first dropped
    have put := (updated_top placed).1.finds_placed (replaceFile_places content)
    obtain ⟨kept, left, alike⟩ := (updated_top dropped).1.keeps dropFile_spares put
      fun _ _ same => differs same.symm
    cases alike
    exact (read_ok_iff _ _ _).mpr ⟨new, last, left, name⟩

theorem applyAll_append_iff (first second : List Step) (before after : FileTree) :
    applyAll (first ++ second) before = (.ok (), after) ↔ ∃ between,
      applyAll first before = (.ok (), between) ∧ applyAll second between = (.ok (), after) := by
  induction first generalizing before with
  | nil => simp [applyAll]
  | cons step rest ih =>
    simp only [List.cons_append, applyAll]
    cases apply step before with
    | error e => simp
    | ok next => exact ih next

theorem applyAll_pair_iff (first second : Step) (before after : FileTree) :
    applyAll [first, second] before = (.ok (), after) ↔
      ∃ between, apply first before = .ok between ∧ apply second between = .ok after := by
  simp only [applyAll]
  cases apply first before with
  | error e => simp
  | ok between => cases applied : apply second between <;> simp [applied]

theorem save_reads_back {path : Path} {content : Bytes} {before after : FileTree}
    (saved : applyAll (saveSteps path content) before = (.ok (), after)) :
    read path after = .ok content := by
  obtain ⟨start, _, last⟩ := (applyAll_append_iff _ _ _ _).mp saved
  obtain ⟨between, written, renamed⟩ := (applyAll_pair_iff _ _ _ _).mp last
  exact rename_reads_back (write_reads_back written) renamed

end FileTree

end SessionGate.Storage
