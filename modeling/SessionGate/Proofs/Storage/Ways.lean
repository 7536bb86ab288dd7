import SessionGate.Proofs.Storage.Files

/- What stands at the end of each way, and what a step on files changes of it: one place at most. A path
   leads to a way once its last step back up is taken; from there on it is followed name by name. -/
namespace SessionGate.Storage

open Text (Bytes)

namespace Node

def content? : Node → Option Bytes
  | .file content => some content
  | .directory _ => none

/-- What stands at the end of a way, apart from what is in it. -/
def stands (top : Node) (way : List String) : Option (Option Bytes) :=
  (find way top).toOption.map content?

theorem stands_some_iff (top : Node) (way : List String) (seen : Option Bytes) :
    stands top way = some seen ↔ ∃ node, find way top = .ok node ∧ node.content? = seen := by
  unfold stands
  cases find way top with
  | error e => simp [Except.toOption]
  | ok node => simp [Except.toOption]

theorem stands_of_found {top node : Node} {way : List String} (found : find way top = .ok node) :
    stands top way = some node.content? :=
  (stands_some_iff _ _ _).mpr ⟨node, found, rfl⟩

theorem stands_of_error {top : Node} {way : List String} {e : PathError}
    (missing : find way top = .error e) : stands top way = none := by
  simp [stands, missing, Except.toOption]

theorem content_directory_iff (node : Node) :
    node.content? = none ↔ ∃ entries, node = .directory entries := by
  cases node <;> simp [content?]

theorem Alike.content {node other : Node} (alike : Alike node other) :
    node.content? = other.content? := by
  cases alike <;> rfl

theorem find_append {way more : List String} {top node : Node} (found : find way top = .ok node) :
    find (way ++ more) top = find more node := by
  induction way generalizing top with
  | nil =>
    cases found
    rfl
  | cons name rest ih =>
    cases top with
    | file content => cases found
    | directory entries =>
      obtain ⟨child, known, inner⟩ := (find_cons_iff _ _ _ _).mp found
      simp only [List.cons_append, find, known]
      exact ih inner

/-! Changes -/

theorem child_drop_same (entries : List (String × Node)) (name : String) :
    child? (dropChild entries name) name = none := by
  simp [child?, dropChild, List.find?_filter]

def Plants (change : Option Node → Except PathError (Option Node)) : Prop :=
  ∀ old node, change old = .ok (some node) →
    old = some node ∨ ∀ name rest kept, find (name :: rest) node ≠ .ok kept

theorem Updated.comes {change : Option Node → Except PathError (Option Node)}
    (plants : Plants change) {way other : List String} {before after node : Node}
    (updated : Updated change way before after) (found : find other after = .ok node)
    (elsewhere : other ≠ way) : ∃ kept, find other before = .ok kept ∧ Alike kept node := by
  induction updated generalizing other with
  | @dropped name entries old known changed =>
    cases other with
    | nil =>
      cases found
      exact ⟨_, rfl, .directory _ _⟩
    | cons first rest =>
      obtain ⟨child, seen, inner⟩ := (find_cons_iff _ _ _ _).mp found
      have different : first ≠ name := by
        intro same
        subst same
        unfold lookup at seen
        split at seen
        · cases seen
        · rw [child_drop_same] at seen
          cases seen
      rw [lookup_drop_other different] at seen
      exact ⟨node, (find_cons_iff _ _ _ _).mpr ⟨child, seen, inner⟩, .refl node⟩
  | @placed name entries old new known changed =>
    cases other with
    | nil =>
      cases found
      exact ⟨_, rfl, .directory _ _⟩
    | cons first rest =>
      obtain ⟨child, seen, inner⟩ := (find_cons_iff _ _ _ _).mp found
      by_cases same : first = name
      · subst same
        cases (lookup_set_same known new).symm.trans seen
        cases rest with
        | nil => exact absurd rfl elsewhere
        | cons next rest =>
          rcases plants _ _ changed with kept | bare
          · subst kept
            exact ⟨node, (find_cons_iff _ _ _ _).mpr ⟨_, known, inner⟩, .refl node⟩
          · exact absurd inner (bare _ _ _)
      · rw [lookup_set_other same] at seen
        exact ⟨node, (find_cons_iff _ _ _ _).mpr ⟨child, seen, inner⟩, .refl node⟩
  | @deeper name next rest entries old new known updated ih =>
    cases other with
    | nil =>
      cases found
      exact ⟨_, rfl, .directory _ _⟩
    | cons first more =>
      obtain ⟨child, seen, inner⟩ := (find_cons_iff _ _ _ _).mp found
      by_cases same : first = name
      · subst same
        cases (lookup_set_same known new).symm.trans seen
        obtain ⟨kept, there, alike⟩ := ih inner fun tail => elsewhere (congrArg (first :: ·) tail)
        exact ⟨kept, (find_cons_iff _ _ _ _).mpr ⟨old, known, there⟩, alike⟩
      · rw [lookup_set_other same] at seen
        exact ⟨node, (find_cons_iff _ _ _ _).mpr ⟨child, seen, inner⟩, .refl node⟩

theorem Updated.stands_elsewhere {change : Option Node → Except PathError (Option Node)}
    (spares : Spares change) (plants : Plants change) {way other : List String} {before after : Node}
    (updated : Updated change way before after) (elsewhere : other ≠ way) :
    stands after other = stands before other := by
  cases found : find other before with
  | ok node =>
    obtain ⟨kept, there, alike⟩ := updated.keeps spares found fun _ _ => elsewhere
    rw [stands_of_found found, stands_of_found there, alike.content]
  | error e =>
    rw [stands_of_error found]
    cases there : find other after with
    | error e => exact stands_of_error there
    | ok node =>
      obtain ⟨kept, was, _⟩ := updated.comes plants there elsewhere
      cases found.symm.trans was

theorem Updated.at_end {change : Option Node → Except PathError (Option Node)} {way : List String}
    {before after : Node} (updated : Updated change way before after) :
    ∃ old new, change old = .ok new ∧ stands before way = old.map content? ∧
      stands after way = new.map content? := by
  induction updated with
  | @dropped name entries old known changed =>
    refine ⟨old, none, changed, ?_, ?_⟩
    · cases old <;> simp [stands, find, known, Except.toOption]
    · unfold lookup at known
      split at known
      · cases known
      · rename_i short
        simp [stands, find, lookup, short, child_drop_same, Except.toOption]
  | @placed name entries old node known changed =>
    refine ⟨old, some node, changed, ?_, ?_⟩
    · cases old <;> simp [stands, find, known, Except.toOption]
    · simp [stands, find, lookup_set_same known, Except.toOption]
  | @deeper name next rest entries old node known inner ih =>
    obtain ⟨was, new, changed, first, last⟩ := ih
    refine ⟨was, new, changed, ?_, ?_⟩
    · rw [← first]
      simp only [stands, find, known]
    · rw [← last]
      simp only [stands, find, lookup_set_same known]

/-! Following a path -/

/-- Takes every step through directories that are there, and answers where it leads, with the names passed
on the way, the nearest first. -/
def walk : Node → List (String × Node) → List String → Option (Node × List (String × Node))
  | node, passed, [] => some (node, passed)
  | .file _, _, _ :: _ => none
  | .directory entries, passed, name :: rest =>
    if name = upward then
      match passed with
      | [] => walk (.directory entries) [] rest
      | (_, above) :: passed => walk above passed rest
    else
      match lookup entries name with
      | .ok (some node) => walk node ((name, .directory entries) :: passed) rest
      | _ => none

def namesOf (passed : List (String × Node)) : List String := (passed.map (·.1)).reverse

theorem resolve_append {names more : List String} (present : more ≠ []) {node : Node}
    {passed : List (String × Node)} {way : List String} :
    resolve node passed (names ++ more) = .ok way ↔
      ∃ reached, walk node passed names = some reached ∧
        resolve reached.1 reached.2 more = .ok way := by
  induction names generalizing node passed with
  | nil => simp [walk]
  | cons name rest ih =>
    cases node with
    | file content => simp [resolve, walk]
    | directory entries =>
      have going : rest ++ more ≠ [] := by simp [present]
      simp only [List.cons_append, resolve, walk, going, if_false]
      by_cases back : name = upward
      · simp only [back, if_true]
        cases passed with
        | nil => exact ih
        | cons one passed => exact ih
      · simp only [back, if_false]
        cases lookup entries name with
        | error e => simp
        | ok found =>
          cases found with
          | none => simp
          | some child => exact ih

theorem resolve_of_walk {names : List String} {node : Node} {passed : List (String × Node)}
    {reached : Node × List (String × Node)} (walked : walk node passed names = some reached) :
    resolve node passed names = .ok (namesOf reached.2) := by
  induction names generalizing node passed with
  | nil =>
    cases walked
    rfl
  | cons name rest ih =>
    cases node with
    | file content => cases walked
    | directory entries =>
      simp only [walk] at walked
      simp only [resolve]
      by_cases back : name = upward
      · simp only [back, if_true] at walked ⊢
        cases passed with
        | nil => exact ih walked
        | cons one passed => exact ih walked
      · simp only [back, if_false] at walked ⊢
        split at walked
        · rename_i child known
          by_cases last : rest = []
          · subst last
            cases walked
            simp [namesOf]
          · simp only [last, if_false, known]
            exact ih walked
        · cases walked

theorem walk_of_resolve_back {names : List String} {node : Node} {passed : List (String × Node)}
    {way : List String} (resolved : resolve node passed (names ++ [upward]) = .ok way) :
    ∃ reached, walk node passed (names ++ [upward]) = some reached ∧ namesOf reached.2 = way := by
  induction names generalizing node passed with
  | nil =>
    cases node with
    | file content => cases resolved
    | directory entries =>
      simp only [List.nil_append, resolve, walk, if_true] at resolved ⊢
      cases passed with
      | nil =>
        cases resolved
        exact ⟨_, rfl, rfl⟩
      | cons one passed =>
        cases resolved
        exact ⟨_, rfl, rfl⟩
  | cons name rest ih =>
    cases node with
    | file content => cases resolved
    | directory entries =>
      have going : rest ++ [upward] ≠ [] := by simp
      simp only [List.cons_append, resolve, walk, going, if_false] at resolved ⊢
      by_cases back : name = upward
      · simp only [back, if_true] at resolved ⊢
        cases passed with
        | nil => exact ih resolved
        | cons one passed => exact ih resolved
      · simp only [back, if_false] at resolved ⊢
        cases known : lookup entries name with
        | error e =>
          rw [known] at resolved
          cases resolved
        | ok found =>
          rw [known] at resolved
          cases found with
          | none => cases resolved
          | some child => exact ih resolved

theorem walk_append {names more : List String} {node : Node} {passed : List (String × Node)} :
    walk node passed (names ++ more) =
      (walk node passed names).bind fun reached => walk reached.1 reached.2 more := by
  induction names generalizing node passed with
  | nil => rfl
  | cons name rest ih =>
    cases node with
    | file content => rfl
    | directory entries =>
      simp only [List.cons_append, walk]
      by_cases back : name = upward
      · simp only [back, if_true]
        cases passed with
        | nil => exact ih
        | cons one passed => exact ih
      · simp only [back, if_false]
        split
        · exact ih
        · rfl

/-- Where the names that were passed lead to, each from the directory it stands in. -/
inductive Trail (top : Node) : Node → List (String × Node) → Prop where
  | start : Trail top top []
  | down {entries : List (String × Node)} {passed : List (String × Node)} {name : String}
      {node : Node} (trail : Trail top (.directory entries) passed)
      (known : lookup entries name = .ok (some node)) :
      Trail top node ((name, .directory entries) :: passed)

theorem Trail.find {top node : Node} {passed : List (String × Node)} (trail : Trail top node passed) :
    Node.find (namesOf passed) top = .ok node := by
  induction trail with
  | start => rfl
  | @down entries passed name node trail known ih =>
    have split : namesOf ((name, Node.directory entries) :: passed) = namesOf passed ++ [name] := by
      simp [namesOf]
    rw [split, find_append ih]
    exact (find_cons_iff _ _ _ _).mpr ⟨node, known, rfl⟩

theorem Trail.walk {top node : Node} {passed : List (String × Node)} (trail : Trail top node passed)
    {names : List String} {reached : Node × List (String × Node)}
    (walked : Node.walk node passed names = some reached) : Trail top reached.1 reached.2 := by
  induction names generalizing node passed with
  | nil =>
    cases walked
    exact trail
  | cons name rest ih =>
    cases node with
    | file content => cases walked
    | directory entries =>
      simp only [Node.walk] at walked
      by_cases back : name = upward
      · simp only [back, if_true] at walked
        cases trail with
        | start => exact ih .start walked
        | down trail known => exact ih trail walked
      · simp only [back, if_false] at walked
        split at walked
        · rename_i child known
          exact ih (.down trail known) walked
        · cases walked

theorem Trail.straight {top node : Node} {passed : List (String × Node)}
    (trail : Trail top node passed) {names : List String} (present : names ≠ [])
    (straight : upward ∉ names) :
    (resolve node passed names >>= fun way => Node.find way top) = Node.find names node ∧
      ∀ way, resolve node passed names = .ok way → way = namesOf passed ++ names := by
  induction names generalizing node passed with
  | nil => exact absurd rfl present
  | cons name rest ih =>
    cases node with
    | file content =>
      refine ⟨rfl, ?_⟩
      intro way resolved
      cases resolved
    | directory entries =>
      obtain ⟨first, others⟩ := not_or.mp (mt List.mem_cons.mpr straight)
      simp only [resolve, Ne.symm first, if_false]
      by_cases last : rest = []
      · subst last
        refine ⟨?_, ?_⟩
        · exact find_append trail.find
        · intro way same
          cases same
          rfl
      · simp only [last, if_false, Node.find]
        cases known : lookup entries name with
        | error e =>
          refine ⟨rfl, ?_⟩
          intro way resolved
          cases resolved
        | ok found =>
          cases found with
          | none =>
            refine ⟨rfl, ?_⟩
            intro way resolved
            cases resolved
          | some child =>
            obtain ⟨same, way⟩ := ih (.down trail known) last others
            refine ⟨same, ?_⟩
            intro other resolved
            rw [way other resolved]
            simp [namesOf]

theorem Trail.back {top node : Node} {passed : List (String × Node)} (trail : Trail top node passed)
    {names : List String} {reached : Node × List (String × Node)}
    (walked : Node.walk node passed (names ++ [upward]) = some reached) :
    ∃ entries, reached.1 = .directory entries := by
  rw [walk_append] at walked
  obtain ⟨before, there, last⟩ := Option.bind_eq_some_iff.mp walked
  have stood := trail.walk there
  cases node : before.1 with
  | file content =>
    rw [node] at last
    cases last
  | directory entries =>
    rw [node] at last stood
    simp only [Node.walk, if_true] at last
    split at last
    · cases last
      exact ⟨entries, rfl⟩
    · rename_i more passedBefore
      rw [passedBefore] at stood
      cases stood
      cases last
      exact ⟨_, rfl⟩

end Node

namespace FileTree

open Json (bind_ok_iff)

/-! Steps -/

/-- A step has changed what stands at the end of one way, and taken no directory away. -/
structure ChangesAt (way : List String) (before after : FileTree) : Prop where
  home : after.home = before.home
  covers : Node.Covers before.top after.top
  elsewhere : ∀ other, other ≠ way → after.top.stands other = before.top.stands other

theorem update_changes {change : Option Node → Except PathError (Option Node)}
    (spares : Node.Spares change) (plants : Node.Plants change) {way : List String}
    {before after : FileTree} (updated : update change way before = .ok after) :
    ChangesAt way before after ∧ ∃ old new, change old = .ok new ∧
      before.top.stands way = old.map Node.content? ∧
      after.top.stands way = new.map Node.content? := by
  obtain ⟨top, home⟩ := updated_top updated
  exact ⟨⟨home, top.covers spares, fun other => top.stands_elsewhere spares plants⟩, top.at_end⟩

theorem needDirectory_spares : Node.Spares needDirectory := by
  intro entries after changed
  cases changed
  rfl

theorem needDirectory_plants : Node.Plants needDirectory := by
  intro old node changed
  match old with
  | some (.file content) => cases changed
  | some (.directory entries) =>
    cases changed
    exact Or.inl rfl
  | none =>
    cases changed
    right
    intro name rest kept found
    obtain ⟨child, known, _⟩ := (Node.find_cons_iff _ _ _ _).mp found
    unfold Node.lookup at known
    split at known <;> cases known

theorem replaceFile_plants (content : Bytes) : Node.Plants (replaceFile content) := by
  intro old node changed
  cases replaceFile_places content old _ changed
  exact Or.inr nofun

theorem dropFile_plants : Node.Plants dropFile := by
  intro old node changed
  match old with
  | none => cases changed
  | some (.directory entries) => cases changed
  | some (.file content) => cases changed

theorem makeDirectory_changes {path : Path} {before after : FileTree}
    (made : makeDirectory path before = .ok after) : ∃ way, locate path before = .ok way ∧
      ChangesAt way before after ∧ (after = before ∨ after.top.stands way = some none ∧
        ∀ content, before.top.stands way ≠ some (some content)) := by
  obtain ⟨way, located, later⟩ := (bind_ok_iff _ _ _).mp made
  by_cases top : way = []
  · simp only [top, if_true] at later
    cases later
    exact ⟨way, located, ⟨rfl, fun _ entries found => ⟨entries, found⟩, fun _ _ => rfl⟩, Or.inl rfl⟩
  · simp only [top, if_false] at later
    obtain ⟨changes, old, new, changed, was, is⟩ :=
      update_changes needDirectory_spares needDirectory_plants later
    refine ⟨way, located, changes, Or.inr ?_⟩
    match old with
    | some (.file content) => cases changed
    | some (.directory entries) =>
      cases changed
      exact ⟨is, by simp [was, Node.content?]⟩
    | none =>
      cases changed
      exact ⟨is, by simp [was]⟩

theorem write_changes {path : Path} {content : Bytes} {before after : FileTree}
    (written : write path content before = .ok after) : ∃ way, locate path before = .ok way ∧
      ChangesAt way before after ∧ before.top.stands way ≠ some none := by
  obtain ⟨way, located, _, updated⟩ := (write_ok_iff _ _ _ _).mp written
  obtain ⟨changes, old, new, changed, was, _⟩ :=
    update_changes (replaceFile_spares content) (replaceFile_plants content) updated
  refine ⟨way, located, changes, ?_⟩
  match old with
  | some (.directory entries) => cases changed
  | some (.file kept) => simp [was, Node.content?]
  | none => simp [was]

theorem drop_changes {way : List String} {before after : FileTree}
    (dropped : update dropFile way before = .ok after) :
    ChangesAt way before after ∧ after.top.stands way = none := by
  obtain ⟨changes, gone, new, changed, _, is⟩ := update_changes dropFile_spares dropFile_plants dropped
  refine ⟨changes, ?_⟩
  match gone with
  | none => cases changed
  | some (.directory entries) => cases changed
  | some (.file kept) =>
    cases changed
    exact is

theorem rename_changes {source target : Path} {before after : FileTree}
    (renamed : rename source target before = .ok after) :
    ∃ old new, locate source before = .ok old ∧ locate target before = .ok new ∧
      (old = new ∨ ∃ between, ChangesAt new before between ∧ ChangesAt old between after ∧
        after.top.stands old = none) := by
  obtain ⟨content, old, new, _, from', to', _, moved⟩ := (rename_ok_iff _ _ _ _).mp renamed
  refine ⟨old, new, from', to', ?_⟩
  cases moved with
  | still same unchanged => exact Or.inl same
  | @moved between differs placed dropped =>
    obtain ⟨first, _⟩ := update_changes (replaceFile_spares content) (replaceFile_plants content) placed
    exact Or.inr ⟨between, first, drop_changes dropped⟩

theorem ChangesAt.locates {way place : List String} {path : Path} {before after : FileTree}
    (changes : ChangesAt way before after) (located : locate path before = .ok place) :
    locate path after = .ok place := by
  unfold locate at located ⊢
  split at located
  · cases located
  · rw [changes.home]
    exact changes.covers.resolves .nil located

/-! Where paths lead -/

/-- The names from which a path starts. -/
def base (path : Path) (tree : FileTree) : List String := if path.isAbsolute then [] else tree.home

def route (path : Path) (tree : FileTree) : List String := base path tree ++ path.names

def holds (path : Path) (tree : FileTree) : Option (Option Bytes) :=
  (find path tree).toOption.map Node.content?

/-- Where a path leads once every directory on its way is made. No step back up is left by then. -/
def Leads (path : Path) (tree : FileTree) (way : List String) : Prop :=
  ∃ front back place, route path tree = front ++ back ∧
    (front = [] ∨ ∃ names, front = names ++ [upward]) ∧
    Node.resolve tree.top [] front = .ok place ∧ back ≠ [] ∧ upward ∉ back ∧ way = place ++ back

variable {path : Path} {tree : FileTree} {way : List String}

theorem locate_ok_iff (path : Path) (tree : FileTree) (way : List String) :
    locate path tree = .ok way ↔
      path.fault? = none ∧ Node.resolve tree.top [] (route path tree) = .ok way := by
  unfold locate route base
  cases path.fault? with
  | some e => simp
  | none => cases path.isAbsolute <;> simp

theorem find_ok_iff (path : Path) (tree : FileTree) (node : Node) :
    find path tree = .ok node ↔
      ∃ way, locate path tree = .ok way ∧ Node.find way tree.top = .ok node :=
  bind_ok_iff _ _ _

theorem walk_front {top : Node} {front place : List String}
    (ends : front = [] ∨ ∃ names, front = names ++ [upward])
    (resolved : Node.resolve top [] front = .ok place) :
    ∃ reached, Node.walk top [] front = some reached ∧ Node.namesOf reached.2 = place ∧
      Node.Trail top reached.1 reached.2 := by
  rcases ends with rfl | ⟨names, rfl⟩
  · cases resolved
    exact ⟨_, rfl, rfl, .start⟩
  · obtain ⟨reached, walked, same⟩ := Node.walk_of_resolve_back resolved
    exact ⟨reached, walked, same, Node.Trail.start.walk walked⟩

theorem Leads.located (leads : Leads path tree way) {place : List String}
    (located : locate path tree = .ok place) : place = way := by
  obtain ⟨front, back, reachedWay, split, ends, resolved, present, straight, rfl⟩ := leads
  obtain ⟨reached, walked, rfl, trail⟩ := walk_front ends resolved
  rw [locate_ok_iff, split, Node.resolve_append present] at located
  obtain ⟨_, other, again, last⟩ := located
  cases walked.symm.trans again
  exact (trail.straight present straight).2 place last

theorem Leads.finds (leads : Leads path tree way) (sound : path.fault? = none) (node : Node) :
    find path tree = .ok node ↔ Node.find way tree.top = .ok node := by
  rw [find_ok_iff]
  constructor
  · intro given
    obtain ⟨place, located, found⟩ := given
    rwa [leads.located located] at found
  · intro found
    obtain ⟨front, back, place, split, ends, resolved, present, straight, rfl⟩ := leads
    obtain ⟨reached, walked, rfl, trail⟩ := walk_front ends resolved
    rw [Node.find_append trail.find, ← (trail.straight present straight).1] at found
    obtain ⟨place, last, there⟩ := (bind_ok_iff _ _ _).mp found
    refine ⟨place, ?_, there⟩
    rw [locate_ok_iff, split, Node.resolve_append present]
    exact ⟨sound, reached, walked, last⟩

theorem Leads.holds (leads : Leads path tree way) (sound : path.fault? = none) :
    FileTree.holds path tree = tree.top.stands way := by
  have finds := leads.finds sound
  unfold FileTree.holds Node.stands
  cases found : Node.find way tree.top with
  | ok node => rw [(finds node).mpr found]
  | error e =>
    cases known : FileTree.find path tree with
    | error other => rfl
    | ok node => cases found.symm.trans ((finds node).mp known)

theorem holds_of_fault {e : PathError} (fault : path.fault? = some e) :
    holds path tree = none := by
  simp only [holds, find, locate, fault]
  rfl

theorem Leads.later {after : FileTree} (leads : Leads path tree way) (home : after.home = tree.home)
    (covers : Node.Covers tree.top after.top) : Leads path after way := by
  obtain ⟨front, back, place, split, ends, resolved, rest⟩ := leads
  refine ⟨front, back, place, ?_, ends, covers.resolves .nil resolved, rest⟩
  rw [← split]
  simp only [route, base, home]

theorem Leads.holds_same {after : FileTree} (leads : Leads path tree way)
    (later : Leads path after way) (same : after.top.stands way = tree.top.stands way) :
    FileTree.holds path after = FileTree.holds path tree := by
  cases fault : path.fault? with
  | none => rw [leads.holds fault, later.holds fault, same]
  | some e => rw [holds_of_fault fault, holds_of_fault fault]

def StepsBack (path : Path) (tree : FileTree) : Prop :=
  ∀ front back, route path tree = front ++ upward :: back →
    ∃ place, Node.resolve tree.top [] (front ++ [upward]) = .ok place

theorem split_at_last {α : Type} [DecidableEq α] (a : α) (items : List α) :
    ∃ front back, items = front ++ back ∧ (front = [] ∨ ∃ before, front = before ++ [a]) ∧
      a ∉ back := by
  induction items with
  | nil => exact ⟨[], [], rfl, Or.inl rfl, List.not_mem_nil⟩
  | cons first rest ih =>
    obtain ⟨front, back, rfl, ends, absent⟩ := ih
    rcases ends with rfl | ⟨before, rfl⟩
    · by_cases same : first = a
      · exact ⟨[a], back, by simp [same], Or.inr ⟨[], rfl⟩, absent⟩
      · exact ⟨[], first :: back, rfl, Or.inl rfl, by simp [absent, Ne.symm same]⟩
    · exact ⟨first :: before ++ [a], back, by simp, Or.inr ⟨first :: before, rfl⟩, absent⟩

theorem leads_of_stepsBack (steps : StepsBack path tree) {names : List String} {name : String}
    (last : route path tree = names ++ [name]) (forward : name ≠ upward) :
    ∃ way, Leads path tree way := by
  obtain ⟨front, back, split, ends, straight⟩ := split_at_last upward (route path tree)
  have present : back ≠ [] := by
    intro none
    subst none
    have final : front = names ++ [name] := by
      rw [← List.append_nil front, ← split, last]
    rcases ends with rfl | ⟨before, rfl⟩
    · simp at final
    · exact forward (List.append_inj_right' final rfl |> List.cons.inj |>.1).symm
  rcases ends with rfl | ⟨before, rfl⟩
  · exact ⟨_, [], back, [], split, Or.inl rfl, rfl, present, straight, rfl⟩
  · obtain ⟨place, resolved⟩ := steps before back (by rw [split]; simp)
    exact ⟨_, before ++ [upward], back, place, split, Or.inr ⟨before, rfl⟩, resolved, present,
      straight, rfl⟩

theorem Leads.above (leads : Leads path tree way) {upper : Path} {rest place : List String}
    (split : route path tree = route upper tree ++ rest) (named : route upper tree ≠ [])
    (more : rest ≠ []) (located : locate upper tree = .ok place) :
    place ≠ way ∨ tree.top.stands way = some none := by
  obtain ⟨front, back, reachedWay, parts, ends, resolved, present, straight, rfl⟩ := leads
  obtain ⟨reached, walked, rfl, trail⟩ := walk_front ends resolved
  obtain ⟨sound, upperResolved⟩ := (locate_ok_iff _ _ _).mp located
  have within (between : List String) (inside : front = route upper tree ++ between) :
      tree.top.stands place = some none := by
    rw [inside, Node.walk_append] at walked
    obtain ⟨half, first, last⟩ := Option.bind_eq_some_iff.mp walked
    have there := Node.Trail.start.walk first
    cases (Node.resolve_of_walk first).symm.trans upperResolved
    rw [Node.stands_of_found there.find, Option.some_inj, Node.content_directory_iff]
    cases between with
    | nil =>
      rw [List.append_nil] at inside
      rcases ends with none | ⟨names, same⟩
      · exact absurd (inside.symm.trans none) named
      · rw [← inside, same] at first
        exact Node.Trail.start.back first
    | cons next names =>
      cases node : half.1 with
      | file content =>
        rw [node] at last
        cases last
      | directory entries => exact ⟨entries, rfl⟩
  rcases List.append_eq_append_iff.mp (split.symm.trans parts) with
    ⟨between, inside, _⟩ | ⟨between, beyond, tail⟩
  · by_cases same : place = Node.namesOf reached.2 ++ back
    · exact Or.inr (same ▸ within between inside)
    · exact Or.inl same
  · by_cases none : between = []
    · subst none
      rw [List.append_nil] at beyond
      by_cases same : place = Node.namesOf reached.2 ++ back
      · exact Or.inr (same ▸ within [] (by rw [beyond, List.append_nil]))
      · exact Or.inl same
    · left
      intro same
      rw [beyond, Node.resolve_append none] at upperResolved
      obtain ⟨other, again, last⟩ := upperResolved
      cases walked.symm.trans again
      have forward : upward ∉ between := fun member => straight (tail ▸ List.mem_append_left _ member)
      have ways := (trail.straight none forward).2 place last
      rw [same, tail, ← List.append_assoc] at ways
      exact more (List.append_right_eq_self.mp ways)

end FileTree

end SessionGate.Storage
