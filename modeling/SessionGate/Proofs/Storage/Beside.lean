import SessionGate.Proofs.Storage.Ways
import SessionGate.Proofs.Text.Trimming

/- Where a new document is written before it takes the place of the old one: in the same directory, under
   another name. The names alone do not show it, since each path is followed for itself, and a step back up
   leads elsewhere once directories have been made. -/
namespace SessionGate.Storage

open Text (Bytes)

/-! The name beside a name -/

theorem dropWhile_reverse {α : Type} {p : α → Bool} {items before : List α} {a : α}
    (known : items.reverse.dropWhile p = a :: before) :
    p a = false ∧ ∃ after, items = before.reverse ++ a :: after ∧ ∀ b ∈ after, p b = true := by
  have left : (items.reverse.dropWhile p).reverse = before.reverse ++ [a] := by
    rw [known, List.reverse_cons]
  obtain ⟨⟨after, split, skipped⟩, last⟩ := Text.dropWhile_reverse_iff.mp left
  refine ⟨last a List.getLast?_concat, after, ?_, skipped⟩
  rw [split, List.append_assoc, List.singleton_append]

theorem stem_cases (name : String) : stem name = name ∨
    ∃ ending, '.' ∉ ending ∧ name.toList = (stem name).toList ++ '.' :: ending := by
  unfold stem
  split
  · exact Or.inl rfl
  · exact Or.inl rfl
  · rename_i dot rest _ known
    obtain ⟨failed, ending, split, plain⟩ := dropWhile_reverse known
    have first : dot = '.' := by simpa using failed
    refine Or.inr ⟨ending, ?_, ?_⟩
    · intro member
      simpa using plain _ member
    · rw [String.toList_ofList, split, first]

theorem temporary_name_differs (name : String) : stem name ++ temporaryEnding ≠ name := by
  intro same
  have chars := congrArg String.toList same
  rw [String.toList_append] at chars
  rcases stem_cases name with whole | ⟨ending, plain, split⟩
  · rw [whole] at chars
    have none := List.append_right_eq_self.mp chars
    exact absurd none (by decide)
  · rw [split] at chars
    have endings := List.append_cancel_left chars
    have tail : ending = "json.tmp".toList := (List.cons.inj (endings.symm.trans rfl)).2
    exact plain (tail ▸ by decide)

namespace Path

/-- A path whose last name is that of a file, with the parts before this name. -/
structure Ends (path : Path) (before : List String) (name : String) : Prop where
  last : (path.parts.reverse.dropWhile fun part => !isName part) = name :: before.reverse
  forward : name ≠ upward

/-- A path has the name of a file if its last name does not lead back up. -/
def Named (path : Path) : Prop := ∃ names name, path.names = names ++ [name] ∧ name ≠ upward

variable {path : Path} {before : List String} {name : String}

theorem parts_of_last
    (last : (path.parts.reverse.dropWhile fun part => !isName part) = name :: before.reverse) :
    isName name = true ∧ path.names = before.filter isName ++ [name] ∧
      ∃ trailing, path.parts = before ++ name :: trailing := by
  obtain ⟨failed, trailing, split, skipped⟩ := dropWhile_reverse last
  rw [List.reverse_reverse] at split
  have named : isName name = true := by simpa using failed
  have none : trailing.filter isName = [] := by
    rw [List.filter_eq_nil_iff]
    intro part member
    simpa using skipped part member
  refine ⟨named, ?_, trailing, split⟩
  rw [Path.names, split, List.filter_append, List.filter_cons, if_pos named, none]

theorem Named.ends (named : path.Named) : ∃ before name, path.Ends before name := by
  obtain ⟨names, name, whole, forward⟩ := named
  cases known : path.parts.reverse.dropWhile fun part => !isName part with
  | nil =>
    have none : path.names = [] := by
      rw [Path.names, List.filter_eq_nil_iff]
      intro part member
      simpa using List.dropWhile_eq_nil_iff.mp known part (List.mem_reverse.mpr member)
    simp [none] at whole
  | cons first rest =>
    rw [← List.reverse_reverse rest] at known
    have parts := (parts_of_last known).2.1
    have same := (List.cons.inj (List.append_inj_right' (parts.symm.trans whole) rfl)).1
    exact ⟨rest.reverse, first, known, same ▸ forward⟩

theorem isName_temporary (name : String) : isName (stem name ++ temporaryEnding) = true := by
  have long : 2 ≤ (stem name ++ temporaryEnding).toList.length := by
    rw [String.toList_append, List.length_append]
    exact Nat.le_add_left_of_le (by decide)
  simp only [isName, Bool.and_eq_true, decide_eq_true_eq]
  constructor <;> intro same <;> rw [same] at long <;> exact absurd long (by decide)

theorem Ends.temporary (ends : path.Ends before name) : ∃ other, path.temporary = ⟨before ++ [other]⟩ ∧
    isName other = true ∧ other ≠ name := by
  have beside : path.temporary = if stem name = "." ∧ path.ending = .name then ⟨before ++ [upward]⟩
      else ⟨before ++ [stem name ++ temporaryEnding]⟩ := by
    simp only [Path.temporary, ends.last, if_neg ends.forward, List.reverse_reverse]
  rw [beside]
  split
  · exact ⟨_, rfl, by decide, Ne.symm ends.forward⟩
  · exact ⟨_, rfl, isName_temporary name, temporary_name_differs name⟩

theorem Ends.isAbsolute (ends : path.Ends before name) (other : String) :
    (Path.mk (before ++ [other])).isAbsolute = path.isAbsolute := by
  obtain ⟨named, _, trailing, parts⟩ := parts_of_last ends.last
  unfold Path.isAbsolute
  rw [parts]
  cases before with
  | nil =>
    have present : name ≠ "" := by
      intro empty
      rw [empty] at named
      exact absurd named (by decide)
    simp [present]
  | cons first rest => cases rest <;> by_cases top : first = "" <;> simp [top]

end Path

namespace FileTree

/-! Two ways in one directory -/

theorem StepsBack.later {path : Path} {tree after : FileTree} (steps : StepsBack path tree)
    (home : after.home = tree.home) (covers : Node.Covers tree.top after.top) :
    StepsBack path after := by
  intro front back split
  have same : route path after = route path tree := by simp only [route, base, home]
  obtain ⟨place, resolved⟩ := steps front back (same ▸ split)
  exact ⟨place, covers.resolves .nil resolved⟩

theorem Leads.last {path : Path} {tree : FileTree} {way names : List String} {name : String}
    (leads : Leads path tree way) (split : route path tree = names ++ [name]) :
    ∃ before, way = before ++ [name] := by
  obtain ⟨front, back, place, parts, _, _, present, _, rfl⟩ := leads
  obtain ⟨rest, last, rfl⟩ := List.eq_nil_or_concat back |>.resolve_left present
  rw [split, List.concat_eq_append, ← List.append_assoc] at parts
  have same := (List.cons.inj (List.append_inj_right' parts rfl)).1
  exact ⟨place ++ rest, by rw [same, List.concat_eq_append, List.append_assoc]⟩

theorem write_upward {path : Path} {tree after : FileTree} {names : List String} {content : Bytes}
    (split : route path tree = names ++ [upward]) : write path content tree ≠ .ok after := by
  intro written
  obtain ⟨way, located, _, vacant⟩ := write_changes written
  obtain ⟨_, resolved⟩ := (locate_ok_iff _ _ _).mp located
  rw [split] at resolved
  obtain ⟨reached, walked, rfl⟩ := Node.walk_of_resolve_back resolved
  have trail := Node.Trail.start.walk walked
  obtain ⟨entries, directory⟩ := Node.Trail.start.back walked
  rw [Node.stands_of_found trail.find, directory] at vacant
  exact vacant rfl

theorem route_temporary {path : Path} {before : List String} {name : String}
    (ends : path.Ends before name) (tree : FileTree) : ∃ names other,
      route path tree = names ++ [name] ∧ route path.temporary tree = names ++ [other] ∧
        other ≠ name := by
  obtain ⟨other, beside, named, differs⟩ := ends.temporary
  refine ⟨base path tree ++ before.filter Path.isName, other, ?_, ?_, differs⟩
  · rw [route, (Path.parts_of_last ends.last).2.1, List.append_assoc]
  · rw [beside, route, base, ends.isAbsolute, Path.names, List.filter_append, List.filter_cons,
      if_pos named, List.append_assoc]
    rfl

theorem temporary_leads {path : Path} {tree after : FileTree} {way : List String} {content : Bytes}
    (named : path.Named) (steps : StepsBack path tree) (leads : Leads path tree way)
    (written : write path.temporary content tree = .ok after) :
    ∃ other, Leads path.temporary tree other ∧ other ≠ way := by
  obtain ⟨before, name, ends⟩ := named.ends
  obtain ⟨names, last, split, beside, differs⟩ := route_temporary ends tree
  have forward : last ≠ upward := by
    intro back
    subst back
    exact write_upward beside written
  have back : StepsBack path.temporary tree := by
    intro front rest parts
    rw [beside] at parts
    obtain ⟨more, final, rfl⟩ := List.eq_nil_or_concat rest |>.resolve_left (by
      rintro rfl
      exact forward (List.cons.inj (List.append_inj_right' parts rfl)).1)
    rw [List.concat_eq_append, ← List.cons_append, ← List.append_assoc] at parts
    refine steps front (more ++ [name]) ?_
    rw [split, List.append_inj_left' parts rfl, List.append_assoc]
    rfl
  obtain ⟨other, away⟩ := leads_of_stepsBack back beside forward
  refine ⟨other, away, ?_⟩
  intro same
  obtain ⟨_, first⟩ := leads.last split
  obtain ⟨_, second⟩ := away.last beside
  rw [same, first] at second
  exact differs (List.cons.inj (List.append_inj_right' second rfl)).1.symm

/-! Files that can be read -/

theorem stepsBack_of_located {path : Path} {tree : FileTree} {way : List String}
    (located : locate path tree = .ok way) : StepsBack path tree := by
  intro front back split
  obtain ⟨_, resolved⟩ := (locate_ok_iff _ _ _).mp located
  cases back with
  | nil => exact ⟨way, split ▸ resolved⟩
  | cons next rest =>
    have parts : route path tree = (front ++ [upward]) ++ next :: rest := by
      rw [split, List.append_assoc]
      rfl
    rw [parts, Node.resolve_append (List.cons_ne_nil _ _)] at resolved
    obtain ⟨reached, walked, _⟩ := resolved
    exact ⟨_, Node.resolve_of_walk walked⟩

theorem names_present {path : Path} (sound : path.fault? = none) (ending : path.ending = .name) :
    path.names ≠ [] := by
  intro none
  have plain : ∀ part ∈ path.parts, part = "" ∨ part = "." := by
    intro part member
    have skipped := List.filter_eq_nil_iff.mp none part member
    by_cases empty : part = ""
    · exact Or.inl empty
    · exact Or.inr (by simpa [Path.isName, empty] using skipped)
  unfold Path.ending at ending
  cases known : path.parts.reverse with
  | nil =>
    have parts : path.parts = [] := List.reverse_eq_nil_iff.mp known
    have size : path.size = 0 := by rw [Path.size, parts]; rfl
    unfold Path.fault? at sound
    rw [parts] at sound
    simp [size] at sound
  | cons last before =>
    have member : last ∈ path.parts := List.mem_reverse.mp (known ▸ List.mem_cons_self)
    simp only [known] at ending
    rcases plain last member with rfl | rfl
    · split at ending
      · cases ending
      · cases ending
    · simp at ending

theorem named_of_read {path : Path} {tree : FileTree} {content : Bytes}
    (known : read path tree = .ok content) : path.Named := by
  obtain ⟨way, located, found, ending⟩ := (read_ok_iff _ _ _).mp known
  obtain ⟨sound, resolved⟩ := (locate_ok_iff _ _ _).mp located
  obtain ⟨names, name, last⟩ := List.eq_nil_or_concat path.names |>.resolve_left
    (names_present sound ending)
  rw [List.concat_eq_append] at last
  refine ⟨names, name, last, ?_⟩
  intro back
  subst back
  rw [route, last, ← List.append_assoc] at resolved
  obtain ⟨reached, walked, rfl⟩ := Node.walk_of_resolve_back resolved
  obtain ⟨entries, directory⟩ := Node.Trail.start.back walked
  have there := (Node.Trail.start.walk walked).find
  rw [directory] at there
  cases there.symm.trans found

theorem read_iff_holds (path : Path) (tree : FileTree) (content : Bytes) :
    read path tree = .ok content ↔
      path.ending = .name ∧ holds path tree = some (some content) := by
  unfold read holds
  cases find path tree with
  | error e => simp [bind, Except.bind, Except.toOption]
  | ok node =>
    cases node with
    | directory entries => simp [bind, Except.bind, Except.toOption, Node.content?]
    | file kept =>
      by_cases ending : path.ending = .name <;>
        simp [bind, Except.bind, pure, Except.pure, Except.toOption, Node.content?, ending]

end FileTree

end SessionGate.Storage
