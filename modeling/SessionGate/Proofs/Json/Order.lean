import SessionGate.Json.Value

/- Members in the order of their names, each name once. A list that is built by setting one member after
   another is in this order, and of two such lists that agree on every name there is only one. -/
namespace SessionGate.Json.Members

def Sorted (members : Members) : Prop :=
  members.Pairwise fun first second => first.1 < second.1

theorem name_above {name other : String} (above : ¬ name < other) (different : name ≠ other) :
    other < name := by
  apply String.not_le.mp
  intro least
  exact different (String.le_antisymm least (String.not_lt.mp above))

theorem mem_insert {members : Members} {name : String} {value : Value} {member : String × Value}
    (found : member ∈ insert members name value) : member = (name, value) ∨ member ∈ members := by
  induction members with
  | nil => exact Or.inl (List.mem_singleton.mp found)
  | cons first rest ih =>
    obtain ⟨other, kept⟩ := first
    simp only [insert] at found
    split at found
    · exact List.mem_cons.mp found
    · split at found
      · exact (List.mem_cons.mp found).imp_right (List.mem_cons_of_mem _)
      · rcases List.mem_cons.mp found with here | later
        · exact Or.inr (here ▸ List.mem_cons_self)
        · exact (ih later).imp_right (List.mem_cons_of_mem _)

theorem insert_sorted {members : Members} (sorted : Sorted members) (name : String)
    (value : Value) : Sorted (insert members name value) := by
  induction members with
  | nil => exact List.pairwise_singleton _ _
  | cons first rest ih =>
    obtain ⟨other, kept⟩ := first
    obtain ⟨above, later⟩ := List.pairwise_cons.mp sorted
    simp only [insert]
    split
    · rename_i below
      refine List.pairwise_cons.mpr ⟨?_, sorted⟩
      intro member found
      rcases List.mem_cons.mp found with rfl | among
      · exact below
      · exact String.lt_trans below (above member among)
    · rename_i notBelow
      split
      · rename_i same
        subst same
        exact List.pairwise_cons.mpr ⟨above, later⟩
      · rename_i different
        refine List.pairwise_cons.mpr ⟨?_, ih later⟩
        intro member found
        rcases mem_insert found with rfl | among
        · exact name_above notBelow different
        · exact above member among

theorem forall_insert {holds : Value → Prop} {members : Members}
    (each : ∀ member ∈ members, holds member.2) (name : String) {value : Value} (one : holds value) :
    ∀ member ∈ insert members name value, holds member.2 := by
  intro member found
  rcases mem_insert found with rfl | among
  · exact one
  · exact each member among

theorem erase_sorted {members : Members} (sorted : Sorted members) (name : String) :
    Sorted (erase members name) :=
  List.Pairwise.filter _ sorted

theorem mem_erase {members : Members} {name : String} {member : String × Value}
    (found : member ∈ erase members name) : member ∈ members :=
  (List.mem_filter.mp found).1

theorem insert_last {members : Members} {name : String} (value : Value)
    (below : ∀ member ∈ members, member.1 < name) :
    insert members name value = members ++ [(name, value)] := by
  induction members with
  | nil => rfl
  | cons first rest ih =>
    obtain ⟨other, kept⟩ := first
    have less := below (other, kept) List.mem_cons_self
    have later := ih fun member found => below member (List.mem_cons_of_mem _ found)
    have different : name ≠ other := by
      intro same
      subst same
      exact String.lt_irrefl name less
    simp only [insert, String.lt_asymm less, different, if_false, later, List.cons_append]

/-! Members that are set one after another -/

def insertAll (members : Members) (more : List (String × Value)) : Members :=
  more.foldl (fun kept member => insert kept member.1 member.2) members

theorem insertAll_sorted {members : Members} (sorted : Sorted members)
    (more : List (String × Value)) : Sorted (insertAll members more) := by
  induction more generalizing members with
  | nil => exact sorted
  | cons first rest ih => exact ih (insert_sorted sorted first.1 first.2)

theorem mem_insertAll {members : Members} {more : List (String × Value)}
    {member : String × Value} (found : member ∈ insertAll members more) :
    member ∈ members ∨ member ∈ more := by
  induction more generalizing members with
  | nil => exact Or.inl found
  | cons first rest ih =>
    rcases ih found with earlier | later
    · rcases mem_insert earlier with rfl | among
      · exact Or.inr List.mem_cons_self
      · exact Or.inl among
    · exact Or.inr (List.mem_cons_of_mem _ later)

theorem insertAll_in_order {members : Members} {more : List (String × Value)}
    (sorted : Sorted (members ++ more)) : insertAll members more = members ++ more := by
  induction more generalizing members with
  | nil => exact (List.append_nil members).symm
  | cons first rest ih =>
    obtain ⟨name, value⟩ := first
    have below : ∀ member ∈ members, member.1 < name := fun member found =>
      (List.pairwise_append.mp sorted).2.2 member found (name, value) List.mem_cons_self
    have step : insertAll members ((name, value) :: rest) =
        insertAll (insert members name value) rest := rfl
    rw [List.append_cons] at sorted
    rw [step, insert_last value below, List.append_cons members (name, value) rest]
    exact ih sorted

theorem ofList_sorted (members : List (String × Value)) : Sorted (ofList members) :=
  insertAll_sorted List.Pairwise.nil members

theorem mem_ofList {members : List (String × Value)} {member : String × Value}
    (found : member ∈ ofList members) : member ∈ members :=
  (mem_insertAll found).resolve_left List.not_mem_nil

theorem ofList_in_order {members : List (String × Value)} (sorted : Sorted members) :
    ofList members = members :=
  insertAll_in_order sorted

/-! Values by name -/

theorem get_insert_same (members : Members) (name : String) (value : Value) :
    get? (insert members name value) name = some value := by
  induction members with
  | nil => simp [insert, get?]
  | cons member rest ih =>
    obtain ⟨other, kept⟩ := member
    simp only [insert]
    split
    · simp [get?]
    · split
      · simp [get?]
      · rename_i different
        simpa [get?, Ne.symm different] using ih

theorem get_insert_other {members : Members} {name wanted : String} (value : Value)
    (different : wanted ≠ name) : get? (insert members name value) wanted = get? members wanted := by
  induction members with
  | nil => simp [insert, get?, Ne.symm different]
  | cons member rest ih =>
    obtain ⟨other, kept⟩ := member
    simp only [insert]
    split
    · simp [get?, Ne.symm different]
    · split
      · rename_i same
        subst same
        simp [get?, Ne.symm different]
      · by_cases found : other = wanted
        · simp [get?, found]
        · simpa [get?, found] using ih

theorem get_erase_same (members : Members) (name : String) :
    get? (erase members name) name = none := by
  simp [get?, erase]

theorem get_erase_other (members : Members) {name wanted : String} (different : wanted ≠ name) :
    get? (erase members name) wanted = get? members wanted := by
  unfold get? erase
  rw [List.find?_filter]
  congr 2
  funext member
  by_cases found : member.1 = wanted
  · simp [found, different]
  · simp [found]

theorem mem_of_get {members : Members} {name : String} {value : Value}
    (found : get? members name = some value) : (name, value) ∈ members := by
  obtain ⟨member, first, rfl⟩ := Option.map_eq_some_iff.mp found
  have same : member.1 = name := by simpa using List.find?_some first
  subst same
  exact List.mem_of_find?_eq_some first

theorem get_none_above {members : Members} {name : String}
    (above : ∀ member ∈ members, name < member.1) : get? members name = none := by
  have absent : members.find? (fun member => member.1 = name) = none := by
    rw [List.find?_eq_none]
    intro member found
    simp only [decide_eq_true_eq]
    intro same
    exact String.lt_irrefl name (same ▸ above member found)
  simp only [get?, absent, Option.map_none]

theorem get_none_first {name first : String} {rest : Members} (below : name < first)
    (above : ∀ member ∈ rest, first < member.1) (value : Value) :
    get? ((first, value) :: rest) name = none := by
  apply get_none_above
  intro member found
  rcases List.mem_cons.mp found with rfl | among
  · exact below
  · exact String.lt_trans below (above member among)

theorem get_cons_same (name : String) (value : Value) (rest : Members) :
    get? ((name, value) :: rest) name = some value := by
  simp [get?]

theorem get_cons_other {name wanted : String} (value : Value) (rest : Members)
    (different : name ≠ wanted) : get? ((name, value) :: rest) wanted = get? rest wanted := by
  simp [get?, different]

/-- Changes each value, by its name. -/
def revalue (change : String → Value → Value) (members : Members) : Members :=
  members.map fun member => (member.1, change member.1 member.2)

theorem get_revalue (change : String → Value → Value) (members : Members) (name : String) :
    get? (revalue change members) name = (get? members name).map (change name) := by
  induction members with
  | nil => rfl
  | cons member rest ih =>
    obtain ⟨first, value⟩ := member
    by_cases same : first = name
    · subst same
      rw [get_cons_same]
      exact get_cons_same first (change first value) (revalue change rest)
    · rw [get_cons_other value rest same, ← ih]
      exact get_cons_other (change first value) (revalue change rest) same

theorem insert_revalue (change : String → Value → Value) (members : Members) (name : String)
    (value : Value) : insert (revalue change members) name (change name value) =
      revalue change (insert members name value) := by
  induction members with
  | nil => rfl
  | cons member rest ih =>
    simp only [revalue, List.map_cons, insert] at ih ⊢
    split
    · rfl
    · split
      · rfl
      · rw [ih]
        rfl

theorem erase_revalue (change : String → Value → Value) (members : Members) (name : String) :
    erase (revalue change members) name = revalue change (erase members name) :=
  List.filter_map

theorem sorted_ext {first second : Members} (sorted : Sorted first) (other : Sorted second)
    (agree : ∀ name, get? first name = get? second name) : first = second := by
  induction first generalizing second with
  | nil =>
    cases second with
    | nil => rfl
    | cons member rest =>
      have known := agree member.1
      rw [get_cons_same] at known
      cases known
  | cons member rest ih =>
    obtain ⟨name, value⟩ := member
    obtain ⟨above, later⟩ := List.pairwise_cons.mp sorted
    have known := agree name
    rw [get_cons_same] at known
    cases second with
    | nil => cases known
    | cons member' rest' =>
      obtain ⟨name', value'⟩ := member'
      obtain ⟨above', later'⟩ := List.pairwise_cons.mp other
      have notLess : ¬ name < name' := by
        intro less
        have absent := get_none_first less above' value'
        cases known.trans absent
      have notMore : ¬ name' < name := by
        intro less
        have absent := get_none_first less above value
        have present := agree name'
        rw [absent, get_cons_same] at present
        cases present
      obtain rfl : name = name' :=
        String.le_antisymm (String.not_lt.mp notMore) (String.not_lt.mp notLess)
      rw [get_cons_same] at known
      cases known
      congr 1
      refine ih later later' fun wanted => ?_
      by_cases same : name = wanted
      · subst same
        rw [get_none_above above, get_none_above above']
      · have both := agree wanted
        rw [get_cons_other _ _ same, get_cons_other _ _ same] at both
        exact both

theorem get_insertAll_absent {more : List (String × Value)} {name : String}
    (absent : more.filter (fun member => member.1 = name) = []) (members : Members) :
    get? (insertAll members more) name = get? members name := by
  induction more generalizing members with
  | nil => rfl
  | cons first rest ih =>
    by_cases same : first.1 = name
    · simp [same] at absent
    · simp only [same, decide_false, Bool.false_eq_true, not_false_eq_true,
        List.filter_cons_of_neg] at absent
      exact (ih absent _).trans (get_insert_other first.2 (Ne.symm same))

theorem get_insertAll_single {more : List (String × Value)} {name : String}
    {one : String × Value} (only : more.filter (fun member => member.1 = name) = [one])
    (members : Members) : get? (insertAll members more) name = some one.2 := by
  induction more generalizing members with
  | nil => cases only
  | cons first rest ih =>
    by_cases same : first.1 = name
    · simp only [same, decide_true, List.filter_cons_of_pos, List.cons.injEq] at only
      obtain ⟨rfl, absent⟩ := only
      refine (get_insertAll_absent absent _).trans ?_
      rw [← same]
      exact get_insert_same members first.1 first.2
    · simp only [same, decide_false, Bool.false_eq_true, not_false_eq_true,
        List.filter_cons_of_neg] at only
      exact ih only _

theorem sorted_names {members : Members} (sorted : Sorted members) :
    (members.map Prod.fst).Nodup := by
  refine List.pairwise_map.mpr (sorted.imp fun below same => ?_)
  exact String.lt_irrefl _ (same ▸ below)

theorem filter_named {α : Type} (name : α → String) {items : List α}
    (distinct : (items.map name).Nodup) {one : α} (member : one ∈ items) :
    items.filter (fun item => name item = name one) = [one] := by
  induction items with
  | nil => cases member
  | cons first rest ih =>
    obtain ⟨apart, later⟩ := List.nodup_cons.mp distinct
    rcases List.mem_cons.mp member with rfl | among
    · have absent : rest.filter (fun item => name item = name one) = [] := by
        rw [List.filter_eq_nil_iff]
        intro other found same
        rw [decide_eq_true_eq] at same
        exact apart (same ▸ List.mem_map_of_mem found)
      simp [absent]
    · have different : name first ≠ name one := by
        intro same
        exact apart (same ▸ List.mem_map_of_mem among)
      simpa [different] using ih later among

/-- Where no name is repeated, each has the value that is listed with it. -/
theorem get_ofList {listed : List (String × Value)} (distinct : (listed.map Prod.fst).Nodup)
    {name : String} {value : Value} (member : (name, value) ∈ listed) :
    get? (ofList listed) name = some value :=
  get_insertAll_single (filter_named Prod.fst distinct member) []

/-! All but some names -/

/-- The members of other names than those given. -/
def without (names : List String) (members : Members) : Members :=
  members.filter fun member => member.1 ∉ names

variable {names : List String}

theorem without_sorted {members : Members} (sorted : Sorted members) :
    Sorted (without names members) :=
  List.Pairwise.filter _ sorted

theorem without_cons_known {member : String × Value} (known : member.1 ∈ names) (rest : Members) :
    without names (member :: rest) = without names rest :=
  List.filter_cons_of_neg (by simpa using known)

theorem without_cons_other {member : String × Value} (other : member.1 ∉ names) (rest : Members) :
    without names (member :: rest) = member :: without names rest :=
  List.filter_cons_of_pos (by simpa using other)

theorem not_mem_of_without {members : Members} {member : String × Value}
    (found : member ∈ without names members) : member.1 ∉ names := by
  simpa using (List.mem_filter.mp found).2

theorem without_eq_self {members : Members} (apart : ∀ member ∈ members, member.1 ∉ names) :
    without names members = members := by
  unfold without
  rw [List.filter_eq_self]
  intro member found
  simpa using apart member found

theorem get_without_known {name : String} (known : name ∈ names) (members : Members) :
    get? (without names members) name = none := by
  have absent : (without names members).find? (fun member => member.1 = name) = none := by
    rw [List.find?_eq_none]
    intro member found
    simp only [decide_eq_true_eq]
    intro same
    exact not_mem_of_without found (same ▸ known)
  simp only [get?, absent, Option.map_none]

theorem get_without_other {name : String} (other : name ∉ names) (members : Members) :
    get? (without names members) name = get? members name := by
  unfold get? without
  rw [List.find?_filter]
  congr 2
  funext member
  by_cases same : member.1 = name
  · simp [same, other]
  · simp [same]

theorem without_insert_known {name : String} (known : name ∈ names) (members : Members)
    (value : Value) : without names (insert members name value) = without names members := by
  induction members with
  | nil => simp [without, insert, known]
  | cons member rest ih =>
    obtain ⟨other, kept⟩ := member
    simp only [insert]
    split
    · exact without_cons_known known _
    · split
      · rename_i same
        subst same
        rw [without_cons_known known, without_cons_known known]
      · by_cases other : other ∈ names
        · rw [without_cons_known other, without_cons_known other, ih]
        · rw [without_cons_other other, without_cons_other other, ih]

theorem without_insert_other {members : Members} (sorted : Sorted members) {name : String}
    (other : name ∉ names) (value : Value) :
    without names (insert members name value) = insert (without names members) name value := by
  refine sorted_ext (without_sorted (insert_sorted sorted name value))
    (insert_sorted (without_sorted sorted) name value) fun wanted => ?_
  by_cases left : wanted ∈ names
  · have different : wanted ≠ name := by
      intro same
      exact other (same ▸ left)
    rw [get_without_known left, get_insert_other value different, get_without_known left]
  · rw [get_without_other left]
    by_cases same : wanted = name
    · rw [same, get_insert_same, get_insert_same]
    · rw [get_insert_other value same, get_insert_other value same, get_without_other left]

theorem without_insertAll {members : Members} (sorted : Sorted members)
    (more : List (String × Value)) :
    without names (insertAll members more) =
      insertAll (without names members) (without names more) := by
  induction more generalizing members with
  | nil => rfl
  | cons first rest ih =>
    refine (ih (insert_sorted sorted first.1 first.2)).trans ?_
    by_cases known : first.1 ∈ names
    · rw [without_insert_known known, without_cons_known known]
    · rw [without_insert_other sorted known, without_cons_other known]
      rfl

theorem without_ofList (names : List String) (listed : List (String × Value)) :
    without names (ofList listed) = ofList (without names listed) :=
  without_insertAll List.Pairwise.nil listed

end SessionGate.Json.Members
