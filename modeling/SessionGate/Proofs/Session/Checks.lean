import SessionGate.Session.Permission

/- Checks of permissions and of roles are one kind of check. They grant what is held, and whatever is asked
   for where the wildcard is held; what else is in the record does not matter to them. -/
namespace SessionGate.Record

/-- A kind of check: what it looks for in a record, and its three forms. -/
structure Check where
  held : Record → List String
  wildcard : String
  one : Record → String → Bool
  any : Record → List String → Bool
  all : Record → List String → Bool

namespace Check

def permissions : Check where
  held := Record.permissions
  wildcard := "*:*:*"
  one := hasPermission
  any := hasAnyPermission
  all := hasAllPermissions

def roles : Check where
  held := Record.roles
  wildcard := "admin"
  one := hasRole
  any := hasAnyRole
  all := hasAllRoles

/-- The forms are made of the check of one query, and that of what is held. -/
structure Regular (check : Check) : Prop where
  one (record : Record) (query : String) :
    check.one record query = grants (check.held record) check.wildcard query
  any (record : Record) (queries : List String) :
    check.any record queries = List.any queries (check.one record)
  all (record : Record) (queries : List String) :
    check.all record queries = (!queries.isEmpty && List.all queries (check.one record))

theorem permissions_regular : Regular permissions := ⟨fun _ _ => rfl, fun _ _ => rfl, fun _ _ => rfl⟩

theorem roles_regular : Regular roles := ⟨fun _ _ => rfl, fun _ _ => rfl, fun _ _ => rfl⟩

section Forms

variable {check : Check} (regular : Regular check) {record other : Record}
  {query : String} {queries others : List String}
include regular

theorem one_iff : check.one record query = true ↔
    query ≠ "" ∧ (check.wildcard ∈ check.held record ∨ query ∈ check.held record) := by
  rw [regular.one]
  simp [grants, and_or_left, exists_or]

theorem any_iff : check.any record queries = true ↔
    ∃ query ∈ queries, check.one record query = true := by
  rw [regular.any, List.any_eq_true]

theorem all_iff : check.all record queries = true ↔
    queries ≠ [] ∧ ∀ query ∈ queries, check.one record query = true := by
  rw [regular.all, Bool.and_eq_true, List.all_eq_true, Bool.not_eq_true', List.isEmpty_eq_false_iff]

theorem one_more (more : check.held record ⊆ check.held other)
    (granted : check.one record query = true) : check.one other query = true := by
  rw [one_iff regular] at granted ⊢
  exact granted.imp_right (Or.imp (@more _) (@more _))

theorem any_more (more : check.held record ⊆ check.held other) (asked : queries ⊆ others)
    (granted : check.any record queries = true) : check.any other others = true := by
  rw [any_iff regular] at granted ⊢
  obtain ⟨query, member, one⟩ := granted
  exact ⟨query, asked member, one_more regular more one⟩

theorem all_more (more : check.held record ⊆ check.held other)
    (asked : ∀ query, query ∈ queries ↔ query ∈ others)
    (granted : check.all record queries = true) : check.all other others = true := by
  rw [all_iff regular] at granted ⊢
  obtain ⟨present, each⟩ := granted
  obtain ⟨query, rest, rfl⟩ := List.exists_cons_of_ne_nil present
  refine ⟨List.ne_nil_of_mem ((asked query).mp List.mem_cons_self), fun query member => ?_⟩
  exact one_more regular more (each query ((asked query).mpr member))

theorem any_append : check.any record (queries ++ others) =
    (check.any record queries || check.any record others) := by
  rw [regular.any, regular.any, regular.any, List.any_append]

theorem all_append (present : queries ≠ []) (further : others ≠ []) :
    check.all record (queries ++ others) = (check.all record queries && check.all record others) := by
  rw [Bool.eq_iff_iff, Bool.and_eq_true, all_iff regular, all_iff regular, all_iff regular,
    List.forall_mem_append]
  constructor
  · rintro ⟨_, first, later⟩
    exact ⟨⟨present, first⟩, further, later⟩
  · rintro ⟨⟨_, first⟩, _, later⟩
    exact ⟨List.append_ne_nil_of_left_ne_nil present others, first, later⟩

theorem all_any (granted : check.all record queries = true) : check.any record queries = true := by
  obtain ⟨present, each⟩ := (all_iff regular).mp granted
  obtain ⟨query, rest, rfl⟩ := List.exists_cons_of_ne_nil present
  exact (any_iff regular).mpr ⟨query, List.mem_cons_self, each query List.mem_cons_self⟩

theorem all_blank (blank : "" ∈ queries) : check.all record queries = false := by
  rw [Bool.eq_false_iff, ne_eq, all_iff regular]
  rintro ⟨_, each⟩
  exact ((one_iff regular).mp (each "" blank)).1 rfl

end Forms

/-- A check that grants what is held, whatever the order and the number of times it is held or asked for. -/
structure GrantsHeld (check : Check) : Prop where
  plain {record : Record} (absent : check.wildcard ∉ check.held record) (query : String) :
    check.one record query = true ↔ query ≠ "" ∧ query ∈ check.held record
  wild {record : Record} (held : check.wildcard ∈ check.held record) {query : String}
    (asked : query ≠ "") : check.one record query = true
  any_iff (record : Record) (queries : List String) :
    check.any record queries = true ↔ ∃ query ∈ queries, check.one record query = true
  all_iff (record : Record) (queries : List String) :
    check.all record queries = true ↔
      queries ≠ [] ∧ ∀ query ∈ queries, check.one record query = true
  same {record other : Record} {queries others : List String}
    (held : ∀ item, item ∈ check.held record ↔ item ∈ check.held other)
    (asked : ∀ query, query ∈ queries ↔ query ∈ others) :
    check.any record queries = check.any other others ∧
      check.all record queries = check.all other others
  more {record other : Record} (held : check.held record ⊆ check.held other) (queries : List String) :
    (check.any record queries = true → check.any other queries = true) ∧
      (check.all record queries = true → check.all other queries = true)
  any_append (record : Record) (queries others : List String) :
    check.any record (queries ++ others) = (check.any record queries || check.any record others)
  all_append (record : Record) {queries others : List String} (present : queries ≠ [])
    (further : others ≠ []) :
    check.all record (queries ++ others) = (check.all record queries && check.all record others)
  all_any {record : Record} {queries : List String} (granted : check.all record queries = true) :
    check.any record queries = true
  blank (record : Record) {queries : List String} (blank : "" ∈ queries) :
    check.all record queries = false

theorem Regular.grantsHeld {check : Check} (regular : Regular check) : GrantsHeld check where
  plain absent query := by rw [Check.one_iff regular, or_iff_right absent]
  wild held _ asked := (Check.one_iff regular).mpr ⟨asked, Or.inl held⟩
  any_iff _ _ := Check.any_iff regular
  all_iff _ _ := Check.all_iff regular
  same {record other queries others} held asked := by
    have more : check.held record ⊆ check.held other := fun item => (held item).mp
    have fewer : check.held other ⊆ check.held record := fun item => (held item).mpr
    constructor
    · rw [Bool.eq_iff_iff]
      exact ⟨any_more regular more fun query => (asked query).mp,
        any_more regular fewer fun query => (asked query).mpr⟩
    · rw [Bool.eq_iff_iff]
      exact ⟨all_more regular more asked, all_more regular fewer fun query => (asked query).symm⟩
  more held _ := ⟨any_more regular held fun _ => id, all_more regular held fun _ => Iff.rfl⟩
  any_append _ _ _ := Check.any_append regular
  all_append _ _ _ := Check.all_append regular
  all_any := Check.all_any regular
  blank _ := all_blank regular

structure Alike (check : Check) (record other : Record) : Prop where
  one (query : String) : check.one record query = check.one other query
  any (queries : List String) : check.any record queries = check.any other queries
  all (queries : List String) : check.all record queries = check.all other queries

theorem Regular.alike {check : Check} (regular : Regular check) {record other : Record}
    (same : check.held record = check.held other) : Alike check record other := by
  have one (query : String) : check.one record query = check.one other query := by
    rw [regular.one, regular.one, same]
  refine ⟨one, fun queries => ?_, fun queries => ?_⟩
  · rw [regular.any, regular.any, funext one]
  · rw [regular.all, regular.all, funext one]

theorem checks_grant_what_is_held :
    GrantsHeld permissions ∧ GrantsHeld roles ∧
      (∀ record other, record.permissions = other.permissions → Alike permissions record other) ∧
      ∀ record other, record.roles = other.roles → Alike roles record other :=
  ⟨permissions_regular.grantsHeld, roles_regular.grantsHeld,
    fun _ _ same => permissions_regular.alike same, fun _ _ same => roles_regular.alike same⟩

/- Who holds everything is still not granted the empty query, and a role of that name says nothing. -/
theorem wildcard_grants_all_but_the_empty_query :
    permissions.any ⟨"t", "", "", "", [], ["a", "*:*:*"]⟩ ["", "b:c:d"] = true ∧
      permissions.all ⟨"t", "", "", "", [], ["a", "*:*:*"]⟩ ["b:c:d", ""] = false ∧
      roles.one ⟨"t", "", "", "", ["*:*:*"], ["admin"]⟩ "editor" = false := by
  obtain ⟨permission, role, _, unmoved⟩ := checks_grant_what_is_held
  refine ⟨?_, permission.blank _ (by simp), ?_⟩
  · rw [permission.any_iff]
    exact ⟨"b:c:d", by simp, permission.wild (by simp [permissions]) (by decide)⟩
  · have absent : roles.wildcard ∉ roles.held ⟨"t", "", "", "", ["*:*:*"], []⟩ := by simp [roles]
    rw [(unmoved ⟨"t", "", "", "", ["*:*:*"], ["admin"]⟩ _ rfl).one, Bool.eq_false_iff]
    intro granted
    simpa [roles] using ((role.plain absent "editor").mp granted).2

end Check

end SessionGate.Record
