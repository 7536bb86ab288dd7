import SessionGate.Navigation.PageStack

/- What stays true of the open pages over every run of calls. A call that is refused changes nothing, and
   one that drops all pages makes every run before it forgotten. -/
namespace SessionGate.Navigation.PageStack

/-! One call -/

/-- The pages that an operation leaves open below the page that it opens. -/
def left : Primitive → List String → List String
  | .navigateTo, pages => pages
  | .redirectTo, pages => pages.dropLast
  | .reLaunch, _ | .switchTab, _ => []

def IsFull (stack : PageStack) : Prop := maxPages ≤ stack.pages.length

structure Settles (primitive : Primitive) (url : String) (before : PageStack)
    (settled : Except Error Unit × PageStack) : Prop where
  fails_iff : (∃ e, settled.1 = .error e) ↔ url = "" ∨ primitive = .navigateTo ∧ before.IsFull
  failed : ∀ e, settled.1 = .error e → settled.2 = before
  done : settled.1 = .ok () → settled.2.pages = left primitive before.pages ++ [url]
  blank : "" ∈ settled.2.pages → "" ∈ before.pages

theorem left_begins (primitive : Primitive) (pages : List String) : left primitive pages <+: pages := by
  cases primitive with
  | navigateTo => exact List.prefix_rfl
  | redirectTo => exact List.dropLast_prefix pages
  | reLaunch | switchTab => exact List.nil_prefix

theorem perform_refused {primitive : Primitive} {url : String} {stack : PageStack}
    (refused : url = "" ∨ primitive = .navigateTo ∧ stack.IsFull) :
    ∃ e, stack.perform primitive url = (.error e, stack) := by
  by_cases missing : url = ""
  · exact ⟨_, if_pos missing⟩
  · obtain ⟨rfl, full⟩ := refused.resolve_left missing
    exact ⟨_, (if_neg missing).trans (if_pos full)⟩

theorem perform_done {primitive : Primitive} {url : String} {stack : PageStack} (present : url ≠ "")
    (room : ¬ (primitive = .navigateTo ∧ stack.IsFull)) :
    stack.perform primitive url = (.ok (), ⟨left primitive stack.pages ++ [url]⟩) := by
  cases primitive with
  | navigateTo =>
    have low : ¬ maxPages ≤ stack.pages.length := fun full => room ⟨rfl, full⟩
    simp only [perform, present, low, if_false, left]
  | redirectTo | reLaunch | switchTab => simp only [perform, present, if_false, left, List.nil_append]

theorem perform_cases (primitive : Primitive) (url : String) (stack : PageStack) :
    (url = "" ∨ primitive = .navigateTo ∧ stack.IsFull) ∧
        (∃ e, stack.perform primitive url = (.error e, stack)) ∨
      (url ≠ "" ∧ ¬ (primitive = .navigateTo ∧ stack.IsFull)) ∧
        stack.perform primitive url = (.ok (), ⟨left primitive stack.pages ++ [url]⟩) := by
  by_cases refused : url = "" ∨ primitive = .navigateTo ∧ stack.IsFull
  · exact Or.inl ⟨refused, perform_refused refused⟩
  · obtain ⟨present, room⟩ := not_or.mp refused
    exact Or.inr ⟨⟨present, room⟩, perform_done present room⟩

theorem perform_settles (primitive : Primitive) (url : String) (stack : PageStack) :
    Settles primitive url stack (stack.perform primitive url) := by
  rcases perform_cases primitive url stack with
    ⟨refused, e, performed⟩ | ⟨⟨present, room⟩, performed⟩
  · rw [performed]
    exact ⟨iff_of_true ⟨e, rfl⟩ refused, fun _ _ => rfl, nofun, id⟩
  · rw [performed]
    refine ⟨iff_of_false nofun (not_or.mpr ⟨present, room⟩), nofun, fun _ => rfl, fun member => ?_⟩
    rcases List.mem_append.mp member with below | top
    · exact (left_begins primitive stack.pages).subset below
    · exact absurd (List.mem_singleton.mp top).symm present

theorem reset_forgets {primitive : Primitive} (reset : primitive = .reLaunch ∨ primitive = .switchTab)
    {url : String} {stack : PageStack} (done : (stack.perform primitive url).1 = .ok ())
    (other : PageStack) : other.perform primitive url = stack.perform primitive url := by
  have present : url ≠ "" := by
    rintro rfl
    obtain ⟨e, refused⟩ : ∃ e, stack.perform primitive "" = (.error e, stack) :=
      perform_refused (Or.inl rfl)
    rw [refused] at done
    cases done
  have room (stack : PageStack) : ¬ (primitive = .navigateTo ∧ stack.IsFull) := by
    rintro ⟨rfl, _⟩
    rcases reset with pushed | pushed <;> cases pushed
  rw [perform_done present (room other), perform_done present (room stack)]
  rcases reset with rfl | rfl <;> rfl

/-! Runs -/

def performAll : List HostCall → PageStack → List (Except Error Unit) × PageStack
  | [], stack => ([], stack)
  | (primitive, url) :: rest, stack =>
    let (result, next) := stack.perform primitive url
    let (results, last) := performAll rest next
    (result :: results, last)

def start : Option String → PageStack
  | none => empty
  | some root => withRoot root

def reached (root : Option String) (calls : List HostCall) : PageStack :=
  (performAll calls (start root)).2

theorem performAll_keeps {Holds : PageStack → Prop}
    (each : ∀ primitive url stack, Holds stack → Holds (stack.perform primitive url).2)
    (calls : List HostCall) {stack : PageStack} (holds : Holds stack) :
    Holds (performAll calls stack).2 := by
  induction calls generalizing stack with
  | nil => exact holds
  | cons call rest ih => exact ih (each call.1 call.2 stack holds)

/-- What stays true of a stack. Only the page at the bottom may have no url, and only if the stack was
started with it. -/
structure Orderly (root : Option String) (stack : PageStack) : Prop where
  bounded : stack.pages.length ≤ maxPages
  blank : ∀ i, stack.pages[i]? = some "" → i = 0 ∧ root = some ""

theorem start_orderly (root : Option String) : Orderly root (start root) := by
  cases root with
  | none => exact ⟨by decide, nofun⟩
  | some root =>
    refine ⟨Nat.le_of_ble_eq_true rfl, fun i found => ?_⟩
    cases i with
    | zero => exact ⟨rfl, found⟩
    | succ i => cases found

theorem perform_orderly {root : Option String} (primitive : Primitive) (url : String)
    (stack : PageStack) (orderly : Orderly root stack) :
    Orderly root (stack.perform primitive url).2 := by
  rcases perform_cases primitive url stack with
    ⟨_, e, performed⟩ | ⟨⟨present, room⟩, performed⟩
  · rw [performed]
    exact orderly
  · obtain ⟨closed, split⟩ := left_begins primitive stack.pages
    rw [performed]
    constructor
    · have bounded := orderly.bounded
      rw [List.length_append, List.length_singleton]
      cases primitive with
      | navigateTo => exact Nat.lt_of_not_le fun full => room ⟨rfl, full⟩
      | redirectTo =>
        simp only [left, List.length_dropLast, maxPages] at bounded ⊢
        omega
      | reLaunch | switchTab => exact Nat.le_of_ble_eq_true rfl
    · intro i found
      by_cases below : i < (left primitive stack.pages).length
      · apply orderly.blank
        rw [← split, List.getElem?_append_left below, ← found, List.getElem?_append_left below]
      · rw [List.getElem?_append_right (Nat.le_of_not_lt below)] at found
        obtain ⟨_, same⟩ := List.mem_singleton.mp (List.mem_of_getElem? found)
        exact absurd rfl present

theorem perform_present (primitive : Primitive) (url : String) (stack : PageStack)
    (present : stack.pages ≠ []) : (stack.perform primitive url).2.pages ≠ [] := by
  have settles := perform_settles primitive url stack
  cases result : (stack.perform primitive url).1 with
  | error e => rwa [settles.failed e result]
  | ok done =>
    rw [settles.done result]
    exact List.append_ne_nil_of_right_ne_nil _ (List.cons_ne_nil url [])

theorem every_run_keeps_to_the_rules (root : Option String) (calls : List HostCall) :
    Orderly root (reached root calls) ∧
      (∀ primitive url, Settles primitive url (reached root calls)
        ((reached root calls).perform primitive url)) ∧
      ((reached root calls).pages ≠ [] → ∀ later, (performAll later (reached root calls)).2.pages ≠ []) ∧
      ∀ primitive url, primitive = .reLaunch ∨ primitive = .switchTab →
        ((reached root calls).perform primitive url).1 = .ok () →
        ∀ other past later, performAll ((primitive, url) :: later) (reached other past) =
          performAll ((primitive, url) :: later) (reached root calls) := by
  refine ⟨performAll_keeps perform_orderly calls (start_orderly root), ?_, ?_, ?_⟩
  · intro primitive url
    exact perform_settles primitive url (reached root calls)
  · intro present later
    exact performAll_keeps perform_present later present
  · intro primitive url reset done other past later
    simp only [performAll, reset_forgets reset done (reached other past)]

/- Ten pages are open over a root without a url. -/
theorem full_stack_refuses_and_forgets :
    (∃ e, ((reached (some "") (List.replicate 9 (.navigateTo, "/p"))).perform .navigateTo "/q").1 =
        .error e) ∧
      ∀ later, performAll ((.switchTab, "/q") :: later) (reached none [(.navigateTo, "")]) =
        performAll ((.switchTab, "/q") :: later)
          (reached (some "") (List.replicate 9 (.navigateTo, "/p"))) := by
  obtain ⟨_, settles, _, forgets⟩ :=
    every_run_keeps_to_the_rules (some "") (List.replicate 9 (.navigateTo, "/p"))
  exact ⟨(settles .navigateTo "/q").fails_iff.mpr (Or.inr ⟨rfl, Nat.le_refl 10⟩),
    forgets .switchTab "/q" (Or.inr rfl) rfl none [(.navigateTo, "")]⟩

end SessionGate.Navigation.PageStack
