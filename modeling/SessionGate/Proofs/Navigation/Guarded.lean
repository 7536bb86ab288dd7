import SessionGate.Navigation.Guard
import SessionGate.Proofs.Navigation.PageStacks

/- What one attempt may do to the open pages. The guard never looks at them, so this speaks of every
   stack, also of one that no guard stood before. -/
namespace SessionGate.Navigation

theorem AllowList.contains_insert_iff (list : AllowList) (path key : String) :
    (list.insert path).contains key = true ↔ key = path ∨ key ∈ list.paths := by
  simp [contains, insert]

namespace Policy

theorem opens_iff (policy : Policy) (key : String) :
    policy.opens key = true ↔ key = policy.loginPage ∨ key ∈ policy.listed.paths :=
  AllowList.contains_insert_iff policy.listed policy.loginPage key

theorem anonymous_allowed {policy : Policy} {intent : Intent}
    (allowed : policy.decide .anonymous intent = .allow) :
    intent.key = policy.loginPage ∨ intent.key ∈ policy.listed.paths := by
  rw [← opens_iff]
  by_cases opened : policy.opens intent.key = true
  · exact opened
  · simp [decide, opened] at allowed

theorem anonymous_redirected {policy : Policy} {intent : Intent} {target : String}
    (redirected : policy.decide .anonymous intent = .redirect target) :
    target = policy.loginPage := by
  by_cases opened : policy.opens intent.key = true
  · simp [decide, opened] at redirected
  · simp only [decide, opened] at redirected
    cases redirected
    rfl

theorem authenticated_allowed {policy : Policy} {intent : Intent}
    (allowed : policy.decide .authenticated intent = .allow) : intent.key ≠ policy.loginPage := by
  intro login
  simp [decide, login] at allowed

theorem authenticated_redirected {policy : Policy} {intent : Intent} {target : String}
    (redirected : policy.decide .authenticated intent = .redirect target) : target = homePage := by
  by_cases login : intent.key = policy.loginPage
  · simp only [decide, login] at redirected
    cases redirected
    rfl
  · simp [decide, login] at redirected

end Policy

section AnyHost

variable {η : Type} [Host η] {policy : Policy} {token url : String}

theorem dispatch_allowed (primitive : Primitive) (host : η)
    (allowed : policy.decide (.ofToken token) (.parse url) = .allow) :
    dispatch policy token primitive url host =
      ((Host.perform primitive url host).1.isOk, (Host.perform primitive url host).2) := by
  simp only [dispatch, intercept, allowed]

/-- The page that was asked for is never tried. -/
theorem dispatch_redirected (primitive : Primitive) (host : η) {target : String}
    (redirected : policy.decide (.ofToken token) (.parse url) = .redirect target) :
    dispatch policy token primitive url host =
      (false, (Host.perform .reLaunch target host).2) := by
  simp only [dispatch, intercept, redirected]

end AnyHost

namespace PageStack

structure Opened (page : String) (before after : PageStack) : Prop where
  top : after.current = some page
  below : after.pages.dropLast <+: before.pages

theorem perform_outcome (primitive : Primitive) (url : String) (stack : PageStack) :
    (stack.perform primitive url).2 = stack ∨
      Opened url stack (stack.perform primitive url).2 := by
  rcases perform_cases primitive url stack with ⟨_, e, performed⟩ | ⟨_, performed⟩
  · left
    rw [performed]
  · right
    rw [performed]
    refine ⟨List.getLast?_concat, ?_⟩
    rw [List.dropLast_concat]
    exact left_begins primitive stack.pages

theorem perform_below (primitive : Primitive) (url : String) (stack : PageStack) :
    (stack.perform primitive url).2.pages.dropLast <+: stack.pages := by
  rcases perform_outcome primitive url stack with unchanged | opened
  · rw [unchanged]
    exact List.dropLast_prefix stack.pages
  · exact opened.below

theorem relaunch_alone {url : String} (present : url ≠ "") (stack : PageStack) :
    (stack.perform .reLaunch url).2.pages = [url] := by
  simp only [perform, present, if_false]

end PageStack

/-- What one attempt at a url may do to the open pages. -/
structure Guarded (policy : Policy) (token url : String) (before after : PageStack) : Prop where
  signedOut : token = "" → after = before ∨ ∃ page, after.current = some page ∧
    (page = policy.loginPage ∨ page = url ∧
      ((Intent.parse url).key = policy.loginPage ∨ (Intent.parse url).key ∈ policy.listed.paths))
  signedIn : token ≠ "" → after = before ∨ ∃ page, after.current = some page ∧
    (page = homePage ∨ page = url ∧ (Intent.parse url).key ≠ policy.loginPage)
  below : after.pages.dropLast <+: before.pages
  suppressed : ∀ target, policy.decide (.ofToken token) (.parse url) = .redirect target →
    target ≠ "" → after.pages = [target]

variable {policy : Policy} {token url : String}

theorem perform_guarded (primitive : Primitive) {page : String} (before : PageStack)
    (signedOut : token = "" → page = policy.loginPage ∨ page = url ∧
      ((Intent.parse url).key = policy.loginPage ∨ (Intent.parse url).key ∈ policy.listed.paths))
    (signedIn : token ≠ "" →
      page = homePage ∨ page = url ∧ (Intent.parse url).key ≠ policy.loginPage)
    (suppressed : ∀ target, policy.decide (.ofToken token) (.parse url) = .redirect target →
      target ≠ "" → (before.perform primitive page).2.pages = [target]) :
    Guarded policy token url before (before.perform primitive page).2 := by
  have outcome := PageStack.perform_outcome primitive page before
  refine ⟨?_, ?_, PageStack.perform_below primitive page before, suppressed⟩
  · intro absent
    exact outcome.imp_right fun opened => ⟨page, opened.top, signedOut absent⟩
  · intro present
    exact outcome.imp_right fun opened => ⟨page, opened.top, signedIn present⟩

theorem dispatch_guarded (policy : Policy) (token : String) (primitive : Primitive) (url : String)
    (before : PageStack) :
    Guarded policy token url before (dispatch policy token primitive url before).2 := by
  cases decided : policy.decide (.ofToken token) (.parse url) with
  | allow =>
    rw [dispatch_allowed primitive before decided]
    apply perform_guarded primitive before
    · intro absent
      rw [absent] at decided
      exact Or.inr ⟨rfl, Policy.anonymous_allowed decided⟩
    · intro present
      rw [Visitor.ofToken, if_neg present] at decided
      exact Or.inr ⟨rfl, Policy.authenticated_allowed decided⟩
    · intro target redirected
      cases decided.symm.trans redirected
  | redirect target =>
    rw [dispatch_redirected primitive before decided]
    apply perform_guarded .reLaunch before
    · intro absent
      rw [absent] at decided
      exact Or.inl (Policy.anonymous_redirected decided)
    · intro present
      rw [Visitor.ofToken, if_neg present] at decided
      exact Or.inl (Policy.authenticated_redirected decided)
    · intro other redirected present
      cases decided.symm.trans redirected
      exact PageStack.relaunch_alone present before

end SessionGate.Navigation
