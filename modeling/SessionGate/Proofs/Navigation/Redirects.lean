import Mathlib.Data.List.TakeWhile
import SessionGate.Proofs.Navigation.Guarded

/- Where a redirect leads. The policy compares the part of a url before its question mark with the login
   page as it is configured, so that not every login page may be opened by those who are sent there. -/
namespace SessionGate.Navigation

/-! The part before the question mark -/

theorem splitQuery_front (cs : List Char) : (splitQuery cs).1 = cs.takeWhile (· ≠ '?') := by
  induction cs with
  | nil => rfl
  | cons c rest ih =>
    by_cases mark : c = '?'
    · simp [splitQuery, mark]
    · simp [splitQuery, mark, ih]

theorem splitQuery_front_again (cs : List Char) :
    (splitQuery (splitQuery cs).1).1 = (splitQuery cs).1 := by
  rw [splitQuery_front, splitQuery_front, List.takeWhile_idem]

theorem splitQuery_front_self_iff (cs : List Char) : (splitQuery cs).1 = cs ↔ '?' ∉ cs := by
  rw [splitQuery_front, List.takeWhile_eq_self_iff]
  constructor
  · intro plain mark
    simpa using plain '?' mark
  · intro absent c member
    have different : c ≠ '?' := by
      intro same
      exact absent (same ▸ member)
    simpa using different

theorem parse_path (url : String) :
    (Intent.parse url).path = String.ofList (splitQuery url.toList).1 := rfl

theorem parse_key (url : String) : (Intent.parse url).key = (Intent.parse url).path := by
  rw [Intent.key, parse_path, String.toList_ofList, splitQuery_front_again]

theorem parse_path_self_iff (url : String) : (Intent.parse url).path = url ↔ '?' ∉ url.toList := by
  rw [parse_path, ← splitQuery_front_self_iff]
  constructor
  · intro same
    simpa using congrArg String.toList same
  · intro same
    rw [same, String.ofList_toList]

/-! Redirects -/

namespace Policy

variable {policy : Policy} {visitor : Visitor} {intent : Intent} {target : String}

/-- Where those are sent who may not open a page. -/
def refuge (policy : Policy) : Visitor → String
  | .authenticated => homePage
  | .anonymous => policy.loginPage

/-- The login page does not keep visitors away from where they are sent. -/
def Settles (policy : Policy) : Visitor → Prop
  | .authenticated => policy.loginPage ≠ homePage
  | .anonymous =>
    '?' ∉ policy.loginPage.toList ∨ (Intent.parse policy.loginPage).path ∈ policy.listed.paths

theorem redirected_to_refuge (redirected : policy.decide visitor intent = .redirect target) :
    target = policy.refuge visitor := by
  cases visitor with
  | authenticated => exact authenticated_redirected redirected
  | anonymous => exact anonymous_redirected redirected

theorem anonymous_allowed_iff :
    policy.decide .anonymous intent = .allow ↔
      intent.key = policy.loginPage ∨ intent.key ∈ policy.listed.paths := by
  constructor
  · exact anonymous_allowed
  · intro opened
    rw [← opens_iff] at opened
    simp [decide, opened]

theorem authenticated_allowed_iff :
    policy.decide .authenticated intent = .allow ↔ intent.key ≠ policy.loginPage := by
  constructor
  · exact authenticated_allowed
  · intro other
    simp [decide, other]

theorem refuge_opens_iff (policy : Policy) (visitor : Visitor) :
    policy.decide visitor (.parse (policy.refuge visitor)) = .allow ↔ policy.Settles visitor := by
  cases visitor with
  | authenticated =>
    have home : (Intent.parse homePage).path = homePage := (parse_path_self_iff _).mpr (by decide)
    rw [authenticated_allowed_iff, refuge, parse_key, home]
    exact ne_comm
  | anonymous =>
    rw [anonymous_allowed_iff, refuge, parse_key, parse_path_self_iff]
    exact Iff.rfl

theorem redirected_iff_not_allowed (policy : Policy) (visitor : Visitor) (intent : Intent) :
    policy.decide visitor intent = .redirect (policy.refuge visitor) ↔
      policy.decide visitor intent ≠ .allow := by
  cases decided : policy.decide visitor intent with
  | allow => simp
  | redirect target => simp [redirected_to_refuge decided]

/- A redirect that does not settle leads to where it is made again. -/
theorem redirect_settles_exactly_if (policy : Policy) (visitor : Visitor) :
    (policy.decide visitor (.parse (policy.refuge visitor)) = .allow ↔ policy.Settles visitor) ∧
      ∀ intent target, policy.decide visitor intent = .redirect target →
        (policy.decide visitor (.parse target) = .allow ↔ policy.Settles visitor) ∧
        (policy.decide visitor (.parse target) = .redirect target ↔ ¬ policy.Settles visitor) := by
  have opens := refuge_opens_iff policy visitor
  refine ⟨opens, ?_⟩
  intro intent target redirected
  rw [redirected_to_refuge redirected, redirected_iff_not_allowed]
  exact ⟨opens, not_congr opens⟩

theorem visitors_settle_at_the_default_pages :
    (⟨.default, defaultLoginPage⟩ : Policy).decide .anonymous (.parse "/pages/login") = .allow ∧
      (⟨.default, defaultLoginPage⟩ : Policy).decide .authenticated (.parse "/") = .allow := by
  have signedOut := redirect_settles_exactly_if ⟨.default, defaultLoginPage⟩ .anonymous
  have signedIn := redirect_settles_exactly_if ⟨.default, defaultLoginPage⟩ .authenticated
  have first : (⟨.default, defaultLoginPage⟩ : Policy).decide .anonymous (.parse "/pages/index") =
      .redirect "/pages/login" := by decide
  have second : (⟨.default, defaultLoginPage⟩ : Policy).decide .authenticated
      (.parse "/pages/login?again") = .redirect "/" := by decide
  have plain : '?' ∉ defaultLoginPage.toList := by decide
  have apart : defaultLoginPage ≠ homePage := by decide
  exact ⟨(signedOut.2 _ _ first).1.mpr (Or.inl plain), (signedIn.2 _ _ second).1.mpr apart⟩

/- With a query in the login page, or with the home page as the login page, the page that a visitor is sent to
   is refused in the same way. -/
theorem redirects_may_go_on :
    (⟨⟨[]⟩, "/pages/login?from=app"⟩ : Policy).decide .anonymous (.parse "/pages/login?from=app") =
        .redirect "/pages/login?from=app" ∧
      (⟨⟨[]⟩, "/"⟩ : Policy).decide .authenticated (.parse "/") = .redirect "/" ∧
      ¬ ∀ (policy : Policy) (visitor : Visitor) (intent : Intent) (target : String),
        policy.decide visitor intent = .redirect target →
          policy.decide visitor (.parse target) = .allow := by
  have loops : (⟨⟨[]⟩, "/pages/login?from=app"⟩ : Policy).decide .anonymous
      (.parse "/pages/login?from=app") = .redirect "/pages/login?from=app" := by decide
  refine ⟨loops, by decide, ?_⟩
  intro law
  cases loops.symm.trans (law _ _ _ _ loops)

end Policy

end SessionGate.Navigation
