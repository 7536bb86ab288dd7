import SessionGate.Proofs.Navigation.Redirects
import SessionGate.Proofs.Session.Visits

/- The calls that a shell makes to its host: one for each visit, settled by the token of that moment, and
   none besides. They show when the host is watched, and watching it changes nothing else. -/
namespace SessionGate

namespace Navigation

def callFor (policy : Policy) (token : String) (primitive : Primitive) (url : String) : HostCall :=
  if policy.decide (.ofToken token) (.parse url) = .allow then (primitive, url)
  else (.reLaunch, if token = "" then policy.loginPage else homePage)

theorem refuge_ofToken (policy : Policy) (token : String) :
    policy.refuge (.ofToken token) = if token = "" then policy.loginPage else homePage := by
  unfold Visitor.ofToken
  split <;> rfl

section AnyHost

variable {η : Type} [Host η] {policy : Policy} {token url : String}

theorem callFor_allowed (primitive : Primitive)
    (allowed : policy.decide (.ofToken token) (.parse url) = .allow) :
    callFor policy token primitive url = (primitive, url) := if_pos allowed

theorem callFor_redirected (primitive : Primitive) {target : String}
    (redirected : policy.decide (.ofToken token) (.parse url) = .redirect target) :
    callFor policy token primitive url = (.reLaunch, target) := by
  rw [callFor, redirected, if_neg Decision.noConfusion, ← refuge_ofToken,
    ← Policy.redirected_to_refuge redirected]

theorem dispatch_calls (policy : Policy) (token : String) (primitive : Primitive) (url : String)
    (host : η) :
    (dispatch policy token primitive url host).2 =
      (Host.perform (callFor policy token primitive url).1 (callFor policy token primitive url).2
        host).2 := by
  cases decided : policy.decide (.ofToken token) (.parse url) with
  | allow => rw [dispatch_allowed primitive host decided, callFor_allowed primitive decided]
  | redirect target =>
    rw [dispatch_redirected primitive host decided, callFor_redirected primitive decided]

theorem dispatch_done_iff (policy : Policy) (token : String) (primitive : Primitive) (url : String)
    (host : η) :
    (dispatch policy token primitive url host).1 = true ↔
      policy.decide (.ofToken token) (.parse url) = .allow ∧
        (Host.perform primitive url host).1 = .ok () := by
  cases decided : policy.decide (.ofToken token) (.parse url) with
  | allow =>
    rw [dispatch_allowed primitive host decided]
    cases (Host.perform primitive url host).1 <;> simp [Except.isOk, Except.toBool]
  | redirect target => simp [dispatch_redirected primitive host decided]

theorem dispatch_watched (policy : Policy) (token : String) (primitive : Primitive) (url : String)
    (host : η) (calls : List HostCall) :
    dispatch policy token primitive url (⟨host, none, calls⟩ : Watched η) =
      ((dispatch policy token primitive url host).1,
        ⟨(dispatch policy token primitive url host).2, none,
          calls ++ [callFor policy token primitive url]⟩) := by
  cases decided : policy.decide (.ofToken token) (.parse url) with
  | allow =>
    rw [dispatch_allowed primitive _ decided, dispatch_allowed primitive host decided,
      callFor_allowed primitive decided]
    rfl
  | redirect target =>
    rw [dispatch_redirected primitive _ decided, dispatch_redirected primitive host decided,
      callFor_redirected primitive decided]
    rfl

end AnyHost

end Navigation

namespace Shell

open Navigation Storage

section Runs

variable {η β : Type} [Host η] [Backend β]

/-- The same shell, its host watched; these are the calls so far. -/
def observed (calls : List HostCall) (shell : Shell η β) : Shell (Watched η) β :=
  ⟨shell.policy, shell.avatar, shell.records, shell.store, ⟨shell.host, none, calls⟩, shell.waiting⟩

def Event.call? (shell : Shell η β) : Event → Option HostCall
  | .visited primitive url => some (callFor shell.policy shell.record.token primitive url)
  | _ => none

def callsOf : List Event → Shell η β → List HostCall
  | [], _ => []
  | event :: rest, shell => (event.call? shell).toList ++ callsOf rest (event.occur shell)

theorem occur_observed (event : Event) (shell : Shell η β) (calls : List HostCall) :
    event.occur (shell.observed calls) =
      (event.occur shell).observed (calls ++ (event.call? shell).toList) := by
  cases event with
  | visited primitive url =>
    have seen := dispatch_watched shell.policy shell.record.token primitive url shell.host calls
    have host := congrArg Prod.snd seen
    show ({ shell.observed calls with host := _ } : Shell (Watched η) β) = _
    exact congrArg (fun host => { shell.observed calls with host := host }) host
  | answered id answer =>
    simp only [Event.call?, Option.toList, List.append_nil, Event.occur]
    have same : (shell.observed calls).waiting? id = shell.waiting? id := rfl
    rw [same]
    cases shell.waiting? id <;> rfl
  | completed _ | avatarSet _ | begun _ _ | cancelled _ | restarted =>
    simp only [Event.call?, Option.toList, List.append_nil]
    rfl

theorem after_observed (events : List Event) (shell : Shell η β) (calls : List HostCall) :
    after events (shell.observed calls) = (after events shell).observed (calls ++ callsOf events shell) := by
  induction events generalizing shell calls with
  | nil => exact congrArg shell.observed (List.append_nil calls).symm
  | cons event rest ih =>
    show after rest (event.occur (shell.observed calls)) = _
    rw [occur_observed, ih, List.append_assoc]
    rfl

/-- What one visit answers, and that its one call to the host is all that it does. -/
structure Attempted (primitive : Primitive) (url : String) (before : Shell η β)
    (outcome : Bool × Shell η β) : Prop where
  done_iff : outcome.1 = true ↔
    before.policy.decide (.ofToken before.record.token) (.parse url) = .allow ∧
      (Host.perform primitive url before.host).1 = .ok ()
  host : outcome.2.host =
    let call := callFor before.policy before.record.token primitive url
    (Host.perform call.1 call.2 before.host).2
  others : { outcome.2 with host := before.host } = before

/- The events before a visit are a run as well, so the second half speaks of every visit. -/
theorem each_visit_makes_one_call (shell : Shell η β) (events : List Event) :
    after events (shell.observed []) = (after events shell).observed (callsOf events shell) ∧
      ∀ primitive url, Attempted primitive url (after events shell)
        ((after events shell).dispatch primitive url) := by
  refine ⟨after_observed events shell [], fun primitive url => ⟨?_, ?_, rfl⟩⟩
  · exact dispatch_done_iff _ _ primitive url (after events shell).host
  · exact dispatch_calls _ _ primitive url (after events shell).host

end Runs

/- The token of the second visit came between, and the third is made by a host that refuses it. -/
example :
    callsOf [.visited .navigateTo "/mine?tab=2", .completed (.login (.ok ⟨"t"⟩)),
        .visited .navigateTo "/mine?tab=2", .visited .switchTab ""]
      (launch ⟨.default, defaultLoginPage⟩ ⟨"", ""⟩ Memory.empty PageStack.empty) =
      [(.reLaunch, "/pages/login"), (.navigateTo, "/mine?tab=2"), (.switchTab, "")] := by decide

end Shell

end SessionGate
