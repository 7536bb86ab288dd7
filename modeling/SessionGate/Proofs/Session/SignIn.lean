import SessionGate.Proofs.Remote.Grants
import SessionGate.Proofs.Session.Outcomes
import SessionGate.Proofs.Storage.OneKey

/- Signing in over a network: a token is kept exactly if the reply grants it, and whatever grants none
   leaves the session as it was. -/
namespace SessionGate.Session

open Json (Members)
open Remote Storage

section Exchange

variable {β : Type} [Backend β]

def signIn (settings : AvatarSettings) (client : Client) (username password code uuid : String)
    (network : Network) (session : Session β) : Except Error (Option Profile) × Session β :=
  let call := loginCall username password code uuid
  let (answer, store, _) := exchange client call session.store network
  finish settings answer { session with store := store }

def loginReply (client : Client) (username password code uuid : String) (network : Network) :
    Option Reply :=
  replyTo (client.loginRequest ⟨Text.trim username, password, code, uuid⟩) network

theorem signIn_outcome (settings : AvatarSettings) (client : Client)
    (username password code uuid : String) (network : Network) (session : Session β) :
    (∃ token, GrantedIn (loginReply client username password code uuid network) token ∧
        signIn settings client username password code uuid network session =
          ((finishLogin (.ok ⟨token⟩) session).1.map fun _ => none,
            (finishLogin (.ok ⟨token⟩) session).2)) ∨
      (∀ token, ¬ GrantedIn (loginReply client username password code uuid network) token) ∧
        ∃ e, RefusedIn (loginReply client username password code uuid network) e ∧
          signIn settings client username password code uuid network session =
            (.error (.remote e), session) := by
  have signed : signIn settings client username password code uuid network session =
      (((finishLogin (client.login ⟨Text.trim username, password, code, uuid⟩ network).1
          session).1.map fun _ => none),
        (finishLogin (client.login ⟨Text.trim username, password, code, uuid⟩ network).1
          session).2) := rfl
  rcases login_outcome client ⟨Text.trim username, password, code, uuid⟩ network with
    ⟨token, granted, answered⟩ | ⟨none, e, refused, answered⟩
  · rw [signed, answered]
    exact Or.inl ⟨token, granted, rfl⟩
  · rw [signed, answered]
    exact Or.inr ⟨none, e, refused, rfl⟩

end Exchange

variable {β : Type} [Backend β] [Reliable β]

/-- The token is kept in the record and in the backend, and nothing else has changed. -/
structure Keeps (token : String) (held : Holdings) (before after : Session β) : Prop where
  record : after.record = { before.record with token := token }
  stored : Reliable.Holds after.store
    (Function.update held TokenStore.key (some (.text token)))

theorem grant_kept {session : Session β} {held : Holdings}
    (holds : Reliable.Holds session.store held) (grant : Grant) :
    (finishLogin (.ok grant) session).1 = .ok () ∧
      Keeps grant.token held session (finishLogin (.ok grant) session).2 := by
  obtain ⟨done, after⟩ := token_set_done holds grant.token
  rw [finishLogin_taking, taking_done done]
  exact ⟨rfl, rfl, after⟩

/- Without a grant nothing is changed even if the backend is out of order. -/
theorem token_kept_exactly_if_granted (settings : AvatarSettings) (client : Client)
    (username password code uuid : String) (network : Network) (session : Session β) :
    (∀ held, Reliable.Holds session.store held → ∀ token,
        ((signIn settings client username password code uuid network session).1 = .ok none ∧
          Keeps token held session
            (signIn settings client username password code uuid network session).2) ↔
        GrantedIn (loginReply client username password code uuid network) token) ∧
      ((∀ token, ¬ GrantedIn (loginReply client username password code uuid network) token) →
        ∃ e, RefusedIn (loginReply client username password code uuid network) e ∧
          signIn settings client username password code uuid network session =
            (.error (.remote e), session)) := by
  rcases signIn_outcome settings client username password code uuid network session with
    ⟨found, granted, signed⟩ | ⟨none, refusal⟩
  · refine ⟨?_, fun none => absurd granted (none found)⟩
    intro held holds token
    obtain ⟨done, kept⟩ := grant_kept holds ⟨found⟩
    rw [signed, done]
    constructor
    · intro given
      obtain ⟨_, other⟩ := given
      have same : token = found := congrArg Record.token (other.record.symm.trans kept.record)
      rw [same]
      exact granted
    · intro other
      obtain rfl := granted.unique other
      exact ⟨rfl, kept⟩
  · refine ⟨?_, fun _ => refusal⟩
    intro held holds token
    constructor
    · intro given
      obtain ⟨done, _⟩ := given
      obtain ⟨e, _, failed⟩ := refusal
      rw [failed] at done
      cases done
    · intro granted
      exact absurd granted (none token)

def escapedReply : Network :=
  .scripted [.complete 200 (Text.encode
    "\x7b\"data\":[1e999],\"c\\u006fde\":200,\"token\":\"t\"\x7d")] []

theorem token_kept_from_an_escaped_reply :
    Reliable.Holds filed (Members.get? filedEntries) ∧
      GrantedIn (loginReply ⟨"http://api"⟩ "ann" "pw" "" "" escapedReply) "t" := by
  have holds : Reliable.Holds (⟨.signedOut, filed⟩ : Session FileStore).store
      (Members.get? filedEntries) := ⟨_, filed_in_order, rfl⟩
  obtain ⟨exactly, otherwise⟩ := token_kept_exactly_if_granted ⟨"", ""⟩ ⟨"http://api"⟩ "ann" "pw"
    "" "" escapedReply (⟨.signedOut, filed⟩ : Session FileStore)
  have token : (signIn ⟨"", ""⟩ ⟨"http://api"⟩ "ann" "pw" "" "" escapedReply
      (⟨.signedOut, filed⟩ : Session FileStore)).2.record.token = "t" := by decide +kernel
  refine ⟨holds, ?_⟩
  rcases Classical.em (∃ token, GrantedIn _ token) with ⟨found, granted⟩ | none
  · rw [((exactly _ holds found).mpr granted).2.record] at token
    rw [← show found = "t" from token]
    exact granted
  · obtain ⟨e, _, failed⟩ := otherwise fun token granted => none ⟨token, granted⟩
    rw [failed] at token
    have kept : "" = "t" := token
    exact absurd kept (by decide)

end SessionGate.Session
