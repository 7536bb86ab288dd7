import SessionGate.Proofs.Text.Forms
import SessionGate.Proofs.Text.Trimming
import SessionGate.Session.Service

/- What a visitor types to sign in arrives as it was typed, but for blanks around the name. Nothing in one
   field can pass for the end of it or for another field. -/
namespace SessionGate

namespace Remote

/-- A request that submits a form, in which exactly these credentials are read. -/
structure Submits (credentials : Credentials) (request : Request) : Prop where
  method : request.method = .post
  type : request.contentType = some "application/x-www-form-urlencoded"
  fields : Text.Form.decodePairs request.body.toList =
    some [("username", credentials.username), ("password", credentials.password),
      ("code", credentials.code), ("uuid", credentials.uuid)]

theorem loginRequest_submits (client : Client) (credentials : Credentials) :
    Submits credentials (client.loginRequest credentials) := by
  refine ⟨rfl, rfl, ?_⟩
  simp only [Client.loginRequest, String.toList_ofList]
  exact Text.Form.decodePairs_encodePairs (List.cons_ne_nil _ _)

theorem Submits.unique {one other : Credentials} {request again : Request}
    (first : Submits one request) (second : Submits other again)
    (same : request.body = again.body) : one = other := by
  have fields := first.fields
  rw [same, second.fields] at fields
  obtain ⟨username, password, code, uuid⟩ := one
  simp only [Option.some.injEq, List.cons.injEq, Prod.mk.injEq, true_and, and_true] at fields
  obtain ⟨rfl, rfl, rfl, rfl⟩ := fields
  rfl

def IsReachable (url : String) : Prop :=
  ∃ address, Address.read? url = some address ∧ address.hasHost = true ∧
    isSendable address.withoutCredentials = true

theorem build_reachable (request : Request) (unsigned : request.authorization = none)
    (reachable : IsReachable request.url) :
    ∃ url, Client.build request = .ok { request with url := url } := by
  obtain ⟨address, read, host, sendable⟩ := reachable
  refine ⟨address.withoutCredentials.text, ?_⟩
  have plain : isHeaderText (request.authorization.getD "") = true := by
    rw [unsigned]
    rfl
  simp [Client.build, read, host, plain, sendable]

theorem build_unreachable (request : Request) (unreachable : ¬ IsReachable request.url) :
    ∃ e, Client.build request = .error e := by
  cases built : Client.build request with
  | error e => exact ⟨e, rfl⟩
  | ok sent =>
    refine absurd ?_ unreachable
    unfold Client.build at built
    split at built
    · cases built
    · rename_i address read
      refine ⟨address, read, ?_⟩
      grind

structure Sends (client : Client) (credentials : Credentials) (before after : List Request) :
    Prop where
  one : IsReachable (client.baseUrl ++ "/login") →
    ∃ request, after = before ++ [request] ∧ Submits credentials request
  none : ¬ IsReachable (client.baseUrl ++ "/login") → after = before

theorem login_sends (client : Client) (credentials : Credentials) (replies : List Reply)
    (sent : List Request) :
    Sends client credentials sent (client.login credentials (.scripted replies sent)).2.sent := by
  have submits := loginRequest_submits client credentials
  constructor
  · intro reachable
    obtain ⟨url, built⟩ := build_reachable (client.loginRequest credentials) rfl reachable
    refine ⟨{ client.loginRequest credentials with url := url }, ?_, submits.method, submits.type,
      submits.fields⟩
    simp only [Client.login, Client.send, built]
    cases replies <;> rfl
  · intro unreachable
    obtain ⟨e, refused⟩ := build_unreachable (client.loginRequest credentials) unreachable
    simp only [Client.login, Client.send, refused]
    rfl

end Remote

namespace Session

open Remote Storage

variable {β : Type} [Backend β]

theorem login_form_says_what_was_typed (client : Client) :
    (∀ credentials replies sent, Sends client credentials sent
        (client.login credentials (.scripted replies sent)).2.sent) ∧
      (∀ username password code uuid (store : β) replies sent, ∃ name,
        Text.Trimmed username.toList name.toList ∧
          Sends client ⟨name, password, code, uuid⟩ sent
            (exchange client (loginCall username password code uuid) store
              (.scripted replies sent)).2.2.sent) ∧
      ∀ (other : Client) one two,
        (client.loginRequest one).body = (other.loginRequest two).body → one = two := by
  refine ⟨login_sends client, ?_, ?_⟩
  · intro username password code uuid store replies sent
    refine ⟨Text.trim username, (Text.trimBlanks_iff _ _).mp ?_, login_sends client _ replies sent⟩
    rw [Text.trim, String.toList_ofList]
  · intro other one two same
    exact (loginRequest_submits client one).unique (loginRequest_submits other two) same

/- The name is typed with a blank in front of it and holds what looks like a further field. -/
theorem name_cannot_bring_a_field :
    ∃ request, (exchange ⟨"http://api"⟩ (loginCall "\u2003ann&code=1" "a+b%20=" "ö" "") (⟨[]⟩ : Memory)
        (.scripted [] [])).2.2.sent = [request] ∧
      Text.Form.decodePairs request.body.toList =
        some [("username", "ann&code=1"), ("password", "a+b%20="), ("code", "ö"), ("uuid", "")] := by
  obtain ⟨_, typed, _⟩ := login_form_says_what_was_typed (β := Memory) ⟨"http://api"⟩
  obtain ⟨name, trimmed, sends⟩ := typed "\u2003ann&code=1" "a+b%20=" "ö" "" ⟨[]⟩ [] []
  have known : name = "ann&code=1" := by
    rw [← String.toList_inj, ← (Text.trimBlanks_iff _ _).mpr trimmed]
    decide +kernel
  have reachable : IsReachable "http://api/login" := by
    have read : (Address.read? "http://api/login").any
        (fun address => address.hasHost && isSendable address.withoutCredentials) = true := by
      decide +kernel
    obtain ⟨address, known, allowed⟩ := (Option.any_eq_true _ _).mp read
    exact ⟨address, known, (Bool.and_eq_true_iff).mp allowed⟩
  obtain ⟨request, sent, submits⟩ := sends.one reachable
  exact ⟨request, sent, known ▸ submits.fields⟩

end Session

end SessionGate
