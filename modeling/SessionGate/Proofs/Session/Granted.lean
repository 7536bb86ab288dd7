import SessionGate.Proofs.Navigation.Redirects
import SessionGate.Proofs.Session.Outcomes
import SessionGate.Proofs.Storage.OneKey

/- What a granted token is good for. Over a backend in order every grant is taken, in memory and in the backend
   alike, but an empty token signs nobody in, and none is refused for being empty. -/
namespace SessionGate.Session

open Navigation Storage

/-- The session has the token, and so will a restarted one. Both are signed in by it unless it is empty. -/
structure HasToken {β : Type} [Backend β] (token : String) (session : Session β) : Prop where
  record : session.record.token = token
  stored : (TokenStore.get.run session.store).1 = token
  restarted : (resume session.store).record.token = token
  authenticated_iff : session.record.isAuthenticated = true ↔ token ≠ ""
  restarted_iff : (resume session.store).record.isAuthenticated = true ↔ token ≠ ""
  allows (present : token ≠ "") (policy : Policy) (intent : Intent)
    (elsewhere : intent.key ≠ policy.loginPage) :
    policy.decide (.ofToken session.record.token) intent = .allow
  listed_only (absent : token = "") (policy : Policy) (intent : Intent) :
    policy.decide (.ofToken session.record.token) intent = .allow ↔
      intent.key = policy.loginPage ∨ intent.key ∈ policy.listed.paths

theorem authenticated_iff (record : Record) : record.isAuthenticated = true ↔ record.token ≠ "" := by
  simp [Record.isAuthenticated]

theorem hasToken_of {β : Type} [Backend β] {token : String} {session : Session β}
    (record : session.record.token = token)
    (stored : (TokenStore.get.run session.store).1 = token) : HasToken token session := by
  have restarted : (resume session.store).record.token = token := stored
  refine ⟨record, stored, restarted, ?_, ?_, ?_, ?_⟩
  · rw [Session.authenticated_iff, record]
  · rw [Session.authenticated_iff, restarted]
  · intro present policy intent elsewhere
    rw [record, Visitor.ofToken, if_neg present]
    exact Policy.authenticated_allowed_iff.mpr elsewhere
  · intro absent policy intent
    rw [record, Visitor.ofToken, if_pos absent]
    exact Policy.anonymous_allowed_iff

theorem grant_taken {β : Type} [Backend β] [Reliable β] {session : Session β} {held : Holdings}
    (holds : Reliable.Holds session.store held) (grant : Remote.Grant) :
    (finishLogin (.ok grant) session).1 = .ok () ∧
      HasToken grant.token (finishLogin (.ok grant) session).2 := by
  obtain ⟨done, after⟩ := token_set_done holds grant.token
  have stored := token_get_told after
  rw [Function.update_self] at stored
  rw [finishLogin_taking, taking_done done]
  exact ⟨rfl, hasToken_of rfl stored⟩

theorem login_signs_in_unless_the_token_is_empty {β : Type} [Backend β] [Reliable β]
    {session : Session β} {held : Holdings} (holds : Reliable.Holds session.store held)
    (answer : Except Remote.Error Remote.Grant) :
    ((finishLogin answer session).1 = .ok () ↔ ∃ grant, answer = .ok grant) ∧
      ∀ grant, answer = .ok grant → HasToken grant.token (finishLogin answer session).2 := by
  cases answer with
  | error e => exact ⟨by simp [finishLogin], nofun⟩
  | ok grant =>
    obtain ⟨done, taken⟩ := grant_taken holds grant
    refine ⟨⟨fun _ => ⟨grant, rfl⟩, fun _ => done⟩, ?_⟩
    rintro _ ⟨rfl⟩
    exact taken

theorem granted_text_signs_in :
    Reliable.Holds Memory.empty (fun _ => none) ∧
      HasToken "t" (finishLogin (.ok ⟨"t"⟩) (⟨.signedOut, Memory.empty⟩ : Session Memory)).2 := by
  have holds : Reliable.Holds Memory.empty (fun _ => none) := rfl
  have session : Reliable.Holds (⟨.signedOut, Memory.empty⟩ : Session Memory).store _ := holds
  exact ⟨holds, (login_signs_in_unless_the_token_is_empty session (.ok ⟨"t"⟩)).2 ⟨"t"⟩ rfl⟩

/- The reply is one of success, and its token is a text as it should be. -/
theorem empty_token_is_granted :
    Remote.openEnvelope Remote.Grant.read (Text.symbols "\x7b\"code\":200,\"token\":\"\"\x7d") =
        .ok ⟨""⟩ ∧
      (finishLogin (.ok ⟨""⟩) (⟨.signedOut, Memory.empty⟩ : Session Memory)).1 = .ok () ∧
      (finishLogin (.ok ⟨""⟩) (⟨.signedOut, Memory.empty⟩ : Session Memory)).2.record.isAuthenticated =
        false ∧
      ¬ ∀ (session : Session Memory) (answer : Except Remote.Error Remote.Grant),
        (finishLogin answer session).1 = .ok () →
          (finishLogin answer session).2.record.isAuthenticated = true := by
  have done : (finishLogin (.ok ⟨""⟩) (⟨.signedOut, Memory.empty⟩ : Session Memory)).1 = .ok () := rfl
  refine ⟨by rfl, done, rfl, ?_⟩
  intro law
  have signedIn := law _ _ done
  cases signedIn

end SessionGate.Session
