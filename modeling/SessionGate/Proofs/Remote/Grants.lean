import SessionGate.Proofs.Remote.Envelopes
import SessionGate.Remote.Client

/- Which texts grant a token, and which replies, and what becomes of all others. A text is read twice,
   for its envelope and for the token; each reading passes over what only the other one asks for. -/
namespace SessionGate.Remote

open Json

namespace Grant

def tokenReads (one : Member) (token : String) : Prop := IsText one.value token one.rest

inductive CarrierText (text : Input) : Grant → Prop where
  | object {members : List Member} {token : String} (object : ObjectText text members)
      (granted : Fills tokenReads "token" none members (some token)) : CarrierText text ⟨token⟩
  | single {inner rest final : Input} {token : String} (opens : skipSpaces text = .char '[' :: inner)
      (granted : IsText inner token rest) (closes : skipSpaces rest = .char ']' :: final)
      (blank : skipSpaces final = []) : CarrierText text ⟨token⟩

def takes (token : Option String) (one : Member) (next : Option String) : Prop :=
  if one.name = "token" then Sets tokenReads token some one next else next = token

theorem member_takes (fuel : Nat) : Takes (member fuel) fuel takes := by
  intro token name text next rest short
  unfold member takes
  by_cases same : name = "token"
  · subst same
    exact field_ok_iff tokenReads readText_ok_iff (fun _ _ _ form => form.skipped) token some text
      next rest
  · simp only [same, if_false]
    exact passed_ok_iff short token next rest

theorem folds_iff (members : List Member) (token final : Option String) :
    Folds takes token members final ↔ Fills tokenReads "token" token members final := by
  induction members generalizing token with
  | nil => exact (fills_nil_iff _ _ _ _).symm
  | cons one others ih =>
    simp only [Folds, ih]
    by_cases same : one.name = "token"
    · rw [fills_same_iff _ same]
      simp only [takes, same, if_true]
      constructor
      · intro given
        obtain ⟨next, ⟨free, found, read, rfl⟩, later⟩ := given
        exact ⟨free, found, read, later⟩
      · intro given
        obtain ⟨free, found, read, later⟩ := given
        exact ⟨_, ⟨free, found, read, rfl⟩, later⟩
    · rw [fills_other_iff _ same]
      simp only [takes, same, if_false, exists_eq_left]

theorem finish_ok_iff (token : Option String) (grant : Grant) :
    finish token = .ok grant ↔ token = some grant.token := by
  cases token with
  | none => simp [finish]
  | some token =>
    cases grant
    simp [finish]

theorem readList_ok_iff (text final : Input) (grant : Grant) :
    readList text = .ok (grant, final) ↔
      ∃ rest, IsText text grant.token rest ∧ skipSpaces rest = .char ']' :: final := by
  constructor
  · intro read
    obtain ⟨first, found, later⟩ := (bind_ok_iff _ _ _).mp read
    cases first with
    | closed rest => cases later
    | more item =>
      obtain ⟨rfl, _⟩ := (nextItem_first_iff _ _).mp found
      obtain ⟨⟨token, rest⟩, known, later⟩ := (bind_ok_iff _ _ _).mp later
      obtain ⟨after, closed, same⟩ := (bind_ok_iff _ _ _).mp later
      cases same
      exact ⟨rest, isText_behind_spaces.mp ((readText_ok_iff _ _ _).mp known),
        (readListEnd_ok_iff _ _).mp closed⟩
  · intro given
    obtain ⟨rest, form, closed⟩ := given
    have found := (nextItem_first_iff text _).mpr ⟨rfl, form.stands⟩
    have known := (readText_ok_iff _ _ _).mpr (isText_behind_spaces.mpr form)
    have last := (readListEnd_ok_iff rest final).mpr closed
    simp only [readList, found, known, last, ok_bind]
    rfl

theorem read_ok_iff (text : Input) (grant : Grant) :
    read text = .ok grant ↔ CarrierText text grant := by
  refine (readRecord_ok_iff readList (.record record) member_takes none finish text grant).trans ?_
  constructor
  · intro form
    rcases form with ⟨inner, final, opens, listed, blank⟩ | ⟨members, token, object, folds, finished⟩
    · obtain ⟨rest, granted, closed⟩ := (readList_ok_iff _ _ _).mp listed
      exact .single opens granted closed blank
    · have granted := (folds_iff _ _ _).mp folds
      rw [(finish_ok_iff _ _).mp finished] at granted
      exact .object object granted
  · intro carrier
    cases carrier with
    | @object members token object granted =>
      have folds := (folds_iff members none (some token)).mpr granted
      exact Or.inr ⟨members, _, object, folds, rfl⟩
    | single opens granted closes blank =>
      have listed := (readList_ok_iff _ _ ⟨_⟩).mpr ⟨_, granted, closes⟩
      exact Or.inl ⟨_, _, opens, listed, blank⟩

end Grant

open Envelope Grant

/-- The members of an object that grants a token. Others may stand among them. -/
structure GrantedBy (members : List Member) (token : String) : Prop where
  code : ∃ one, members.filter (fun one => one.name = "code") = [one] ∧
    IntegerText (skipSpaces one.value) 200 one.rest
  msg : members.filter (fun one => one.name = "msg") = [] ∨
    ∃ one msg, members.filter (fun one => one.name = "msg") = [one] ∧
      IsTextOrNull one.value msg one.rest
  token : ∃ one, members.filter (fun one => one.name = "token") = [one] ∧
    IsText one.value token one.rest

def Grants (text : Input) (token : String) : Prop :=
  ∃ members, ObjectText text members ∧ GrantedBy members token

theorem fills_empty_iff {α : Type} (reads : Member → α → Prop) (name : String)
    (members : List Member) (a : α) :
    Fills reads name none members (some a) ↔
      ∃ one, members.filter (fun one => one.name = name) = [one] ∧ reads one a := by
  constructor
  · intro given
    rcases given with ⟨_, nothing⟩ | ⟨one, found, _, only, read, same⟩
    · cases nothing
    · cases same
      exact ⟨one, only, read⟩
  · intro given
    obtain ⟨one, only, read⟩ := given
    exact Or.inr ⟨one, a, rfl, only, read, rfl⟩

theorem grantedBy_iff (members : List Member) (token : String) :
    GrantedBy members token ↔
      Fills codeReads "code" none members (some success) ∧
        (∃ msg, Fills msgReads "msg" none members msg) ∧
        Fills tokenReads "token" none members (some token) := by
  rw [fills_empty_iff, fills_empty_iff]
  constructor
  · intro given
    obtain ⟨⟨one, only, coded⟩, told, granted⟩ := given
    refine ⟨⟨one, only, coded, by decide, by decide⟩, ?_, granted⟩
    rcases told with absent | ⟨one, msg, only, form⟩
    · exact ⟨none, Or.inl ⟨absent, rfl⟩⟩
    · exact ⟨some msg, Or.inr ⟨one, msg, rfl, only, form, rfl⟩⟩
  · intro given
    obtain ⟨⟨one, only, coded⟩, ⟨msg, told⟩, granted⟩ := given
    refine ⟨⟨one, only, coded.1⟩, ?_, granted⟩
    rcases told with ⟨absent, _⟩ | ⟨one, msg, _, only, form, _⟩
    · exact Or.inl absent
    · exact Or.inr ⟨one, msg, only, form⟩

theorem signed_not_text {value rest behind : Input} {n : Int} {s : String}
    (signed : IsSigned value n rest) : ¬ IsText value s behind := by
  intro given
  obtain ⟨inner, front, _⟩ := given
  obtain ⟨c, more, first, apart⟩ := signed.1.front
  cases first.symm.trans front
  exact absurd apart (by decide)

theorem grants_iff (text : Input) (token : String) :
    Grants text token ↔
      (∃ msg, HeadText text ⟨success, msg⟩) ∧ CarrierText text ⟨token⟩ := by
  constructor
  · intro given
    obtain ⟨members, whole, granted⟩ := given
    obtain ⟨coded, ⟨msg, told⟩, carried⟩ := (grantedBy_iff members token).mp granted
    exact ⟨⟨msg.join, .object whole coded told⟩, .object whole carried⟩
  · intro given
    obtain ⟨⟨msg, head⟩, carrier⟩ := given
    cases carrier with
    | @object members _ whole carried =>
      cases head with
      | @object others _ _ whole' coded told =>
        obtain rfl := whole.unique whole'
        exact ⟨members, whole, (grantedBy_iff members token).mpr ⟨coded, ⟨_, told⟩, carried⟩⟩
      | single opens =>
        obtain ⟨inner, _, front, _⟩ := whole
        cases front.symm.trans opens
      | pair opens =>
        obtain ⟨inner, _, front, _⟩ := whole
        cases front.symm.trans opens
    | single opens granted =>
      cases head with
      | object whole =>
        obtain ⟨inner, _, front, _⟩ := whole
        cases front.symm.trans opens
      | single opens' coded =>
        cases opens.symm.trans opens'
        exact absurd granted (signed_not_text coded)
      | pair opens' coded =>
        cases opens.symm.trans opens'
        exact absurd granted (signed_not_text coded)

theorem openGrant_outcome (text : Input) :
    (∃ token, Grants text token ∧ openEnvelope Grant.read text = .ok ⟨token⟩) ∨
      (∀ token, ¬ Grants text token) ∧ ∃ e, openEnvelope Grant.read text = .error e ∧
        (Refused text e ∨ (∃ msg, HeadText text ⟨success, msg⟩) ∧ ∃ cause, e = .parse cause) := by
  unfold openEnvelope
  rcases checkEnvelope_outcome text with ⟨head, checked⟩ | ⟨e, refused, checked⟩
  · rw [checked, ok_bind]
    cases known : Grant.read text with
    | ok grant =>
      have carrier := (Grant.read_ok_iff text grant).mp known
      exact Or.inl ⟨grant.token, (grants_iff _ _).mpr ⟨head, carrier⟩, rfl⟩
    | error e =>
      refine Or.inr ⟨?_, _, rfl, Or.inr ⟨head, e.message, rfl⟩⟩
      intro token granted
      have carrier := ((grants_iff _ _).mp granted).2
      cases known.symm.trans ((Grant.read_ok_iff text _).mpr carrier)
  · rw [checked]
    refine Or.inr ⟨?_, e, rfl, Or.inl refused⟩
    intro token granted
    obtain ⟨⟨msg, head⟩, _⟩ := (grants_iff _ _).mp granted
    exact refused.unsuccessful msg head

/-! Replies -/

/-- The text of a complete reply; some statuses have none. -/
def received (status : Nat) (body : Text.Bytes) : String :=
  if isBodiless status then "" else Text.decodeLossy body

theorem build_refuses {request : Request} {e : Error}
    (refused : Client.build request = .error e) : ∃ cause, e = .request cause := by
  unfold Client.build at refused
  split at refused
  · cases refused
    exact ⟨_, rfl⟩
  · split at refused
    · cases refused
      exact ⟨_, rfl⟩
    · split at refused
      · cases refused
        exact ⟨_, rfl⟩
      · dsimp only at refused
        split at refused
        · cases refused
        · cases refused
          exact ⟨_, rfl⟩

def replyTo (request : Request) (network : Network) : Option Reply :=
  match Client.build request with
  | .error _ => none
  | .ok request => some (network.exchange request).1

/-- A reply that grants a token. -/
inductive GrantedIn : Option Reply → String → Prop where
  | complete {status : Nat} {body : Text.Bytes} {token : String}
      (successful : 200 ≤ status ∧ status < 300)
      (granted : Grants (Text.symbols (received status body)) token) :
      GrantedIn (some (.complete status body)) token

theorem Grants.unique {text : Input} {token other : String} (one : Grants text token)
    (two : Grants text other) : token = other := by
  have first := (Grant.read_ok_iff text _).mpr ((grants_iff _ _).mp one).2
  have second := (Grant.read_ok_iff text _).mpr ((grants_iff _ _).mp two).2
  cases first.symm.trans second
  rfl

theorem GrantedIn.unique {reply : Option Reply} {token other : String} (one : GrantedIn reply token)
    (two : GrantedIn reply other) : token = other := by
  cases one with
  | complete _ granted =>
    cases two with
    | complete _ again => exact granted.unique again

/-- Why a reply grants no token, or why there is none. -/
inductive RefusedIn : Option Reply → Error → Prop where
  | unsent (cause : String) : RefusedIn none (.request cause)
  | dropped (cause : String) : RefusedIn (some .dropped) (.request cause)
  | truncated (status : Nat) (body : Text.Bytes) (cause : String) :
      RefusedIn (some (.truncated status body)) (.request cause)
  | status {status : Nat} (body : Text.Bytes) (unsuccessful : ¬ (200 ≤ status ∧ status < 300)) :
      RefusedIn (some (.complete status body)) (.status status (received status body))
  | envelope {status : Nat} {body : Text.Bytes} {e : Error}
      (successful : 200 ≤ status ∧ status < 300)
      (refused : Refused (Text.symbols (received status body)) e) :
      RefusedIn (some (.complete status body)) e
  | ungranted {status : Nat} {body : Text.Bytes} {msg : Option String} (cause : String)
      (successful : 200 ≤ status ∧ status < 300)
      (head : HeadText (Text.symbols (received status body)) ⟨success, msg⟩)
      (none : ∀ token, ¬ Grants (Text.symbols (received status body)) token) :
      RefusedIn (some (.complete status body)) (.parse cause)

theorem openReply_outcome (url : String) (reply : Reply) :
    (∃ token, GrantedIn (some reply) token ∧
        ((reply.receive url).bind fun text => openEnvelope Grant.read (Text.symbols text)) =
          .ok ⟨token⟩) ∨
      (∀ token, ¬ GrantedIn (some reply) token) ∧ ∃ e, RefusedIn (some reply) e ∧
        ((reply.receive url).bind fun text => openEnvelope Grant.read (Text.symbols text)) =
          .error e := by
  cases reply with
  | dropped => exact Or.inr ⟨nofun, _, .dropped _, rfl⟩
  | truncated status body => exact Or.inr ⟨nofun, _, .truncated status body _, rfl⟩
  | complete status body =>
    by_cases successful : 200 ≤ status ∧ status < 300
    · have answer : (Reply.complete status body).receive url = .ok (received status body) :=
        if_pos successful
      rw [answer]
      rcases openGrant_outcome (Text.symbols (received status body)) with
        ⟨token, granted, opened⟩ | ⟨none, e, opened, refused⟩
      · exact Or.inl ⟨token, .complete successful granted, opened⟩
      · refine Or.inr ⟨?_, e, ?_, opened⟩
        · intro token given
          obtain ⟨_, granted⟩ := given
          exact none token granted
        · rcases refused with refused | ⟨⟨msg, head⟩, cause, rfl⟩
          · exact .envelope successful refused
          · exact .ungranted cause successful head none
    · have answer : (Reply.complete status body).receive url =
          .error (.status status (received status body)) := if_neg successful
      rw [answer]
      refine Or.inr ⟨?_, _, .status body successful, rfl⟩
      intro token given
      obtain ⟨success, _⟩ := given
      exact successful success

theorem login_outcome (client : Client) (credentials : Credentials) (network : Network) :
    (∃ token, GrantedIn (replyTo (client.loginRequest credentials) network) token ∧
        (client.login credentials network).1 = .ok ⟨token⟩) ∨
      (∀ token, ¬ GrantedIn (replyTo (client.loginRequest credentials) network) token) ∧
        ∃ e, RefusedIn (replyTo (client.loginRequest credentials) network) e ∧
          (client.login credentials network).1 = .error e := by
  unfold Client.login Client.send replyTo
  cases built : Client.build (client.loginRequest credentials) with
  | ok request => exact openReply_outcome request.url (network.exchange request).1
  | error e =>
    obtain ⟨cause, rfl⟩ := build_refuses built
    exact Or.inr ⟨nofun, _, .unsent cause, rfl⟩

end SessionGate.Remote
