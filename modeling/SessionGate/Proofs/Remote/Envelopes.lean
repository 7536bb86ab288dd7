import SessionGate.Proofs.Json.Layout
import SessionGate.Remote.Envelope

/- The envelopes that are read from texts: an object with its code and at most one message, or the
   list of the two. -/
namespace SessionGate.Remote

open Json

namespace Envelope

def codeReads (one : Member) (code : Int) : Prop := IsSigned one.value code one.rest

def msgReads (one : Member) (msg : Option String) : Prop := IsTextOrNull one.value msg one.rest

/-- A text that is an envelope. -/
inductive HeadText (text : Input) : Envelope → Prop where
  | object {members : List Member} {code : Int} {msg : Option (Option String)}
      (object : ObjectText text members) (coded : Fills codeReads "code" none members (some code))
      (told : Fills msgReads "msg" none members msg) : HeadText text ⟨code, msg.join⟩
  | single {inner rest final : Input} {code : Int} (opens : skipSpaces text = .char '[' :: inner)
      (coded : IsSigned inner code rest) (closes : skipSpaces rest = .char ']' :: final)
      (blank : skipSpaces final = []) : HeadText text ⟨code, none⟩
  | pair {inner rest item behind final : Input} {code : Int} {msg : Option String}
      (opens : skipSpaces text = .char '[' :: inner) (coded : IsSigned inner code rest)
      (comma : skipSpaces rest = .char ',' :: item) (told : IsTextOrNull item msg behind)
      (closes : skipSpaces behind = .char ']' :: final) (blank : skipSpaces final = []) :
      HeadText text ⟨code, msg⟩

/-! Objects -/

def Draft.takes (draft : Draft) (one : Member) (next : Draft) : Prop :=
  if one.name = "code" then
    Sets codeReads draft.code (fun code => { draft with code := some code }) one next
  else if one.name = "msg" then
    Sets msgReads draft.msg (fun msg => { draft with msg := some msg }) one next
  else next = draft

theorem draft_takes (fuel : Nat) : Takes (Draft.member fuel) fuel Draft.takes := by
  intro draft name text next rest short
  unfold Draft.member Draft.takes
  by_cases code : name = "code"
  · subst code
    exact field_ok_iff codeReads readSigned_ok_iff (fun _ _ _ form => form.skipped) draft.code
      (fun code => { draft with code := some code }) text next rest
  · by_cases msg : name = "msg"
    · subst msg
      exact field_ok_iff msgReads readTextOrNull_ok_iff (fun _ _ _ form => form.skipped) draft.msg
        (fun msg => { draft with msg := some msg }) text next rest
    · simp only [code, msg, if_false]
      exact passed_ok_iff short draft next rest

theorem draft_folds_iff (members : List Member) (draft final : Draft) :
    Folds Draft.takes draft members final ↔
      Fills codeReads "code" draft.code members final.code ∧
        Fills msgReads "msg" draft.msg members final.msg := by
  induction members generalizing draft with
  | nil =>
    rw [fills_nil_iff, fills_nil_iff]
    constructor
    · intro same
      subst same
      exact ⟨rfl, rfl⟩
    · intro given
      obtain ⟨code, msg⟩ := given
      cases draft
      cases final
      simp_all [Folds]
  | cons one others ih =>
    simp only [Folds, ih]
    by_cases code : one.name = "code"
    · have other : one.name ≠ "msg" := by simp [code]
      rw [fills_same_iff _ code, fills_other_iff _ other]
      simp only [Draft.takes, code, if_true]
      constructor
      · intro given
        obtain ⟨next, ⟨free, n, read, rfl⟩, coded, told⟩ := given
        exact ⟨⟨free, n, read, coded⟩, told⟩
      · intro given
        obtain ⟨⟨free, n, read, coded⟩, told⟩ := given
        exact ⟨_, ⟨free, n, read, rfl⟩, coded, told⟩
    · by_cases msg : one.name = "msg"
      · rw [fills_other_iff _ code, fills_same_iff _ msg]
        simp only [Draft.takes, msg, if_true]
        constructor
        · intro given
          obtain ⟨next, ⟨free, found, read, rfl⟩, coded, told⟩ := given
          exact ⟨coded, free, found, read, told⟩
        · intro given
          obtain ⟨coded, free, found, read, told⟩ := given
          exact ⟨_, ⟨free, found, read, rfl⟩, coded, told⟩
      · rw [fills_other_iff _ code, fills_other_iff _ msg]
        simp only [Draft.takes, code, msg, if_false]
        constructor
        · intro given
          obtain ⟨next, rfl, coded, told⟩ := given
          exact ⟨coded, told⟩
        · intro given
          obtain ⟨coded, told⟩ := given
          exact ⟨draft, rfl, coded, told⟩

theorem finish_ok_iff (draft : Draft) (envelope : Envelope) :
    draft.finish = .ok envelope ↔
      ∃ code, draft.code = some code ∧ envelope = ⟨code, draft.msg.join⟩ := by
  obtain ⟨code, msg⟩ := draft
  cases code with
  | none => simp [Draft.finish]
  | some code =>
    simp only [Draft.finish, Except.ok.injEq, Option.some.injEq, exists_eq_left']
    exact eq_comm

/-! Lists -/

theorem readList_ok_iff (text final : Input) (envelope : Envelope) :
    readList text = .ok (envelope, final) ↔
      ∃ code rest, IsSigned text code rest ∧
        ((envelope = ⟨code, none⟩ ∧ skipSpaces rest = .char ']' :: final) ∨
          ∃ item msg behind, skipSpaces rest = .char ',' :: item ∧ IsTextOrNull item msg behind ∧
            skipSpaces behind = .char ']' :: final ∧ envelope = ⟨code, msg⟩) := by
  constructor
  · intro read
    obtain ⟨first, found, later⟩ := (bind_ok_iff _ _ _).mp read
    cases first with
    | closed rest => cases later
    | more item =>
      obtain ⟨rfl, _⟩ := (nextItem_first_iff _ _).mp found
      obtain ⟨⟨code, rest⟩, signed, later⟩ := (bind_ok_iff _ _ _).mp later
      have coded := isSigned_behind_spaces.mp ((readSigned_ok_iff _ _ _).mp signed)
      obtain ⟨second, found, later⟩ := (bind_ok_iff _ _ _).mp later
      cases second with
      | closed behind =>
        cases later
        exact ⟨code, rest, coded, Or.inl ⟨rfl, (nextItem_closed_iff _ _ _).mp found⟩⟩
      | more item =>
        obtain ⟨behind, comma, rfl, _⟩ := (nextItem_later_iff _ _).mp found
        obtain ⟨⟨msg, last⟩, told, later⟩ := (bind_ok_iff _ _ _).mp later
        obtain ⟨after, closed, same⟩ := (bind_ok_iff _ _ _).mp later
        cases same
        have form := isTextOrNull_behind_spaces.mp ((readTextOrNull_ok_iff _ _ _).mp told)
        exact ⟨code, rest, coded, Or.inr ⟨behind, msg, last, comma, form,
          (readListEnd_ok_iff _ _).mp closed, rfl⟩⟩
  · intro given
    obtain ⟨code, rest, coded, ending⟩ := given
    have found := (nextItem_first_iff text _).mpr ⟨rfl, coded.stands⟩
    have signed := (readSigned_ok_iff _ _ _).mpr (isSigned_behind_spaces.mpr coded)
    rcases ending with ⟨rfl, closed⟩ | ⟨item, msg, behind, comma, form, closed, rfl⟩
    · have last := (nextItem_closed_iff false rest final).mpr closed
      simp only [readList, found, signed, last, ok_bind]
      rfl
    · have second := (nextItem_later_iff rest _).mpr ⟨item, comma, rfl, form.stands⟩
      have told := (readTextOrNull_ok_iff _ _ _).mpr (isTextOrNull_behind_spaces.mpr form)
      have last := (readListEnd_ok_iff behind final).mpr closed
      simp only [readList, found, signed, second, told, last, ok_bind]
      rfl

/-! Envelopes -/

theorem read_ok_iff (text : Input) (envelope : Envelope) :
    read text = .ok envelope ↔ HeadText text envelope := by
  refine (readRecord_ok_iff readList (.record record) draft_takes ⟨none, none⟩ Draft.finish text
    envelope).trans ?_
  constructor
  · intro form
    rcases form with ⟨inner, final, opens, listed, blank⟩ | ⟨members, draft, object, folds, finished⟩
    · obtain ⟨code, rest, coded, ending⟩ := (readList_ok_iff _ _ _).mp listed
      rcases ending with ⟨rfl, closed⟩ | ⟨item, msg, behind, comma, told, closed, rfl⟩
      · exact .single opens coded closed blank
      · exact .pair opens coded comma told closed blank
    · obtain ⟨code, set, rfl⟩ := (finish_ok_iff _ _).mp finished
      obtain ⟨coded, told⟩ := (draft_folds_iff _ _ _).mp folds
      rw [set] at coded
      exact .object object coded told
  · intro head
    cases head with
    | @object members code msg object coded told =>
      have folds := (draft_folds_iff members ⟨none, none⟩ ⟨some code, msg⟩).mpr ⟨coded, told⟩
      exact Or.inr ⟨members, _, object, folds, rfl⟩
    | single opens coded closes blank =>
      have listed := (readList_ok_iff _ _ _).mpr ⟨_, _, coded, Or.inl ⟨rfl, closes⟩⟩
      exact Or.inl ⟨_, _, opens, listed, blank⟩
    | pair opens coded comma told closes blank =>
      have listed := (readList_ok_iff _ _ _).mpr
        ⟨_, _, coded, Or.inr ⟨_, _, _, comma, told, closes, rfl⟩⟩
      exact Or.inl ⟨_, _, opens, listed, blank⟩

theorem HeadText.unique {text : Input} {one other : Envelope} (first : HeadText text one)
    (second : HeadText text other) : one = other :=
  Except.ok.inj (((read_ok_iff text one).mpr first).symm.trans ((read_ok_iff text other).mpr second))

end Envelope

open Envelope

/-- Why a text is refused by its envelope, or for having none. -/
inductive Refused (text : Input) : Error → Prop where
  | unreadable (cause : String) (none : ∀ envelope, ¬ HeadText text envelope) :
      Refused text (.parse cause)
  | signedOut (msg : Option String) (head : HeadText text ⟨signedOut, msg⟩) :
      Refused text (.unauthorized (msg.getD ""))
  | failed (code : Int) (msg : Option String) (head : HeadText text ⟨code, msg⟩)
      (unsuccessful : code ≠ success) (other : code ≠ signedOut) :
      Refused text (.server code (msg.getD ""))

theorem checkEnvelope_outcome (text : Input) :
    ((∃ msg, HeadText text ⟨success, msg⟩) ∧ checkEnvelope text = .ok ()) ∨
      ∃ e, Refused text e ∧ checkEnvelope text = .error e := by
  unfold checkEnvelope parsed
  cases known : Envelope.read text with
  | error e =>
    refine Or.inr ⟨_, .unreadable e.message ?_, rfl⟩
    intro envelope head
    cases known.symm.trans ((read_ok_iff text envelope).mpr head)
  | ok envelope =>
    have head := (read_ok_iff text envelope).mp known
    obtain ⟨code, msg⟩ := envelope
    show (_ ∧ verdict ⟨code, msg⟩ = .ok ()) ∨ ∃ e, Refused text e ∧ verdict ⟨code, msg⟩ = .error e
    by_cases successful : code = success
    · subst successful
      exact Or.inl ⟨⟨msg, head⟩, rfl⟩
    · right
      by_cases out : code = signedOut
      · subst out
        exact ⟨_, .signedOut msg head, rfl⟩
      · refine ⟨_, .failed code msg head successful out, ?_⟩
        simp only [verdict, successful, out, if_false]

theorem Refused.unsuccessful {text : Input} {e : Error} (refused : Refused text e)
    (msg : Option String) : ¬ HeadText text ⟨success, msg⟩ := by
  intro head
  cases refused with
  | unreadable cause none => exact none _ head
  | signedOut _ other => exact absurd (head.unique other) (by simp [success, Envelope.signedOut])
  | failed _ _ other unsuccessful =>
    cases head.unique other
    exact unsuccessful rfl

theorem openEnvelope_ok_iff {α : Type} (payload : Input → Except Json.Error α) (text : Input) (a : α) :
    openEnvelope payload text = .ok a ↔
      (∃ msg, HeadText text ⟨success, msg⟩) ∧ payload text = .ok a := by
  unfold openEnvelope
  rcases checkEnvelope_outcome text with ⟨head, checked⟩ | ⟨e, refused, checked⟩
  · rw [checked, ok_bind]
    cases payload text with
    | error e => exact ⟨nofun, nofun⟩
    | ok found =>
      constructor
      · intro same
        cases same
        exact ⟨head, rfl⟩
      · intro given
        cases given.2
        rfl
  · rw [checked]
    refine ⟨nofun, fun given => ?_⟩
    obtain ⟨⟨msg, head⟩, _⟩ := given
    exact absurd head (refused.unsuccessful msg)

end SessionGate.Remote
