import SessionGate.Proofs.Json.Entries
import SessionGate.Proofs.Remote.Envelopes

/- What the service says about a request is told by the text of its answer alone: by one member of an
   object, or by the first item of a list. What else the object has does not matter. -/
namespace SessionGate.Remote

open Json

namespace Envelope

/-- An integer of the signed class, written without a point and without an exponent. -/
def CodeText (value : Input) (code : Int) : Prop :=
  ∃ lead, Spaces lead ∧ value = lead ++ Text.symbols (toString code) ∧
    -signedBound ≤ code ∧ code < signedBound

def MsgText (value : Input) : Option String → Prop
  | none => ∃ lead, Spaces lead ∧ value = lead ++ Text.symbols "null"
  | some msg => ∃ lead quoted, Spaces lead ∧ value = lead ++ .char '"' :: quoted ∧
      StringText quoted msg.toList []

/-- A text that is an envelope, put together from its parts: an object with one code and at most one
message among its members, or a list of the code and perhaps the message. -/
inductive EnvelopeText : Input → Envelope → Prop where
  | object {lead trail : Input} {entries : List Entry} {code : Int} {msg : Option (Option String)}
      (leads : Spaces lead) (trails : Spaces trail) (coded : Given CodeText "code" entries (some code))
      (told : Given MsgText "msg" entries msg) :
      EnvelopeText (braced lead entries trail) ⟨code, msg.join⟩
  | single {lead value gap trail : Input} {code : Int} (leads : Spaces lead)
      (coded : CodeText value code) (gaps : Spaces gap) (trails : Spaces trail) :
      EnvelopeText (lead ++ .char '[' :: (value ++ (gap ++ .char ']' :: trail))) ⟨code, none⟩
  | pair {lead value gap item room trail : Input} {code : Int} {msg : Option String}
      (leads : Spaces lead) (coded : CodeText value code) (gaps : Spaces gap)
      (told : MsgText item msg) (rooms : Spaces room) (trails : Spaces trail) :
      EnvelopeText (lead ++ .char '[' :: (value ++ (gap ++ .char ',' ::
        (item ++ (room ++ .char ']' :: trail))))) ⟨code, msg⟩

/-! Codes and messages -/

theorem isSigned_own {text rest : Input} {code : Int} (signed : IsSigned text code rest) :
    ∃ value, text = value ++ rest ∧ CodeText value code := by
  obtain ⟨⟨written, _⟩, least, below⟩ := signed
  obtain ⟨lead, leads, rfl⟩ := spaces_before written
  exact ⟨_, (List.append_assoc ..).symm, lead, leads, rfl, least, below⟩

theorem CodeText.isSigned {value rest : Input} {code : Int} (coded : CodeText value code)
    (ends : EndsNumber rest) : IsSigned (value ++ rest) code rest := by
  obtain ⟨lead, leads, rfl, least, below⟩ := coded
  have integer : IntegerText (Text.symbols (toString code) ++ rest) code rest := ⟨rfl, ends⟩
  refine ⟨?_, least, below⟩
  rw [List.append_assoc, integer.behind_spaces leads]
  exact integer

theorem isTextOrNull_own {text rest : Input} {msg : Option String}
    (form : IsTextOrNull text msg rest) : ∃ value, text = value ++ rest ∧ MsgText value msg := by
  cases msg with
  | none =>
    obtain ⟨lead, leads, rfl⟩ := spaces_before form
    exact ⟨_, (List.append_assoc ..).symm, lead, leads, rfl⟩
  | some s =>
    obtain ⟨inner, opens, string⟩ := form
    obtain ⟨lead, leads, rfl⟩ := spaces_before opens
    obtain ⟨quoted, rfl, spelled⟩ := string.own
    exact ⟨_, (List.append_assoc lead (.char '"' :: quoted) rest).symm, lead, quoted, leads, rfl,
      spelled⟩

theorem MsgText.isTextOrNull {value : Input} {msg : Option String} (told : MsgText value msg)
    (rest : Input) : IsTextOrNull (value ++ rest) msg rest := by
  cases msg with
  | none =>
    obtain ⟨lead, leads, rfl⟩ := told
    show skipSpaces _ = _
    rw [List.append_assoc]
    exact skipSpaces_behind leads (c := 'n') (by decide) _
  | some s =>
    obtain ⟨lead, quoted, leads, rfl, spelled⟩ := told
    refine ⟨quoted ++ rest, ?_, spelled.append rest⟩
    rw [List.append_assoc]
    exact skipSpaces_behind leads (by decide) _

theorem codeReads_iff (entry : Entry) (one : Member) (code : Int) (stands : entry.Stands one) :
    codeReads one code ↔ CodeText entry.value code := by
  unfold codeReads
  rw [stands.value]
  constructor
  · intro signed
    obtain ⟨value, parts, coded⟩ := isSigned_own signed
    rwa [List.append_cancel_right parts]
  · exact fun coded => coded.isSigned stands.ends

theorem msgReads_iff (entry : Entry) (one : Member) (msg : Option String) (stands : entry.Stands one) :
    msgReads one msg ↔ MsgText entry.value msg := by
  unfold msgReads
  rw [stands.value]
  constructor
  · intro form
    obtain ⟨value, parts, told⟩ := isTextOrNull_own form
    rwa [List.append_cancel_right parts]
  · exact fun told => told.isTextOrNull one.rest

/-! Envelopes -/

theorem headText_of_braced {lead trail : Input} {entries : List Entry} {code : Int}
    {msg : Option (Option String)} (leads : Spaces lead) (trails : Spaces trail)
    (coded : Given CodeText "code" entries (some code)) (told : Given MsgText "msg" entries msg) :
    HeadText (braced lead entries trail) ⟨code, msg.join⟩ := by
  obtain ⟨members, object, matched⟩ := objectText_braced leads trails entries
  exact .object object ((fills_iff_given codeReads_iff matched _ _).mpr coded)
    ((fills_iff_given msgReads_iff matched _ _).mpr told)

theorem given_of_braced {lead trail : Input} {entries : List Entry} {envelope : Envelope}
    (leads : Spaces lead) (trails : Spaces trail) (head : HeadText (braced lead entries trail) envelope) :
    ∃ code msg, Given CodeText "code" entries (some code) ∧ Given MsgText "msg" entries msg ∧
      envelope = ⟨code, msg.join⟩ := by
  obtain ⟨members, object, matched⟩ := objectText_braced leads trails entries
  have brace := skipSpaces_behind leads (c := '\x7b') (by decide)
    (joined entries ++ .char '\x7d' :: trail)
  cases head with
  | object other coded told =>
    cases other.unique object
    exact ⟨_, _, (fills_iff_given codeReads_iff matched _ _).mp coded,
      (fills_iff_given msgReads_iff matched _ _).mp told, rfl⟩
  | single opens => cases brace.symm.trans opens
  | pair opens => cases brace.symm.trans opens

theorem headText_iff (text : Input) (envelope : Envelope) :
    HeadText text envelope ↔ EnvelopeText text envelope := by
  constructor
  · intro head
    cases head with
    | @object members code msg object coded told =>
      cases members with
      | nil => exact absurd coded (by simp [Fills])
      | cons one others =>
        obtain ⟨lead, entries, trail, leads, trails, rfl, matched⟩ := object.entries
        exact .object leads trails ((fills_iff_given codeReads_iff matched _ _).mp coded)
          ((fills_iff_given msgReads_iff matched _ _).mp told)
    | single opens signed closes blank =>
      obtain ⟨lead, leads, rfl⟩ := spaces_before opens
      obtain ⟨value, rfl, coded⟩ := isSigned_own signed
      obtain ⟨gap, gaps, rfl⟩ := spaces_before closes
      exact .single leads coded gaps blank
    | pair opens signed comma form closes blank =>
      obtain ⟨lead, leads, rfl⟩ := spaces_before opens
      obtain ⟨value, rfl, coded⟩ := isSigned_own signed
      obtain ⟨gap, gaps, rfl⟩ := spaces_before comma
      obtain ⟨item, rfl, told⟩ := isTextOrNull_own form
      obtain ⟨room, rooms, rfl⟩ := spaces_before closes
      exact .pair leads coded gaps told rooms blank
  · intro form
    cases form with
    | object leads trails coded told => exact headText_of_braced leads trails coded told
    | single leads coded gaps trails =>
      have ends := endsNumber_behind_spaces gaps (c := ']') (Or.inr (Or.inl rfl))
      exact .single (skipSpaces_behind leads (by decide) _) (coded.isSigned (ends _))
        (skipSpaces_behind gaps (by decide) _) trails
    | pair leads coded gaps told rooms trails =>
      have ends := endsNumber_behind_spaces gaps (c := ',') (Or.inl rfl)
      exact .pair (skipSpaces_behind leads (by decide) _) (coded.isSigned (ends _))
        (skipSpaces_behind gaps (by decide) _) (told.isTextOrNull _)
        (skipSpaces_behind rooms (by decide) _) trails

/-! Verdicts -/

theorem checkEnvelope_of_text {text : Input} {envelope : Envelope}
    (form : EnvelopeText text envelope) : checkEnvelope text = envelope.verdict := by
  have read := (read_ok_iff text envelope).mpr ((headText_iff text envelope).mpr form)
  unfold checkEnvelope
  rw [read]
  rfl

theorem checkEnvelope_of_none {text : Input} (none : ∀ envelope, ¬ EnvelopeText text envelope) :
    ∃ cause, checkEnvelope text = .error (.parse cause) := by
  unfold checkEnvelope
  cases known : Envelope.read text with
  | error e => exact ⟨e.message, rfl⟩
  | ok envelope =>
    exact absurd ((headText_iff text envelope).mp ((read_ok_iff text envelope).mp known)) (none envelope)

theorem verdict_not_parse (envelope : Envelope) (cause : String) :
    envelope.verdict ≠ .error (.parse cause) := by
  unfold verdict
  dsimp only
  split
  · nofun
  · split <;> nofun

theorem accepted_iff (text : Input) :
    (∃ envelope, EnvelopeText text envelope) ↔ ∀ cause, checkEnvelope text ≠ .error (.parse cause) := by
  constructor
  · intro given cause refused
    obtain ⟨envelope, form⟩ := given
    rw [checkEnvelope_of_text form] at refused
    exact verdict_not_parse envelope cause refused
  · intro accepted
    by_contra none
    obtain ⟨cause, refused⟩ := checkEnvelope_of_none (not_exists.mp none)
    exact accepted cause refused

def asked (entry : Entry) : Bool := entry.name = "code" || entry.name = "msg"

theorem given_of_asked {α : Type} {form : Input → α → Prop} {name : String}
    (wanted : name = "code" ∨ name = "msg") {entries others : List Entry} {after : Option α}
    (given : Given form name entries after)
    (same : (entries.filter asked).Perm (others.filter asked)) : Given form name others after := by
  have narrowed (list : List Entry) : (list.filter asked).filter (fun entry => entry.name = name) =
      list.filter fun entry => entry.name = name := by
    rw [List.filter_filter]
    refine List.filter_congr fun entry _ => ?_
    by_cases named : entry.name = name
    · rcases wanted with rfl | rfl <;> simp [asked, named]
    · simp [named]
  have kept := same.filter fun entry => entry.name = name
  rw [narrowed, narrowed] at kept
  exact given.of_perm kept

theorem checkEnvelope_rearranged {lead trail front final : Input} {entries others : List Entry}
    (leads : Spaces lead) (trails : Spaces trail) (fronts : Spaces front) (finals : Spaces final)
    (same : (entries.filter asked).Perm (others.filter asked))
    (accepted : ∀ cause, checkEnvelope (braced lead entries trail) ≠ .error (.parse cause)) :
    checkEnvelope (braced front others final) = checkEnvelope (braced lead entries trail) := by
  obtain ⟨envelope, form⟩ := (accepted_iff _).mpr accepted
  obtain ⟨code, msg, coded, told, rfl⟩ :=
    given_of_braced leads trails ((headText_iff _ _).mpr form)
  have moved : EnvelopeText (braced front others final) ⟨code, msg.join⟩ :=
    .object fronts finals (given_of_asked (Or.inl rfl) coded same)
      (given_of_asked (Or.inr rfl) told same)
  rw [checkEnvelope_of_text form, checkEnvelope_of_text moved]

end Envelope

open Envelope

/-- An answer is refused as unreadable exactly if its text is no envelope. Otherwise the code decides, and
the message comes along. The other members of an object do not matter, however they are arranged: any name
with any value that the strict reader accepts is such a member. -/
theorem envelopes_are_judged_by_code_and_message :
    (∀ text : Input, (∃ envelope, EnvelopeText text envelope) ↔
      ∀ cause, checkEnvelope text ≠ .error (.parse cause)) ∧
    (∀ text code msg, EnvelopeText text ⟨code, msg⟩ →
      (code = 200 → checkEnvelope text = .ok ()) ∧
      (code = 401 → checkEnvelope text = .error (.unauthorized (msg.getD ""))) ∧
      (code ≠ 200 → code ≠ 401 → checkEnvelope text = .error (.server code (msg.getD "")))) ∧
    (∀ text e, checkEnvelope text = .error e → (∃ msg, e = .unauthorized msg) ∨
      (∃ code msg, e = .server code msg) ∨ ∃ cause, e = .parse cause) ∧
    (∀ (name : String) (quoted value : Input) (read : Value), StringText quoted name.toList [] →
      Json.read value = .ok read → ∃ entry : Entry, entry.name = name ∧
        entry.text = .char '"' :: (quoted ++ .char ':' :: value)) ∧
    ∀ (lead trail front final : Input) (entries others : List Entry), Spaces lead → Spaces trail →
      Spaces front → Spaces final → (entries.filter asked).Perm (others.filter asked) →
      (∀ cause, checkEnvelope (braced lead entries trail) ≠ .error (.parse cause)) →
      checkEnvelope (braced front others final) = checkEnvelope (braced lead entries trail) := by
  refine ⟨accepted_iff, ?_, ?_, fun _ _ _ _ => entry_of_read, fun _ _ _ _ _ _ => checkEnvelope_rearranged⟩
  · intro text code msg form
    rw [checkEnvelope_of_text form]
    refine ⟨?_, ?_, ?_⟩
    · rintro rfl
      rfl
    · rintro rfl
      rfl
    · intro unsuccessful other
      have successful : code ≠ success := unsuccessful
      have out : code ≠ Envelope.signedOut := other
      simp only [verdict, successful, out, if_false]
  · intro text e refused
    rcases checkEnvelope_outcome text with ⟨_, done⟩ | ⟨found, why, failed⟩
    · cases done.symm.trans refused
    · cases failed.symm.trans refused
      cases why with
      | unreadable cause => exact Or.inr (Or.inr ⟨cause, rfl⟩)
      | signedOut msg => exact Or.inl ⟨_, rfl⟩
      | failed code msg => exact Or.inr (Or.inl ⟨_, _, rfl⟩)

def expiredCode : Entry :=
  ⟨"code", [], Text.symbols "c\\u006fde\"", [], Text.symbols " 401", [], rfl,
    (readString_ok_iff _ _ _).mp rfl, rfl, loose_of_skipped rfl, rfl⟩

def expiredMsg : Entry :=
  ⟨"msg", [], Text.symbols "msg\"", [], Text.symbols "\"out\"", [], rfl,
    (readString_ok_iff _ _ _).mp rfl, rfl, loose_of_skipped rfl, rfl⟩

theorem expired_answer_with_a_further_member :
    ∃ extra : Entry, extra.name = "x" ∧ extra.text = Text.symbols "\"x\":[null]" ∧
      checkEnvelope (braced [.char ' '] [expiredMsg, extra, expiredCode] []) =
        .error (.unauthorized "out") := by
  obtain ⟨accepted, judged, _, further, rearranged⟩ := envelopes_are_judged_by_code_and_message
  have blank : Spaces [] := rfl
  have coded : Given CodeText "code" [expiredCode, expiredMsg] (some 401) :=
    ⟨expiredCode, by simp [expiredCode, expiredMsg], [.char ' '], rfl, rfl, by decide, by decide⟩
  have told : Given MsgText "msg" [expiredCode, expiredMsg] (some (some "out")) :=
    ⟨expiredMsg, by simp [expiredCode, expiredMsg], [], Text.symbols "out\"", rfl, rfl,
      (readString_ok_iff _ _ _).mp rfl⟩
  have form : EnvelopeText (braced [] [expiredCode, expiredMsg] []) ⟨401, some "out"⟩ :=
    .object blank blank coded told
  have spelled : StringText (Text.symbols "x\"") "x".toList [] := (readString_ok_iff _ _ _).mp rfl
  obtain ⟨extra, name, text⟩ := further "x" _ (Text.symbols "[null]") (.array [.null]) spelled rfl
  refine ⟨extra, name, text, ?_⟩
  have same : ([expiredCode, expiredMsg].filter asked).Perm
      ([expiredMsg, extra, expiredCode].filter asked) := by
    simpa [asked, name, expiredCode, expiredMsg] using List.Perm.swap expiredMsg expiredCode []
  rw [rearranged [] [] [.char ' '] [] _ _ blank blank rfl blank same ((accepted _).mp ⟨_, form⟩)]
  exact (judged _ _ _ form).2.1 rfl

end SessionGate.Remote
