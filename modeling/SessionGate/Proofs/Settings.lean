import Mathlib.Data.List.Induction
import SessionGate.Proofs.Text.Encoding
import SessionGate.Proofs.Text.Trimming
import SessionGate.Settings

/- Which environments give settings, and which settings. A timeout is a positive number below 2^64 in
   decimal digits; the first one that is not is what the failure names. -/
namespace SessionGate

/-! Variables -/

namespace Environment

def Sets (env : Environment) (name text : String) : Prop :=
  ∃ before after, env = before ++ (name, Text.encode text) :: after ∧
    ∀ entry ∈ before, entry.1 ≠ name

def Gives (env : Environment) (name unset text : String) : Prop :=
  env.Sets name text ∨ (∀ other, ¬ env.Sets name other) ∧ text = unset

theorem text_iff (env : Environment) (name text : String) :
    env.text? name = some text ↔ env.Sets name text := by
  simp only [text?, Option.bind_eq_some_iff, Text.decode_iff, List.find?_eq_some_iff_append,
    decide_eq_true_eq, Bool.not_eq_true', decide_eq_false_iff_not]
  constructor
  · rintro ⟨⟨_, _⟩, ⟨rfl, before, after, whole, others⟩, rfl⟩
    exact ⟨before, after, whole, others⟩
  · rintro ⟨before, after, whole, others⟩
    exact ⟨(name, Text.encode text), ⟨rfl, before, after, whole, others⟩, rfl⟩

theorem unset_iff (env : Environment) (name : String) :
    env.text? name = none ↔ ∀ text, ¬ env.Sets name text := by
  simp only [← text_iff, Option.eq_none_iff_forall_ne_some]

theorem gives_iff (env : Environment) (name unset text : String) :
    (env.text? name).getD unset = text ↔ env.Gives name unset text := by
  unfold Gives
  rw [← text_iff, ← unset_iff]
  cases env.text? name with
  | none => simp [eq_comm]
  | some found => simp

end Environment

namespace Settings

/-! Numbers of seconds -/

theorem digits_iff (cs : List Char) (n : Nat) : digits? cs = some n ↔
    cs ≠ [] ∧ (∀ c ∈ cs, c.isDigit = true) ∧ Nat.ofDigitChars 10 cs 0 = n := by
  have fold : Nat.ofDigitChars 10 cs 0 = cs.foldl (fun n c => n * 10 + (c.toNat - 48)) 0 := by
    simp only [Nat.ofDigitChars, Nat.mul_comm 10]
    rfl
  rw [fold, ← List.all_eq_true]
  cases cs with
  | nil => simp [digits?]
  | cons c cs => by_cases all : (c :: cs).all Char.isDigit = true <;> simp [digits?, all]

theorem toDigits_of_isDigit {c : Char} (digit : c.isDigit = true) :
    c.toNat - '0'.toNat < 10 ∧ Nat.toDigits 10 (c.toNat - '0'.toNat) = [c] := by
  obtain ⟨least, greatest⟩ := Char.isDigit_iff_toNat.mp digit
  have zero : '0'.toNat = 48 := rfl
  have nine : '9'.toNat = 57 := rfl
  have small : c.toNat - '0'.toNat < 10 := by omega
  refine ⟨small, ?_⟩
  rw [Nat.toDigits_of_lt_base small, List.singleton_inj, ← Char.toNat_inj,
    Nat.toNat_digitChar_of_lt_ten small]
  omega

theorem number_of_digits {cs : List Char} (present : cs ≠ []) (all : ∀ c ∈ cs, c.isDigit = true) :
    ∃ zeros, cs = List.replicate zeros '0' ++ Nat.toDigits 10 (Nat.ofDigitChars 10 cs 0) := by
  induction cs using List.reverseRecOn with
  | nil => exact absurd rfl present
  | append_singleton cs c ih =>
    obtain ⟨small, last⟩ := toDigits_of_isDigit (all c (List.mem_append_right cs List.mem_cons_self))
    rw [Nat.ofDigitChars_append, Nat.ofDigitChars_cons, Nat.ofDigitChars_nil]
    by_cases front : cs = []
    · refine ⟨0, ?_⟩
      rw [front, Nat.ofDigitChars_nil, Nat.mul_zero, Nat.zero_add, last]
      rfl
    · obtain ⟨zeros, written⟩ := ih front fun other member => all other (List.mem_append_left _ member)
      generalize Nat.ofDigitChars 10 cs 0 = n at written ⊢
      rcases Nat.eq_zero_or_pos n with rfl | positive
      · refine ⟨zeros + 1, ?_⟩
        rw [written, Nat.mul_zero, Nat.zero_add, last, List.replicate_succ']
        rfl
      · refine ⟨zeros, ?_⟩
        rw [written, ← Nat.toDigits_append_toDigits (by decide) positive small, last,
          List.append_assoc]

theorem digits_number_iff (cs : List Char) (n : Nat) : digits? cs = some n ↔
    ∃ zeros, cs = List.replicate zeros '0' ++ Nat.toDigits 10 n := by
  rw [digits_iff]
  constructor
  · rintro ⟨present, all, rfl⟩
    exact number_of_digits present all
  · rintro ⟨zeros, rfl⟩
    refine ⟨by simp [Nat.toDigits_ne_nil], ?_, ?_⟩
    · intro c member
      rcases List.mem_append.mp member with zero | digit
      · rw [List.eq_of_mem_replicate zero]
        rfl
      · exact Nat.isDigit_of_mem_toDigits (by decide) (by decide) digit
    · rw [Nat.ofDigitChars_append, Nat.ofDigitChars_replicate_zero, Nat.mul_zero,
        Nat.ofDigitChars_toDigits (by decide) (by decide)]

/-- A text that gives a number of seconds: its decimal form, zeros and a plus before it allowed. -/
structure GivesSeconds (text : String) (n : Nat) : Prop where
  written : ∃ sign zeros, (sign = [] ∨ sign = ['+']) ∧
    Text.Trimmed text.toList (sign ++ (List.replicate zeros '0' ++ Nat.toDigits 10 n))
  positive : 0 < n
  small : n < 2 ^ 64

theorem seconds_iff (text : String) (n : Nat) : seconds? text = some n ↔ GivesSeconds text n := by
  simp only [seconds?, Option.filter_eq_some_iff, digits_number_iff, Bool.and_eq_true,
    decide_eq_true_eq]
  constructor
  · rintro ⟨⟨zeros, written⟩, positive, small⟩
    refine ⟨?_, positive, small⟩
    split at written
    · rename_i cs signed
      exact ⟨['+'], zeros, Or.inr rfl, (Text.trimBlanks_iff _ _).mp (by rw [signed, written]; rfl)⟩
    · exact ⟨[], zeros, Or.inl rfl, (Text.trimBlanks_iff _ _).mp written⟩
  · rintro ⟨⟨sign, zeros, form, trimmed⟩, positive, small⟩
    rw [(Text.trimBlanks_iff _ _).mpr trimmed]
    refine ⟨⟨zeros, ?_⟩, positive, small⟩
    rcases form with rfl | rfl
    · have plain := ((digits_iff _ _).mp ((digits_number_iff _ n).mpr ⟨zeros, rfl⟩)).2.1
      rw [List.nil_append]
      split
      · rename_i cs signed
        have digit := plain '+' (signed ▸ List.mem_cons_self)
        cases digit
      · rfl
    · rfl

/-! Settings -/

/-- What a variable says of a timeout: its number, or the usual one where no text is set. -/
def GivesTimeout (env : Environment) (key : String) (unset n : Nat) : Prop :=
  (∃ text, env.Sets key text ∧ GivesSeconds text n) ∨ (∀ text, ¬ env.Sets key text) ∧ n = unset

def Spoils (env : Environment) (key text : String) : Prop :=
  env.Sets key text ∧ ∀ n, ¬ GivesSeconds text n

theorem readSeconds_ok_iff (env : Environment) (key : String) (unset n : Nat) :
    readSeconds env key unset = .ok n ↔ GivesTimeout env key unset n := by
  simp only [GivesTimeout, ← Environment.text_iff, ← seconds_iff, readSeconds]
  cases env.text? key with
  | none => simp [eq_comm]
  | some text => cases known : seconds? text <;> simp [known]

theorem readSeconds_error_iff (env : Environment) (key : String) (unset : Nat) (e : Error) :
    readSeconds env key unset = .error e ↔ ∃ text, Spoils env key text ∧ e = .invalidValue key text := by
  simp only [Spoils, ← Environment.text_iff, ← seconds_iff, readSeconds]
  cases env.text? key with
  | none => simp
  | some text => cases known : seconds? text <;> simp [known, eq_comm]

theorem timeout_given_iff (env : Environment) (key : String) (unset : Nat) :
    (∃ n, GivesTimeout env key unset n) ↔ ∀ text, ¬ Spoils env key text := by
  simp only [← readSeconds_ok_iff]
  cases known : readSeconds env key unset with
  | ok n =>
    refine iff_of_true ⟨n, rfl⟩ fun text spoils => ?_
    cases known.symm.trans ((readSeconds_error_iff _ _ _ _).mpr ⟨text, spoils, rfl⟩)
  | error e =>
    obtain ⟨text, spoils, _⟩ := (readSeconds_error_iff _ _ _ _).mp known
    exact iff_of_false nofun fun sound => sound text spoils

structure TakenFrom (env : Environment) (settings : Settings) : Prop where
  baseUrl : ∃ url, env.Gives "SESSION_BASE_URL" default.baseUrl url ∧
    Text.Unslashed url settings.baseUrl
  storagePath : env.Gives "SESSION_STORAGE_PATH" default.storagePath settings.storagePath
  defaultAvatar : env.Gives "SESSION_DEFAULT_AVATAR" default.defaultAvatar settings.defaultAvatar
  loginPage : env.Gives "SESSION_LOGIN_PAGE" default.loginPage settings.loginPage
  requestSeconds : GivesTimeout env "SESSION_REQUEST_TIMEOUT_SECS" default.requestSeconds
    settings.requestSeconds
  connectSeconds : GivesTimeout env "SESSION_CONNECT_TIMEOUT_SECS" default.connectSeconds
    settings.connectSeconds

/-- Why an environment gives none: the timeout of requests is looked at first. -/
inductive Fails (env : Environment) : Error → Prop where
  | request {text : String} (spoils : Spoils env "SESSION_REQUEST_TIMEOUT_SECS" text) :
      Fails env (.invalidValue "SESSION_REQUEST_TIMEOUT_SECS" text)
  | connect {text : String} (sound : ∀ other, ¬ Spoils env "SESSION_REQUEST_TIMEOUT_SECS" other)
      (spoils : Spoils env "SESSION_CONNECT_TIMEOUT_SECS" text) :
      Fails env (.invalidValue "SESSION_CONNECT_TIMEOUT_SECS" text)

theorem ofEnvironment_ok_iff (env : Environment) (settings : Settings) :
    ofEnvironment env = .ok settings ↔ TakenFrom env settings := by
  constructor
  · intro read
    cases request : readSeconds env "SESSION_REQUEST_TIMEOUT_SECS" default.requestSeconds with
    | error e => simp [ofEnvironment, request, bind, Except.bind] at read
    | ok requestSeconds =>
      cases connect : readSeconds env "SESSION_CONNECT_TIMEOUT_SECS" default.connectSeconds with
      | error e => simp [ofEnvironment, request, connect, bind, Except.bind] at read
      | ok connectSeconds =>
        simp only [ofEnvironment, request, connect, bind, Except.bind] at read
        obtain rfl := Except.ok.inj read
        exact ⟨⟨_, (env.gives_iff _ _ _).mp rfl, (Text.trimSlashes_iff _ _).mp rfl⟩,
          (env.gives_iff _ _ _).mp rfl, (env.gives_iff _ _ _).mp rfl, (env.gives_iff _ _ _).mp rfl,
          (readSeconds_ok_iff _ _ _ _).mp request, (readSeconds_ok_iff _ _ _ _).mp connect⟩
  · rintro ⟨⟨url, given, unslashed⟩, path, avatar, page, request, connect⟩
    rw [← Environment.gives_iff] at given path avatar page
    rw [← readSeconds_ok_iff] at request connect
    rw [← Text.trimSlashes_iff] at unslashed
    simp only [ofEnvironment, request, connect, given, unslashed, path, avatar, page, bind, Except.bind]
    rfl

theorem ofEnvironment_error_iff (env : Environment) (e : Error) :
    ofEnvironment env = .error e ↔ Fails env e := by
  have split : ofEnvironment env = .error e ↔
      readSeconds env "SESSION_REQUEST_TIMEOUT_SECS" default.requestSeconds = .error e ∨
        (∃ n, readSeconds env "SESSION_REQUEST_TIMEOUT_SECS" default.requestSeconds = .ok n) ∧
          readSeconds env "SESSION_CONNECT_TIMEOUT_SECS" default.connectSeconds = .error e := by
    unfold ofEnvironment
    cases readSeconds env "SESSION_REQUEST_TIMEOUT_SECS" default.requestSeconds <;>
      cases readSeconds env "SESSION_CONNECT_TIMEOUT_SECS" default.connectSeconds <;>
        simp [bind, Except.bind, pure, Except.pure]
  simp only [split, readSeconds_ok_iff, readSeconds_error_iff, timeout_given_iff]
  constructor
  · rintro (⟨text, spoils, rfl⟩ | ⟨sound, text, spoils, rfl⟩)
    · exact .request spoils
    · exact .connect sound spoils
  · rintro (spoils | ⟨sound, spoils⟩)
    · exact Or.inl ⟨_, spoils, rfl⟩
    · exact Or.inr ⟨sound, _, spoils, rfl⟩

theorem settings_given_exactly_if (env : Environment) :
    ((∃ settings, ofEnvironment env = .ok settings) ↔
        (∃ n, GivesTimeout env "SESSION_REQUEST_TIMEOUT_SECS" 10 n) ∧
          ∃ n, GivesTimeout env "SESSION_CONNECT_TIMEOUT_SECS" 5 n) ∧
      (∀ settings, ofEnvironment env = .ok settings ↔ TakenFrom env settings) ∧
      ∀ e, ofEnvironment env = .error e ↔ Fails env e := by
  refine ⟨⟨?_, ?_⟩, ofEnvironment_ok_iff env, ofEnvironment_error_iff env⟩
  · rintro ⟨settings, given⟩
    have taken := (ofEnvironment_ok_iff env settings).mp given
    exact ⟨⟨_, taken.requestSeconds⟩, ⟨_, taken.connectSeconds⟩⟩
  · rintro ⟨request, connect⟩
    cases given : ofEnvironment env with
    | ok settings => exact ⟨settings, rfl⟩
    | error e =>
      rcases (ofEnvironment_error_iff env e).mp given with spoils | ⟨_, spoils⟩
      · exact absurd spoils ((timeout_given_iff _ _ _).mp request _)
      · exact absurd spoils ((timeout_given_iff _ _ _).mp connect _)

/- The greatest number of seconds, behind a plus and zeros; the other timeout is set, but not to a text. -/
theorem greatest_timeout_is_taken :
    ofEnvironment [("SESSION_REQUEST_TIMEOUT_SECS", Text.encode "\u2003+00018446744073709551615\n"),
        ("SESSION_CONNECT_TIMEOUT_SECS", [0xFF])] =
      .ok { default with requestSeconds := 2 ^ 64 - 1 } ∧
    ofEnvironment [("SESSION_CONNECT_TIMEOUT_SECS", Text.encode "18446744073709551616")] =
      .error (.invalidValue "SESSION_CONNECT_TIMEOUT_SECS" "18446744073709551616") := by
  constructor
  · obtain ⟨_, exactly, _⟩ := settings_given_exactly_if
      [("SESSION_REQUEST_TIMEOUT_SECS", Text.encode "\u2003+00018446744073709551615\n"),
        ("SESSION_CONNECT_TIMEOUT_SECS", [0xFF])]
    have seconds : GivesSeconds "\u2003+00018446744073709551615\n" (2 ^ 64 - 1) :=
      ⟨⟨['+'], 3, Or.inr rfl, (Text.trimBlanks_iff _ _).mp (by decide +kernel)⟩, by decide, by decide⟩
    refine (exactly _).mpr ⟨⟨default.baseUrl, (Environment.gives_iff _ _ _ _).mp (by decide +kernel),
      (Text.trimSlashes_iff _ _).mp (by decide +kernel)⟩, ?_, ?_, ?_,
      Or.inl ⟨_, ⟨[], _, rfl, nofun⟩, seconds⟩,
      Or.inr ⟨(Environment.unset_iff _ _).mp (by decide +kernel), rfl⟩⟩
    all_goals exact (Environment.gives_iff _ _ _ _).mp (by decide +kernel)
  · obtain ⟨_, _, failure⟩ := settings_given_exactly_if
      [("SESSION_CONNECT_TIMEOUT_SECS", Text.encode "18446744073709551616")]
    have excess : ∀ n, ¬ GivesSeconds "18446744073709551616" n := by
      intro n given
      have none : seconds? "18446744073709551616" = none := by decide +kernel
      cases none.symm.trans ((seconds_iff _ _).mpr given)
    refine (failure _).mpr (.connect (fun other spoils => ?_) ⟨⟨[], [], rfl, nofun⟩, excess⟩)
    exact (Environment.unset_iff _ _).mp (by decide +kernel) other spoils.1

end Settings

end SessionGate
