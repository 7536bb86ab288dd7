import SessionGate.Json.Printer
import SessionGate.Proofs.Json.Grammar

/- Values that are written and read again. Whatever the layout puts between the parts of a value, as long
   as it is blank, the strict reader finds the value that was written. Doubles are left out: they are
   written in their shortest form, which is read back by way of a rounded product. -/
namespace SessionGate.Json

open Text (Symbol)

/-! Values that a document can hold -/

/-- Every object lists its names once and in order, and there are at most so many levels. -/
inductive Value.Fits : Nat → Value → Prop where
  | null {levels : Nat} : Fits levels .null
  | boolean {levels : Nat} (b : Bool) : Fits levels (.boolean b)
  | number {levels : Nat} (n : Number) : Fits levels (.number n)
  | text {levels : Nat} (s : String) : Fits levels (.text s)
  | array {levels : Nat} {items : List Value} (each : ∀ item ∈ items, Fits levels item) :
      Fits (levels + 1) (.array items)
  | object {levels : Nat} {members : List (String × Value)} (sorted : Members.Sorted members)
      (each : ∀ member ∈ members, Fits levels member.2) : Fits (levels + 1) (.object members)

/-- Every number is an integer. -/
inductive Value.Whole : Value → Prop where
  | null : Whole .null
  | boolean (b : Bool) : Whole (.boolean b)
  | integer (n : Integer) : Whole (.number (.integer n))
  | text (s : String) : Whole (.text s)
  | array {items : List Value} (each : ∀ item ∈ items, Whole item) : Whole (.array items)
  | object {members : List (String × Value)} (each : ∀ member ∈ members, Whole member.2) :
      Whole (.object members)

theorem Value.Fits.more_levels {levels more : Nat} {value : Value} (fits : value.Fits levels)
    (enough : levels ≤ more) : value.Fits more := by
  induction fits generalizing more with
  | null => exact .null
  | boolean b => exact .boolean b
  | number n => exact .number n
  | text s => exact .text s
  | array each ih =>
    obtain ⟨more, rfl⟩ := Nat.exists_eq_succ_of_ne_zero (Nat.ne_zero_of_lt enough)
    exact .array fun item member => ih item member (Nat.le_of_succ_le_succ enough)
  | object sorted each ih =>
    obtain ⟨more, rfl⟩ := Nat.exists_eq_succ_of_ne_zero (Nat.ne_zero_of_lt enough)
    exact .object sorted fun item member => ih item member (Nat.le_of_succ_le_succ enough)

/-- A value that is read again as it was written: so many levels at most, and no doubles. -/
structure Value.Exact (levels : Nat) (value : Value) : Prop where
  fits : value.Fits levels
  whole : value.Whole

theorem exact_text (levels : Nat) (s : String) : (Value.text s).Exact levels := ⟨.text s, .text s⟩

theorem exact_texts (levels : Nat) (items : List String) : (texts items).Exact (levels + 1) := by
  have each : ∀ item ∈ items.map Value.text, item.Exact levels := by
    intro item member
    obtain ⟨s, _, rfl⟩ := List.mem_map.mp member
    exact exact_text levels s
  exact ⟨.array fun item member => (each item member).fits,
    .array fun item member => (each item member).whole⟩

theorem exact_object_iff {levels : Nat} {members : Members} :
    (Value.object members).Exact (levels + 1) ↔
      Members.Sorted members ∧ ∀ member ∈ members, member.2.Exact levels := by
  constructor
  · rintro ⟨fits, whole⟩
    cases fits with
    | object sorted fits =>
      cases whole with
      | object whole => exact ⟨sorted, fun member among => ⟨fits member among, whole member among⟩⟩
  · rintro ⟨sorted, each⟩
    exact ⟨.object sorted fun member among => (each member among).fits,
      .object fun member among => (each member among).whole⟩

theorem exact_empty (levels : Nat) : (Value.object []).Exact (levels + 1) :=
  exact_object_iff.mpr ⟨List.Pairwise.nil, nofun⟩

theorem Value.Exact.insert {levels : Nat} {members : Members}
    (exact : (Value.object members).Exact (levels + 1)) (name : String) {value : Value}
    (one : value.Exact levels) :
    (Value.object (Members.insert members name value)).Exact (levels + 1) := by
  obtain ⟨sorted, each⟩ := exact_object_iff.mp exact
  exact exact_object_iff.mpr
    ⟨Members.insert_sorted sorted name value, Members.forall_insert each name one⟩

theorem Value.Exact.erase {levels : Nat} {members : Members}
    (exact : (Value.object members).Exact (levels + 1)) (name : String) :
    (Value.object (Members.erase members name)).Exact (levels + 1) := by
  obtain ⟨sorted, each⟩ := exact_object_iff.mp exact
  exact exact_object_iff.mpr
    ⟨Members.erase_sorted sorted name, fun member found => each member (Members.mem_erase found)⟩

theorem ScalarText.fits {levels : Nat} {text rest : Input} {value : Value}
    (scalar : ScalarText text value rest) : value.Fits levels := by
  cases scalar <;> constructor

theorem ValueText.fits {levels : Nat} {text rest : Input} {value : Value}
    (form : ValueText levels text value rest) : value.Fits levels := by
  induction form with
  | scalar scalar => exact scalar.fits
  | array opens lined each listed ih =>
    refine .array fun item member => ?_
    rw [← listed] at member
    obtain ⟨one, among, rfl⟩ := List.mem_map.mp member
    exact ih one among
  | object opens laid each listed ih =>
    refine .object (Members.ofList_sorted _) fun member found => ?_
    have among := Members.mem_ofList found
    rw [← listed] at among
    obtain ⟨one, read, rfl⟩ := List.mem_map.mp among
    exact ih one read

/-! Strings -/

theorem hexValue_of_digit {n : Nat} (small : n < 16) : hexValue? (hexDigit n) = some n := by
  have each : ∀ n : Fin 16, hexValue? (hexDigit n) = some n.val := by decide
  exact each ⟨n, small⟩

theorem readHex_control {n : Nat} (small : n < 0x20) (rest : Input) :
    readHex (.char '0' :: .char '0' :: .char (hexDigit (n / 16)) :: .char (hexDigit (n % 16)) ::
      rest) = .ok (n, rest) := by
  have zero : hexValue? '0' = some 0 := by decide
  have high := hexValue_of_digit (n := n / 16) (by omega)
  have low := hexValue_of_digit (n := n % 16) (by omega)
  simp only [readHex, Symbol.hexValue?, zero, high, low]
  congr 2
  omega

theorem stringText_char (c : Char) {text rest : Input} {cs : List Char}
    (more : StringText text cs rest) :
    StringText ((writeChar c).map .char ++ text) (c :: cs) rest := by
  unfold writeChar
  split
  · exact .short rfl more
  · exact .short rfl more
  · exact .short rfl more
  · exact .short rfl more
  · exact .short rfl more
  · exact .short rfl more
  · exact .short rfl more
  · rename_i quote slash _ _ _ _ _
    by_cases control : c.toNat < 0x20
    · have hex := readHex_control control text
      have leads : isLeading c.toNat = false := by
        simp only [isLeading, Bool.and_eq_false_iff, decide_eq_false_iff_not]
        omega
      have trails : isTrailing c.toNat = false := by
        simp only [isTrailing, Bool.and_eq_false_iff, decide_eq_false_iff_not]
        omega
      have string := StringText.unit hex leads trails more
      rw [Char.ofNat_toNat] at string
      simp only [control, if_true]
      exact string
    · simp only [control, if_false]
      exact .plain quote slash (Nat.le_of_not_lt control) more

theorem stringText_written (cs : List Char) (rest : Input) :
    StringText ((cs.flatMap writeChar).map .char ++ .char '"' :: rest) cs rest := by
  induction cs with
  | nil => exact .close rest
  | cons c cs ih =>
    rw [List.flatMap_cons, List.map_append, List.append_assoc]
    exact stringText_char c ih

/-! Blanks -/

theorem skipSpaces_apart {c : Char} (apart : isSpace c = false) (rest : Input) :
    skipSpaces (.char c :: rest) = .char c :: rest := by
  simp [skipSpaces, apart]

theorem endsNumber_of_front {c : Char}
    (ends : isSpace c = true ∨ c = ',' ∨ c = ']' ∨ c = '\x7d') (rest : Input) :
    EndsNumber (.char c :: rest) := by
  intro symbol front
  cases front
  simp only [isSpace, Bool.or_eq_true, decide_eq_true_eq] at ends
  rcases ends with (((rfl | rfl) | rfl) | rfl) | rfl | rfl | rfl <;> decide

def Spaces (text : Input) : Prop := skipSpaces text = []

theorem Spaces.skipped {lead : Input} (spaces : Spaces lead) (text : Input) :
    skipSpaces (lead ++ text) = skipSpaces text := by
  induction lead with
  | nil => rfl
  | cons symbol lead ih =>
    cases symbol with
    | stray bytes => cases spaces
    | char c =>
      by_cases space : isSpace c = true
      · simp only [Spaces, skipSpaces, space, if_true] at spaces
        simp only [List.cons_append, skipSpaces, space, if_true]
        exact ih spaces
      · simp only [Spaces, skipSpaces, space] at spaces
        cases spaces

theorem spaces_in_front (text : Input) : ∃ lead, Spaces lead ∧ text = lead ++ skipSpaces text := by
  induction text with
  | nil => exact ⟨[], rfl, rfl⟩
  | cons symbol rest ih =>
    cases symbol with
    | stray bytes => exact ⟨[], rfl, rfl⟩
    | char c =>
      by_cases space : isSpace c = true
      · obtain ⟨lead, spaces, parts⟩ := ih
        refine ⟨.char c :: lead, ?_, ?_⟩
        · simpa only [Spaces, skipSpaces, space, if_true] using spaces
        · simpa only [skipSpaces, space, if_true, List.cons_append, List.cons.injEq, true_and]
            using parts
      · refine ⟨[], rfl, ?_⟩
        simp [skipSpaces, space]

theorem Spaces.front {lead : Input} (spaces : Spaces lead) {symbol : Symbol}
    (front : lead.head? = some symbol) : ∃ c, symbol = .char c ∧ isSpace c = true := by
  cases lead with
  | nil => cases front
  | cons first lead =>
    cases front
    cases symbol with
    | stray bytes => cases spaces
    | char c =>
      by_cases space : isSpace c = true
      · exact ⟨c, rfl, space⟩
      · simp only [Spaces, skipSpaces, space] at spaces
        cases spaces

theorem endsNumber_behind_spaces {gap : Input} (spaces : Spaces gap) {c : Char}
    (ends : c = ',' ∨ c = ']' ∨ c = '\x7d') (rest : Input) : EndsNumber (gap ++ .char c :: rest) := by
  cases gap with
  | nil => exact endsNumber_of_front (Or.inr ends) rest
  | cons symbol gap =>
    obtain ⟨space, rfl, blank⟩ := spaces.front rfl
    exact endsNumber_of_front (Or.inl blank) _

theorem spaces_before {text rest : Input} (front : skipSpaces text = rest) :
    ∃ lead, Spaces lead ∧ text = lead ++ rest := by
  rw [← front]
  exact spaces_in_front text

theorem skipSpaces_behind {lead : Input} (spaces : Spaces lead) {c : Char} (apart : isSpace c = false)
    (rest : Input) : skipSpaces (lead ++ .char c :: rest) = .char c :: rest :=
  (spaces.skipped _).trans (skipSpaces_apart apart rest)

theorem endsNumber_of_spaces {trail : Input} (spaces : Spaces trail) : EndsNumber trail := by
  intro symbol front
  obtain ⟨c, rfl, blank⟩ := spaces.front front
  exact endsNumber_of_front (Or.inl blank) [] _ rfl

theorem digit_is_apart {c : Char} (digit : '0' ≤ c ∧ c ≤ '9') :
    isSpace c = false ∧ c ≠ '[' ∧ c ≠ '\x7b' := by
  refine ⟨?_, (digit_stands_apart digit).2.2.2.2.2⟩
  simp only [isSpace, Bool.or_eq_false_iff, decide_eq_false_iff_not]
  refine ⟨⟨⟨?_, ?_⟩, ?_⟩, ?_⟩ <;>
    · intro same
      subst same
      exact absurd digit (by decide)

theorem IntegerText.behind_spaces {lead text rest : Input} {n : Int}
    (integer : IntegerText text n rest) (spaces : Spaces lead) : skipSpaces (lead ++ text) = text := by
  obtain ⟨c, more, rfl, first⟩ := integer.front
  rcases first with rfl | digit
  · exact skipSpaces_behind spaces (by decide) more
  · exact skipSpaces_behind spaces (digit_is_apart digit).1 more

/-! Layouts -/

def Blank (cs : List Char) : Prop := ∀ c ∈ cs, isSpace c = true

theorem Blank.spaces {cs : List Char} (blank : Blank cs) : Spaces (cs.map .char) := by
  induction cs with
  | nil => rfl
  | cons c cs ih =>
    have space := blank c List.mem_cons_self
    simp only [Spaces, List.map_cons, skipSpaces, space, if_true]
    exact ih fun other member => blank other (List.mem_cons_of_mem _ member)

theorem symbols_compact (value : Value) :
    Text.symbols value.compact = (compact.value 0 value).map .char := by
  rw [Text.symbols, Value.compact, String.toList_ofList]

theorem symbols_pretty (value : Value) :
    Text.symbols value.pretty = (pretty.value 0 value).map .char := by
  rw [Text.symbols, Value.pretty, String.toList_ofList]

/-- What a layout puts between the parts of a value is blank. -/
structure Layout.Spaced (layout : Layout) : Prop where
  lead : ∀ level, Blank (layout.lead level)
  colon : ∃ blanks, layout.colon = ':' :: blanks ∧ Blank blanks

theorem compact_spaced : compact.Spaced := ⟨fun _ => nofun, [], rfl, nofun⟩

theorem pretty_spaced : pretty.Spaced := by
  refine ⟨?_, [' '], rfl, ?_⟩
  · intro level c found
    rcases List.mem_cons.mp found with rfl | blank
    · rfl
    · rw [List.eq_of_mem_replicate blank]
      rfl
  · intro c found
    rw [List.mem_singleton.mp found]
    rfl

theorem mem_of_skipSpaces {symbol : Symbol} {text : Input} (found : symbol ∈ skipSpaces text) :
    symbol ∈ text := by
  induction text with
  | nil => exact found
  | cons first rest ih =>
    cases first with
    | stray bytes => exact found
    | char c =>
      simp only [skipSpaces] at found
      split at found
      · exact List.mem_cons_of_mem _ (ih found)
      · exact found

/-- The value is what is written next, blanks before it left aside. -/
def Written (layout : Layout) (value : Value) (text rest : Input) : Prop :=
  ∃ level, skipSpaces text = skipSpaces ((layout.value level value).map .char ++ rest) ∧
    EndsNumber rest

def Passes (layout : Layout) (value : Value) : Prop :=
  ∀ text rest, Written layout value text rest → Skipped text rest ∧ Stands (skipSpaces text)

section Parts

variable {layout : Layout}

theorem items_end (spaced : layout.Spaced) (level outer : Nat) (items : List Value) (final : Input) :
    EndsNumber ((layout.items level items ++ layout.lead outer).map .char ++ .char ']' :: final) := by
  cases items with
  | nil => exact endsNumber_behind_spaces (spaced.lead outer).spaces (Or.inr (Or.inl rfl)) final
  | cons item rest => exact endsNumber_of_front (Or.inr (Or.inl rfl)) _

theorem members_end (spaced : layout.Spaced) (level outer : Nat) (members : List (String × Value))
    (final : Input) :
    EndsNumber ((layout.members level members ++ layout.lead outer).map .char ++
      .char '\x7d' :: final) := by
  cases members with
  | nil => exact endsNumber_behind_spaces (spaced.lead outer).spaces (Or.inr (Or.inr rfl)) final
  | cons member rest => exact endsNumber_of_front (Or.inr (Or.inl rfl)) _

theorem written_behind_blank (layout : Layout) {cs : List Char} (blank : Blank cs) (level : Nat)
    (value : Value) {rest : Input} (ends : EndsNumber rest) :
    Written layout value (cs.map .char ++ ((layout.value level value).map .char ++ rest)) rest :=
  ⟨level, blank.spaces.skipped _, ends⟩

theorem Written.behind_spaces {value : Value} {text rest : Input}
    (written : Written layout value text rest) : Written layout value (skipSpaces text) rest := by
  obtain ⟨level, front, ends⟩ := written
  exact ⟨level, (skipSpaces_again text).trans front, ends⟩

theorem written_item (spaced : layout.Spaced) (level : Nat) {item : Value}
    (passes : Passes layout item) {rest : Input} (ends : EndsNumber rest) :
    ∃ front, front = skipSpaces ((layout.lead level).map .char ++
        ((layout.value level item).map .char ++ rest)) ∧
      Stands front ∧ Skipped front rest ∧ Written layout item front rest := by
  have written := written_behind_blank layout (spaced.lead level) level item ends
  obtain ⟨skipped, stands⟩ := passes _ _ written
  exact ⟨_, rfl, stands, skipped_behind_spaces.mpr skipped, written.behind_spaces⟩

theorem lined_items (spaced : layout.Spaced) (level outer : Nat) {items : List Value}
    (passes : ∀ item ∈ items, Passes layout item) (final : Input) :
    ∃ found : List (Item × Value),
      Lined false ((layout.items level items ++ layout.lead outer).map .char ++ .char ']' :: final)
        (found.map Prod.fst) final ∧
      found.map Prod.snd = items ∧ ∀ one ∈ found, Written layout one.2 one.1.value one.1.rest := by
  induction items with
  | nil =>
    refine ⟨[], .close ?_, rfl, nofun⟩
    rw [Layout.items, List.nil_append, (spaced.lead outer).spaces.skipped]
    rfl
  | cons item rest ih =>
    obtain ⟨found, lined, listed, each⟩ :=
      ih fun other member => passes other (List.mem_cons_of_mem _ member)
    obtain ⟨front, leads, stands, skipped, written⟩ := written_item spaced level
      (passes item List.mem_cons_self) (items_end spaced level outer rest final)
    refine ⟨(⟨front, _⟩, item) :: found, .item ⟨_, ?_, leads, stands⟩ skipped lined,
      congrArg (item :: ·) listed, List.forall_mem_cons.mpr ⟨written, each⟩⟩
    simp only [Layout.items, List.cons_append, List.append_assoc, List.map_cons, List.map_append]
    exact skipSpaces_apart (by decide) _

theorem lined_written (spaced : layout.Spaced) (level : Nat) {items : List Value}
    (passes : ∀ item ∈ items, Passes layout item) (final : Input) :
    ∃ (inner : Input) (found : List (Item × Value)),
      (layout.value level (.array items)).map .char ++ final = .char '[' :: inner ∧
      Lined true inner (found.map Prod.fst) final ∧ found.map Prod.snd = items ∧
      ∀ one ∈ found, Written layout one.2 one.1.value one.1.rest := by
  cases items with
  | nil => exact ⟨.char ']' :: final, [], rfl, .close (skipSpaces_apart (by decide) _), rfl, nofun⟩
  | cons item rest =>
    obtain ⟨found, lined, listed, each⟩ := lined_items spaced (level + 1) level
      (fun other member => passes other (List.mem_cons_of_mem item member)) final
    obtain ⟨front, leads, stands, skipped, written⟩ := written_item spaced (level + 1)
      (passes item List.mem_cons_self) (items_end spaced (level + 1) level rest final)
    refine ⟨_, (⟨front, _⟩, item) :: found, ?_, .item ⟨leads, stands⟩ skipped lined,
      congrArg (item :: ·) listed, List.forall_mem_cons.mpr ⟨written, each⟩⟩
    simp [Layout.value]

theorem written_member (spaced : layout.Spaced) (level : Nat) (name : String) {value : Value}
    (passes : Passes layout value) {rest : Input} (ends : EndsNumber rest) :
    ∃ quoted colon front, skipSpaces ((layout.lead level).map .char ++ ((writeString name).map .char ++
        (layout.colon.map .char ++ ((layout.value level value).map .char ++ rest)))) =
        .char '"' :: quoted ∧
      StringText quoted name.toList colon ∧ skipSpaces colon = .char ':' :: front ∧
      Skipped front rest ∧ Written layout value front rest := by
  obtain ⟨blanks, sign, blank⟩ := spaced.colon
  have written := written_behind_blank layout blank level value ends
  have string := stringText_written name.toList
    (layout.colon.map .char ++ ((layout.value level value).map .char ++ rest))
  refine ⟨_, _, _, ?_, string, ?_, (passes _ _ written).1, written⟩
  · rw [(spaced.lead level).spaces.skipped, writeString, List.map_cons, List.cons_append,
      skipSpaces_apart (by decide)]
    simp only [List.map_append, List.append_assoc]
    rfl
  · rw [sign]
    exact skipSpaces_apart (by decide) _

theorem laid_members (spaced : layout.Spaced) (level outer : Nat)
    {members : List (String × Value)} (passes : ∀ member ∈ members, Passes layout member.2)
    (final : Input) :
    ∃ found : List (Member × Value),
      Laid false ((layout.members level members ++ layout.lead outer).map .char ++
        .char '\x7d' :: final) (found.map Prod.fst) final ∧
      found.map named = members ∧ ∀ one ∈ found, Written layout one.2 one.1.value one.1.rest := by
  induction members with
  | nil =>
    refine ⟨[], .close ?_, rfl, nofun⟩
    rw [Layout.members, List.nil_append, (spaced.lead outer).spaces.skipped]
    rfl
  | cons member rest ih =>
    obtain ⟨found, laid, listed, each⟩ :=
      ih fun other among => passes other (List.mem_cons_of_mem _ among)
    obtain ⟨quoted, colon, front, opens, string, parts, skipped, written⟩ :=
      written_member spaced level member.1 (passes member List.mem_cons_self)
        (members_end spaced level outer rest final)
    refine ⟨(⟨member.1, front, _⟩, member.2) :: found,
      .member ⟨_, ?_, opens⟩ string parts skipped laid, congrArg (member :: ·) listed,
      List.forall_mem_cons.mpr ⟨written, each⟩⟩
    simp only [Layout.members, List.cons_append, List.append_assoc, List.map_cons, List.map_append]
    exact skipSpaces_apart (by decide) _

theorem laid_written (spaced : layout.Spaced) (level : Nat) {members : List (String × Value)}
    (passes : ∀ member ∈ members, Passes layout member.2) (final : Input) :
    ∃ (inner : Input) (found : List (Member × Value)),
      (layout.value level (.object members)).map .char ++ final = .char '\x7b' :: inner ∧
      Laid true inner (found.map Prod.fst) final ∧ found.map named = members ∧
      ∀ one ∈ found, Written layout one.2 one.1.value one.1.rest := by
  cases members with
  | nil => exact ⟨.char '\x7d' :: final, [], rfl, .close (skipSpaces_apart (by decide) _), rfl, nofun⟩
  | cons member rest =>
    obtain ⟨found, laid, listed, each⟩ := laid_members spaced (level + 1) level
      (fun other among => passes other (List.mem_cons_of_mem member among)) final
    obtain ⟨quoted, colon, front, opens, string, parts, skipped, written⟩ :=
      written_member spaced (level + 1) member.1 (passes member List.mem_cons_self)
        (members_end spaced (level + 1) level rest final)
    refine ⟨_, (⟨member.1, front, _⟩, member.2) :: found, ?_,
      .member opens string parts skipped laid, congrArg (member :: ·) listed,
      List.forall_mem_cons.mpr ⟨written, each⟩⟩
    simp [Layout.value]

/-- Wherever the value is written, the strict reader finds the other one. -/
def ReadAs (layout : Layout) (levels : Nat) (value kept : Value) : Prop :=
  ∀ text rest, Written layout value text rest → ValueText levels text kept rest

theorem ReadAs.passes {levels : Nat} {value kept : Value} (reads : ReadAs layout levels value kept) :
    Passes layout value := by
  intro text rest written
  have form := reads text rest written
  exact ⟨form.skipped, form.stands⟩

def readMembersAs (kept : Value → Value) (members : List (String × Value)) : List (String × Value) :=
  members.map fun member => (member.1, kept member.2)

theorem laid_read (spaced : layout.Spaced) {levels : Nat} (level : Nat) (kept : Value → Value)
    {members : List (String × Value)}
    (reads : ∀ member ∈ members, ReadAs layout levels member.2 (kept member.2)) (final : Input) :
    ∃ (inner : Input) (found : List (Member × Value)),
      (layout.value level (.object members)).map .char ++ final = .char '\x7b' :: inner ∧
      Laid true inner (found.map Prod.fst) final ∧ found.map named = readMembersAs kept members ∧
      ∀ one ∈ found, ValueText levels one.1.value one.2 one.1.rest := by
  obtain ⟨inner, found, opens, laid, rfl, parts⟩ :=
    laid_written spaced level (fun member among => (reads member among).passes) final
  refine ⟨inner, found.map fun one => (one.1, kept one.2), opens, ?_, ?_, ?_⟩
  · rw [List.map_map]
    exact laid
  · simp only [readMembersAs, List.map_map]
    rfl
  · intro one member
    obtain ⟨first, among, rfl⟩ := List.mem_map.mp member
    exact reads (named first) (List.mem_map_of_mem among) _ _ (parts first among)

theorem readAs_object (spaced : layout.Spaced) {levels : Nat} (kept : Value → Value)
    {members : List (String × Value)}
    (reads : ∀ member ∈ members, ReadAs layout levels member.2 (kept member.2)) :
    ReadAs layout (levels + 1) (.object members)
      (.object (Members.ofList (readMembersAs kept members))) := by
  intro text rest written
  obtain ⟨level, front, _⟩ := written
  obtain ⟨inner, found, opens, laid, listed, forms⟩ := laid_read spaced level kept reads rest
  rw [opens, skipSpaces_apart (by decide)] at front
  exact .object front laid forms listed

theorem readMembersAs_id (members : List (String × Value)) : readMembersAs id members = members := by
  simp [readMembersAs]

theorem valueText_written (spaced : layout.Spaced) {levels : Nat} {value : Value}
    (fits : value.Fits levels) (whole : value.Whole) : ReadAs layout levels value value := by
  intro text rest written
  induction fits generalizing text rest with
  | null =>
    obtain ⟨level, front, _⟩ := written
    refine .scalar ?_
    rw [front]
    exact .null
  | boolean b =>
    obtain ⟨level, front, _⟩ := written
    refine .scalar ?_
    rw [front]
    cases b with
    | true => exact .yes
    | false => exact .no
  | number n =>
    obtain ⟨level, front, ends⟩ := written
    cases whole with
    | integer k =>
      have integer : IntegerText (Text.symbols (toString k.val) ++ rest) k.val rest := ⟨rfl, ends⟩
      have read := (readScalar_integer_iff _ rest k).mpr integer
      have blank : Spaces [] := rfl
      have alone : skipSpaces text = Text.symbols (toString k.val) ++ rest :=
        front.trans (integer.behind_spaces blank)
      rw [← alone] at read
      exact .scalar ((readScalar_ok_iff _ _ _).mp read)
  | text s =>
    obtain ⟨level, front, _⟩ := written
    refine .scalar ?_
    rw [front]
    simp only [Layout.value, writeString, List.map_cons, List.cons_append, List.map_append,
      List.append_assoc]
    rw [skipSpaces_apart (by decide)]
    exact .text (stringText_written s.toList rest)
  | array each ih =>
    obtain ⟨level, front, _⟩ := written
    cases whole with
    | array whole =>
      have reads item among : ReadAs layout _ item item := ih item among (whole item among)
      obtain ⟨inner, found, opens, lined, rfl, parts⟩ :=
        lined_written spaced level (fun item among => (reads item among).passes) rest
      rw [opens, skipSpaces_apart (by decide)] at front
      exact .array front lined (fun one member =>
        reads one.2 (List.mem_map_of_mem member) _ _ (parts one member)) rfl
  | object sorted each ih =>
    cases whole with
    | object whole =>
      have form := readAs_object spaced id
        (fun member among => ih member among (whole member among)) text rest written
      rwa [readMembersAs_id, Members.ofList_in_order sorted] at form

theorem distinct_written (spaced : layout.Spaced) {members : List (String × Value)}
    (passes : ∀ member ∈ members, Passes layout member.2) (names : (members.map Prod.fst).Nodup)
    {text rest : Input} (written : Written layout (.object members) text rest) : Distinct text := by
  obtain ⟨level, front, _⟩ := written
  obtain ⟨inner, found, opens, laid, rfl, _⟩ := laid_written spaced level passes rest
  rw [opens, skipSpaces_apart (by decide)] at front
  rw [List.map_map] at names
  exact laid.distinct front (by rwa [List.map_map])

/-! Documents -/

theorem documentText_read (spaced : layout.Spaced) (kept : Value → Value)
    {members : List (String × Value)}
    (reads : ∀ member ∈ members, ReadAs layout (maxLevels - 1) member.2 (kept member.2)) :
    DocumentText ((layout.value 0 (.object members)).map .char) (readMembersAs kept members) := by
  obtain ⟨inner, found, opens, laid, listed, forms⟩ := laid_read spaced 0 kept reads []
  rw [List.append_nil] at opens
  refine ⟨found, ⟨inner, [], ?_, laid, rfl⟩, forms, listed⟩
  rw [opens]
  exact skipSpaces_apart (by decide) inner

theorem documentText_written (spaced : layout.Spaced) {members : List (String × Value)}
    (fits : ∀ member ∈ members, member.2.Fits (maxLevels - 1))
    (whole : ∀ member ∈ members, member.2.Whole) :
    DocumentText ((layout.value 0 (.object members)).map .char) members := by
  have form := documentText_read spaced id fun member among =>
    valueText_written spaced (fits member among) (whole member among)
  rwa [readMembersAs_id] at form

theorem readMap_written (spaced : layout.Spaced) {members : Members}
    (sorted : Members.Sorted members) (fits : ∀ member ∈ members, member.2.Fits (maxLevels - 1))
    (whole : ∀ member ∈ members, member.2.Whole) :
    readMap ((layout.value 0 (.object members)).map .char) = .ok members :=
  (readMap_ok_iff _ _).mpr
    ⟨members, documentText_written spaced fits whole, (Members.ofList_in_order sorted).symm⟩

end Parts

end SessionGate.Json
