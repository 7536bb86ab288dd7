import Mathlib.Tactic.Choose
import SessionGate.Proofs.Json.Reals
import SessionGate.Proofs.Json.Written

/- Values with doubles that are written and read again. What is read nests as deep as what was written, so
   that a document can be read again exactly if it does not nest too deep. -/
namespace SessionGate.Json

open Decimal
open Text (Symbol)

/-! Levels -/

theorem fits_array_iff {more : Nat} {items : List Value} : (Value.array items).Fits more ↔
    ∃ levels, more = levels + 1 ∧ ∀ item ∈ items, item.Fits levels := by
  constructor
  · intro fits
    cases fits with
    | array each => exact ⟨_, rfl, each⟩
  · rintro ⟨levels, rfl, each⟩
    exact .array each

theorem fits_object_iff {more : Nat} {members : Members} (sorted : Members.Sorted members) :
    (Value.object members).Fits more ↔
      ∃ levels, more = levels + 1 ∧ ∀ member ∈ members, member.2.Fits levels := by
  constructor
  · intro fits
    cases fits with
    | object sorted each => exact ⟨_, rfl, each⟩
  · rintro ⟨levels, rfl, each⟩
    exact .object sorted each

/-! Doubles -/

/-- Every double is one of the format. -/
inductive Value.Legible : Value → Prop where
  | null : Legible .null
  | boolean (b : Bool) : Legible (.boolean b)
  | integer (n : Integer) : Legible (.number (.integer n))
  | real {x : Binary64} (inFormat : InFormat x.units) : Legible (.number (.real x))
  | text (s : String) : Legible (.text s)
  | array {items : List Value} (each : ∀ item ∈ items, Legible item) : Legible (.array items)
  | object {members : List (String × Value)} (each : ∀ member ∈ members, Legible member.2) :
      Legible (.object members)

theorem Value.Whole.legible {value : Value} (whole : value.Whole) : value.Legible := by
  induction whole with
  | null => exact .null
  | boolean b => exact .boolean b
  | integer n => exact .integer n
  | text s => exact .text s
  | array _ ih => exact .array ih
  | object _ ih => exact .object ih

theorem legible_number {negative : Bool} {text rest : Input} {n : Number}
    (read : readNumber negative text = .ok (n, rest)) : (Value.number n).Legible := by
  obtain ⟨⟨literal, behind⟩, _, later⟩ := (bind_ok_iff _ _ _).mp read
  obtain ⟨number, known, same⟩ := (bind_ok_iff _ _ _).mp later
  cases same
  unfold Literal.number at known
  split at known
  · cases known
    exact .integer _
  · split at known
    · rename_i real
      cases known
      exact .real (real_inFormat real)
    · cases known

theorem ScalarText.legible {text rest : Input} {value : Value}
    (scalar : ScalarText text value rest) : value.Legible := by
  cases scalar with
  | null => exact .null
  | yes => exact .boolean _
  | no => exact .boolean _
  | text string => exact .text _
  | negative number => exact legible_number number
  | natural digit number => exact legible_number number

theorem ValueText.legible {levels : Nat} {text rest : Input} {value : Value}
    (form : ValueText levels text value rest) : value.Legible := by
  induction form with
  | scalar scalar => exact scalar.legible
  | array opens lined each listed ih =>
    refine .array fun item member => ?_
    rw [← listed] at member
    obtain ⟨one, among, rfl⟩ := List.mem_map.mp member
    exact ih one among
  | object opens laid each listed ih =>
    refine .object fun member found => ?_
    have among := Members.mem_ofList found
    rw [← listed] at among
    obtain ⟨one, read, rfl⟩ := List.mem_map.mp among
    exact ih one read

/-! Values -/

/-- A value that may have been read: so many levels at most, and doubles of the format. -/
structure Value.Sound (levels : Nat) (value : Value) : Prop where
  fits : value.Fits levels
  legible : value.Legible

theorem ValueText.sound {levels : Nat} {text rest : Input} {value : Value}
    (form : ValueText levels text value rest) : value.Sound levels :=
  ⟨form.fits, form.legible⟩

theorem Value.Sound.more_levels {levels more : Nat} {value : Value} (sound : value.Sound levels)
    (enough : levels ≤ more) : value.Sound more :=
  ⟨sound.fits.more_levels enough, sound.legible⟩

theorem sound_object_iff {levels : Nat} {members : Members} :
    (Value.object members).Sound (levels + 1) ↔
      Members.Sorted members ∧ ∀ member ∈ members, member.2.Sound levels := by
  constructor
  · rintro ⟨fits, legible⟩
    cases fits with
    | object sorted fits =>
      cases legible with
      | object legible =>
        exact ⟨sorted, fun member among => ⟨fits member among, legible member among⟩⟩
  · rintro ⟨sorted, each⟩
    exact ⟨.object sorted fun member among => (each member among).fits,
      .object fun member among => (each member among).legible⟩

theorem sound_empty (levels : Nat) : (Value.object []).Sound (levels + 1) :=
  sound_object_iff.mpr ⟨List.Pairwise.nil, nofun⟩

theorem Value.Sound.insert {levels : Nat} {members : Members}
    (sound : (Value.object members).Sound (levels + 1)) (name : String) {value : Value}
    (one : value.Sound levels) : (Value.object (Members.insert members name value)).Sound (levels + 1) := by
  obtain ⟨sorted, each⟩ := sound_object_iff.mp sound
  exact sound_object_iff.mpr
    ⟨Members.insert_sorted sorted name value, Members.forall_insert each name one⟩

theorem Value.Sound.insert_deeper {room levels : Nat} {members : Members}
    (sound : (Value.object members).Sound (room + 1)) (name : String) {value : Value}
    (one : value.Sound levels) :
    (Value.object (Members.insert members name value)).Sound (max room levels + 1) :=
  (sound.more_levels (Nat.succ_le_succ (Nat.le_max_left room levels))).insert name
    (one.more_levels (Nat.le_max_right room levels))

theorem Value.Sound.erase {levels : Nat} {members : Members}
    (sound : (Value.object members).Sound (levels + 1)) (name : String) :
    (Value.object (Members.erase members name)).Sound (levels + 1) := by
  obtain ⟨sorted, each⟩ := sound_object_iff.mp sound
  exact sound_object_iff.mpr
    ⟨Members.erase_sorted sorted name, fun member found => each member (Members.mem_erase found)⟩

theorem fits_insert_iff {levels : Nat} {members : Members}
    (fits : (Value.object members).Fits (levels + 1)) (name : String) (value : Value) :
    (Value.object (Members.insert members name value)).Fits (levels + 1) ↔ value.Fits levels := by
  cases fits with
  | object sorted each =>
    constructor
    · intro taken
      cases taken with
      | object _ each =>
        exact each _ (Members.mem_of_get (Members.get_insert_same members name value))
    · intro one
      exact .object (Members.insert_sorted sorted name value) (Members.forall_insert each name one)

/-- The same value, but for its doubles. Lists keep their length, and objects their names. -/
inductive ButDoubles : Value → Value → Prop where
  | same (value : Value) : ButDoubles value value
  | real (x y : Binary64) : ButDoubles (.number (.real x)) (.number (.real y))
  | array {items : List Value} {kept : Value → Value}
      (each : ∀ item ∈ items, ButDoubles item (kept item)) :
      ButDoubles (.array items) (.array (items.map kept))
  | object {members : List (String × Value)} {kept : Value → Value}
      (each : ∀ member ∈ members, ButDoubles member.2 (kept member.2)) :
      ButDoubles (.object members) (.object (readMembersAs kept members))

theorem Value.Whole.kept {value kept : Value} (whole : value.Whole) (alike : ButDoubles value kept) :
    kept = value := by
  induction alike with
  | same value => rfl
  | real x y => cases whole
  | @array items kept each ih =>
    cases whole with
    | array whole =>
      have same : items.map kept = items.map id :=
        List.map_congr_left fun item among => ih item among (whole item among)
      rw [same, List.map_id]
  | @object members kept each ih =>
    cases whole with
    | object whole =>
      have same : readMembersAs kept members = readMembersAs id members :=
        List.map_congr_left fun member among =>
          congrArg (Prod.mk member.1) (ih member among (whole member among))
      rw [same, readMembersAs_id]

theorem onlyTexts_butDoubles {items : List Value} {kept : Value → Value}
    (each : ∀ item ∈ items, ButDoubles item (kept item)) :
    onlyTexts (items.map kept) = onlyTexts items := by
  unfold onlyTexts
  rw [List.filterMap_map]
  refine List.filterMap_congr fun item member => ?_
  have alike := each item member
  simp only [Function.comp]
  generalize kept item = found at alike
  cases alike <;> rfl

section Layouts

variable {layout : Layout}

structure Reread (layout : Layout) (levels : Nat) (value kept : Value) : Prop where
  fits : ∀ more, kept.Fits more ↔ value.Fits more
  reads : ReadAs layout levels value kept

theorem reread_whole (spaced : layout.Spaced) {levels : Nat} {value : Value}
    (fits : value.Fits levels) (whole : value.Whole) : Reread layout levels value value :=
  ⟨fun _ => Iff.rfl, valueText_written spaced fits whole⟩

theorem ScalarText.apart {text rest : Input} {value : Value} (scalar : ScalarText text value rest) :
    skipSpaces text = text := by
  cases scalar with
  | natural digit => exact skipSpaces_apart (digit_is_apart digit).1 _
  | _ => exact skipSpaces_apart (by decide) _

theorem reread_real {levels : Nat} {x : Binary64} (inFormat : InFormat x.units) :
    ∃ y, Reread layout levels (.number (.real x)) (.number (.real y)) := by
  obtain ⟨y, _, reads⟩ := real_reads inFormat
  refine ⟨y, fun _ => ⟨fun _ => .number _, fun _ => .number _⟩, ?_⟩
  intro text rest written
  obtain ⟨level, front, ends⟩ := written
  have scalar := reads rest ends
  have alone : skipSpaces text = Text.symbols x.text ++ rest := front.trans scalar.apart
  exact .scalar (alone ▸ scalar)

theorem reread_array (spaced : layout.Spaced) {levels : Nat} {items : List Value}
    {kept : Value → Value} (each : ∀ item ∈ items, Reread layout levels item (kept item)) :
    Reread layout (levels + 1) (.array items) (.array (items.map kept)) := by
  constructor
  · intro more
    rw [fits_array_iff, fits_array_iff]
    refine exists_congr fun levels => and_congr_right fun _ => ?_
    rw [List.forall_mem_map]
    exact forall₂_congr fun item member => (each item member).fits levels
  · intro text rest written
    obtain ⟨level, front, _⟩ := written
    obtain ⟨inner, found, opens, lined, rfl, parts⟩ :=
      lined_written spaced level (fun item among => (each item among).reads.passes) rest
    rw [opens, skipSpaces_apart (by decide)] at front
    have forms : ∀ one ∈ found.map fun one => (one.1, kept one.2),
        ValueText levels one.1.value one.2 one.1.rest := by
      intro one member
      obtain ⟨first, among, rfl⟩ := List.mem_map.mp member
      exact (each first.2 (List.mem_map_of_mem among)).reads _ _ (parts first among)
    refine .array front ?_ forms ?_
    · rw [List.map_map]
      exact lined
    · rw [List.map_map, List.map_map]
      rfl

theorem sorted_kept {members : Members} (sorted : Members.Sorted members) (kept : Value → Value) :
    Members.Sorted (readMembersAs kept members) := by
  unfold Members.Sorted readMembersAs
  rw [List.pairwise_map]
  exact sorted

theorem reread_object (spaced : layout.Spaced) {levels : Nat} {members : Members}
    (sorted : Members.Sorted members) {kept : Value → Value}
    (each : ∀ member ∈ members, Reread layout levels member.2 (kept member.2)) :
    Reread layout (levels + 1) (.object members) (.object (readMembersAs kept members)) := by
  have inOrder := sorted_kept sorted kept
  constructor
  · intro more
    rw [fits_object_iff sorted, fits_object_iff inOrder]
    refine exists_congr fun levels => and_congr_right fun _ => ?_
    rw [readMembersAs, List.forall_mem_map]
    exact forall₂_congr fun member among => (each member among).fits levels
  · have reads := readAs_object spaced kept fun member among => (each member among).reads
    rwa [Members.ofList_in_order inOrder] at reads

theorem reread_members {levels : Nat} {members : List (String × Value)}
    (each : ∀ member ∈ members,
      ∃ kept, Reread layout levels member.2 kept ∧ ButDoubles member.2 kept) :
    ∃ kept : Value → Value, ∀ member ∈ members,
      Reread layout levels member.2 (kept member.2) ∧ ButDoubles member.2 (kept member.2) := by
  have found : ∀ value, (∃ name, (name, value) ∈ members) →
      ∃ kept, Reread layout levels value kept ∧ ButDoubles value kept := by
    rintro value ⟨name, member⟩
    exact each _ member
  choose! kept each using found
  exact ⟨kept, fun member among => each member.2 ⟨member.1, among⟩⟩

/-- Whatever is written can be read with as many levels as it has, and is the same but for its doubles. -/
theorem reread_exists (spaced : layout.Spaced) {levels : Nat} {value : Value}
    (fits : value.Fits levels) (legible : value.Legible) :
    ∃ kept, Reread layout levels value kept ∧ ButDoubles value kept := by
  induction fits with
  | null => exact ⟨_, reread_whole spaced .null .null, .same _⟩
  | boolean b => exact ⟨_, reread_whole spaced (.boolean b) (.boolean b), .same _⟩
  | number n =>
    cases legible with
    | integer n => exact ⟨_, reread_whole spaced (.number _) (.integer n), .same _⟩
    | real inFormat =>
      obtain ⟨y, reread⟩ := reread_real inFormat
      exact ⟨_, reread, .real _ y⟩
  | text s => exact ⟨_, reread_whole spaced (.text s) (.text s), .same _⟩
  | array _ ih =>
    cases legible with
    | array legible =>
      choose! kept each alike using fun item member => ih item member (legible item member)
      exact ⟨_, reread_array spaced each, .array alike⟩
  | @object levels members sorted _ ih =>
    cases legible with
    | object legible =>
      obtain ⟨kept, each⟩ := reread_members fun member among => ih member among (legible member among)
      exact ⟨_, reread_object spaced sorted fun member among => (each member among).1,
        .object fun member among => (each member among).2⟩

/-! Documents -/

theorem readMap_written_keeps (spaced : layout.Spaced) {members kept : Members} {levels : Nat}
    (sound : (Value.object members).Sound levels)
    (known : readMap ((layout.value 0 (.object members)).map .char) = .ok kept) :
    (Value.object kept).Sound maxLevels ∧ Reread layout levels (.object members) (.object kept) ∧
      ButDoubles (.object members) (.object kept) := by
  obtain ⟨rest, form, _⟩ := (read_ok_iff _ _).mp
    ((read_object_iff _ _).mpr ((readMap_ok_iff _ _).mp known))
  obtain ⟨other, reread, alike⟩ := reread_exists spaced sound.fits sound.legible
  have written : Written layout (.object members)
      ((layout.value 0 (.object members)).map .char) [] := ⟨0, by rw [List.append_nil], nofun⟩
  obtain ⟨rfl, _⟩ := form.unique (reread.reads _ _ written)
  exact ⟨form.sound, reread, alike⟩

theorem readMap_written_iff (spaced : layout.Spaced) {members : Members} {levels : Nat}
    (sound : (Value.object members).Sound levels) :
    (∃ kept, readMap ((layout.value 0 (.object members)).map .char) = .ok kept) ↔
      (Value.object members).Fits maxLevels := by
  constructor
  · rintro ⟨kept, known⟩
    obtain ⟨again, reread, _⟩ := readMap_written_keeps spaced sound known
    exact (reread.fits maxLevels).mp again.fits
  · intro shallow
    have shallow : (Value.object members).Sound (maxLevels - 1 + 1) := ⟨shallow, sound.legible⟩
    obtain ⟨_, each⟩ := sound_object_iff.mp shallow
    obtain ⟨kept, each⟩ := reread_members fun member among =>
      reread_exists spaced (each member among).fits (each member among).legible
    have text := documentText_read spaced kept fun member among => (each member among).1.reads
    exact ⟨_, (readMap_ok_iff _ _).mpr ⟨_, text, rfl⟩⟩

end Layouts

end SessionGate.Json
