import SessionGate.Proofs.Text.Encoding
import SessionGate.Text.Form

/- A form body says exactly the pairs that it was made of. No part of it holds a separator, whatever the
   texts are, so neither a pair nor a name can end early. -/
namespace SessionGate.Text

theorem Percent.digitValue_upperDigit {n : Nat} (small : n < 16) :
    Percent.digitValue? (Percent.upperDigit n) = some n := by
  interval_cases n <;> rfl

theorem encodeChar_ofNat {n : Nat} (small : n < 0x80) : encodeChar (Char.ofNat n) = [byte n] := by
  have code : (Char.ofNat n).toNat = n := code_of (Or.inl (by omega))
  simp only [encodeChar, code, small, if_true]

namespace Form

/-! Bytes and parts -/

theorem plain_small {n : Nat} (plain : isPlain n = true) : n < 0x80 := by
  simp only [isPlain, Bool.or_eq_true, Bool.and_eq_true, decide_eq_true_eq] at plain
  omega

theorem decodeBytes_unescaped {c : Char} (unescaped : c ≠ '%') (rest : List Char) :
    decodeBytes (c :: rest) =
      (decodeBytes rest).map fun bytes => encodeChar (if c = '+' then ' ' else c) ++ bytes := by
  rw [decodeBytes, if_neg unescaped]
  intro high low later escaped
  exact absurd escaped unescaped

theorem plain_apart {n : Nat} (plain : isPlain n = true) {mark : Char}
    (apart : isPlain mark.toNat = false) : mark ≠ Char.ofNat n := by
  rintro rfl
  have small := plain_small plain
  rw [code_of (Or.inl (by omega)), plain] at apart
  cases apart

theorem decodeBytes_encodeByte (b : UInt8) (rest : List Char) :
    decodeBytes (encodeByte b ++ rest) = (decodeBytes rest).map (b :: ·) := by
  have range : b.toNat < 256 := b.toNat_lt
  have whole : byte b.toNat = b := UInt8.ofNat_toNat
  simp only [encodeByte]
  split
  · rename_i blank
    rw [← whole, blank]
    exact decodeBytes_unescaped (by decide) rest
  split
  · rename_i plain
    rw [List.singleton_append, decodeBytes_unescaped (plain_apart plain rfl).symm,
      if_neg (plain_apart plain rfl).symm, encodeChar_ofNat (plain_small plain), whole]
    rfl
  · have high := Percent.digitValue_upperDigit (n := b.toNat / 16) (by omega)
    have low := Percent.digitValue_upperDigit (n := b.toNat % 16) (by omega)
    simp only [Percent.encodeByte, List.cons_append, List.nil_append, decodeBytes, high, low]
    cases decodeBytes rest with
    | none => rfl
    | some bytes =>
      dsimp only
      rw [Nat.div_add_mod', whole, Option.map_some]

theorem decodeBytes_encoded (bytes : Bytes) : decodeBytes (bytes.flatMap encodeByte) = some bytes := by
  induction bytes with
  | nil => rfl
  | cons b bytes ih => rw [List.flatMap_cons, decodeBytes_encodeByte, ih, Option.map_some]

theorem decodePart_encodePart (s : String) : decodePart (encodePart s) = some s := by
  rw [decodePart, encodePart, decodeBytes_encoded, Option.bind_some, (decode_iff _ _).mpr rfl]

/-! Separators -/

theorem digit_apart {n : Nat} (small : n < 16) :
    Percent.upperDigit n ≠ '&' ∧ Percent.upperDigit n ≠ '=' := by
  interval_cases n <;> decide

theorem encodeByte_apart (b : UInt8) : '&' ∉ encodeByte b ∧ '=' ∉ encodeByte b := by
  have range : b.toNat < 256 := b.toNat_lt
  simp only [encodeByte]
  split
  · decide
  split
  · rename_i plain
    simp only [List.mem_singleton]
    exact ⟨plain_apart plain rfl, plain_apart plain rfl⟩
  · have high := digit_apart (n := b.toNat / 16) (by omega)
    have low := digit_apart (n := b.toNat % 16) (by omega)
    simp [Percent.encodeByte, high.1.symm, high.2.symm, low.1.symm, low.2.symm]

theorem encodePart_apart (s : String) : '&' ∉ encodePart s ∧ '=' ∉ encodePart s := by
  simp only [encodePart, List.mem_flatMap, not_exists, not_and]
  exact ⟨fun b _ => (encodeByte_apart b).1, fun b _ => (encodeByte_apart b).2⟩

theorem encodePair_apart (pair : String × String) : '&' ∉ encodePair pair := by
  simp [encodePair, (encodePart_apart pair.1).1, (encodePart_apart pair.2).1]

theorem splitFirst_front {separator : Char} {front : List Char} (absent : separator ∉ front)
    (rest : List Char) : splitFirst separator (front ++ separator :: rest) = some (front, rest) := by
  induction front with
  | nil => simp only [List.nil_append, splitFirst, if_true]
  | cons c front ih =>
    obtain ⟨other, later⟩ := not_or.mp (mt List.mem_cons.mpr absent)
    simp only [List.cons_append, splitFirst, Ne.symm other, if_false, ih later, Option.map_some]

theorem splitOn_whole {separator : Char} {piece : List Char} (absent : separator ∉ piece) :
    splitOn separator piece = [piece] := by
  induction piece with
  | nil => rfl
  | cons c piece ih =>
    obtain ⟨other, later⟩ := not_or.mp (mt List.mem_cons.mpr absent)
    simp only [splitOn, Ne.symm other, if_false, ih later]

theorem splitOn_front {separator : Char} {piece : List Char} (absent : separator ∉ piece)
    (rest : List Char) :
    splitOn separator (piece ++ separator :: rest) = piece :: splitOn separator rest := by
  induction piece with
  | nil => simp only [List.nil_append, splitOn, if_true]
  | cons c piece ih =>
    obtain ⟨other, later⟩ := not_or.mp (mt List.mem_cons.mpr absent)
    simp only [List.cons_append, splitOn, Ne.symm other, if_false, ih later]

/-! Pairs -/

theorem decodePair_encodePair (pair : String × String) : decodePair (encodePair pair) = some pair := by
  simp only [decodePair, encodePair, splitFirst_front (encodePart_apart pair.1).2,
    decodePart_encodePart]

/-- The empty list has no form of its own: an empty body is one part without a name. -/
theorem decodePairs_encodePairs {pairs : List (String × String)} (some_pair : pairs ≠ []) :
    decodePairs (encodePairs pairs) = some pairs := by
  induction pairs with
  | nil => exact absurd rfl some_pair
  | cons pair rest ih =>
    cases rest with
    | nil =>
      simp only [decodePairs, encodePairs, splitOn_whole (encodePair_apart pair), List.mapM_cons,
        decodePair_encodePair]
      rfl
    | cons next rest =>
      have later := ih (List.cons_ne_nil next rest)
      simp only [decodePairs] at later
      simp only [decodePairs, encodePairs, splitOn_front (encodePair_apart pair), List.mapM_cons,
        decodePair_encodePair, later]
      rfl

end Form

end SessionGate.Text
