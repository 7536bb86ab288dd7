import Mathlib.Data.List.TakeWhile
import SessionGate.Text.Blank

/- What is left of a text when the blanks around it, or the slashes behind it, are taken off: what was
   taken off is nothing else, and nothing more of it is left at the end. -/
namespace SessionGate.Text

section Ends

variable {α : Type} {p : α → Bool}

theorem dropWhile_iff {items left : List α} : items.dropWhile p = left ↔
    (∃ front, items = front ++ left ∧ ∀ a ∈ front, p a = true) ∧ ∀ a ∈ left.head?, p a = false := by
  constructor
  · rintro rfl
    refine ⟨⟨items.takeWhile p, List.takeWhile_append_dropWhile.symm, ?_⟩, ?_⟩
    · intro a member
      exact List.mem_takeWhile_imp member
    · intro a head
      have failed := List.head?_dropWhile_not p items
      rw [Option.mem_def.mp head] at failed
      simpa using failed
  · rintro ⟨⟨front, rfl, taken⟩, ends⟩
    rw [List.dropWhile_append_of_pos taken]
    cases left with
    | nil => rfl
    | cons a left => rw [List.dropWhile_cons_of_neg (by simp [ends a rfl])]

theorem dropWhile_reverse_iff {items left : List α} : (items.reverse.dropWhile p).reverse = left ↔
    (∃ back, items = left ++ back ∧ ∀ a ∈ back, p a = true) ∧ ∀ a ∈ left.getLast?, p a = false := by
  rw [List.reverse_eq_iff, dropWhile_iff, List.head?_reverse]
  refine and_congr_left fun _ => ⟨?_, ?_⟩
  · rintro ⟨back, split, taken⟩
    refine ⟨back.reverse, ?_, fun a member => taken a (List.mem_reverse.mp member)⟩
    rw [← List.reverse_inj, split, List.reverse_append, List.reverse_reverse]
  · rintro ⟨back, rfl, taken⟩
    exact ⟨back.reverse, List.reverse_append, fun a member => taken a (List.mem_reverse.mp member)⟩

end Ends

/-- A text between blanks that neither begins nor ends with one. -/
structure Trimmed (cs trimmed : List Char) : Prop where
  whole : ∃ front back, cs = front ++ trimmed ++ back ∧ (∀ c ∈ front, isBlank c = true) ∧
    ∀ c ∈ back, isBlank c = true
  first : ∀ c ∈ trimmed.head?, isBlank c = false
  last : ∀ c ∈ trimmed.getLast?, isBlank c = false

theorem trimBlanks_iff (cs trimmed : List Char) : trimBlanks cs = trimmed ↔ Trimmed cs trimmed := by
  constructor
  · intro known
    obtain ⟨⟨back, behind, backBlank⟩, last⟩ := dropWhile_reverse_iff.mp known
    obtain ⟨⟨front, split, frontBlank⟩, head⟩ := dropWhile_iff.mp (Eq.refl (cs.dropWhile isBlank))
    rw [behind] at split head
    refine ⟨⟨front, back, by rw [split, List.append_assoc], frontBlank, backBlank⟩, ?_, last⟩
    intro c first
    apply head
    rw [List.head?_append, Option.mem_def.mp first]
    rfl
  · rintro ⟨⟨front, back, rfl, frontBlank, backBlank⟩, first, last⟩
    refine dropWhile_reverse_iff.mpr ⟨?_, last⟩
    rw [List.append_assoc, List.dropWhile_append_of_pos frontBlank]
    cases trimmed with
    | nil => exact ⟨[], List.dropWhile_eq_nil_iff.mpr backBlank, nofun⟩
    | cons c more =>
      refine ⟨back, ?_, backBlank⟩
      exact dropWhile_iff.mpr ⟨⟨[], rfl, nofun⟩, fun other head => first other head⟩

structure Unslashed (s base : String) : Prop where
  whole : ∃ n, s.toList = base.toList ++ List.replicate n '/'
  last : ∀ c ∈ base.toList.getLast?, c ≠ '/'

theorem trimSlashes_iff (s base : String) : trimSlashes s = base ↔ Unslashed s base := by
  rw [trimSlashes, ← String.toList_inj, String.toList_ofList, dropWhile_reverse_iff]
  constructor
  · rintro ⟨⟨back, split, slashes⟩, last⟩
    refine ⟨⟨back.length, ?_⟩, fun c ends => by simpa using last c ends⟩
    rw [split, ← List.eq_replicate_of_mem fun c member => beq_iff_eq.mp (slashes c member)]
  · rintro ⟨⟨n, split⟩, last⟩
    refine ⟨⟨List.replicate n '/', split, ?_⟩, fun c ends => by simpa using last c ends⟩
    intro c member
    exact beq_iff_eq.mpr (List.eq_of_mem_replicate member)

end SessionGate.Text
