import Mathlib.Data.List.TakeDrop
import OctoChannel.Foundation.Text

namespace OctoChannel.Foundation

/-- A code point beyond the basic plane takes a surrogate pair; a lone surrogate stays the
one unit that it is. -/
def CodePoint.units (point : CodePoint) : List Nat :=
  if point.val ≤ 0xffff then [point.val]
  else [0xd800 + (point.val - 0x10000) / 0x400, 0xdc00 + (point.val - 0x10000) % 0x400]

def utf16 (text : PyStr) : List Nat := text.flatMap CodePoint.units

/-- The index of the character, or of the end of the text, that stands at the offset. -/
def unitIndex? (text : PyStr) (offset : Nat) : Option Nat :=
  (List.range (text.length + 1)).find? fun index => (utf16 (text.take index)).length = offset

def CodePoint.width (point : CodePoint) : Nat := if 0xffff < point.val then 2 else 1

theorem CodePoint.length_units (point : CodePoint) : point.units.length = point.width := by
  unfold units width
  by_cases plain : point.val ≤ 0xffff
  · rw [if_pos plain, if_neg (Nat.not_lt.mpr plain)]
    rfl
  · rw [if_neg plain, if_pos (Nat.not_le.mp plain)]
    rfl

theorem CodePoint.width_pos (point : CodePoint) : 0 < point.width := by
  unfold width
  split <;> omega

theorem CodePoint.width_le (point : CodePoint) : point.width ≤ 2 := by
  unfold width
  split <;> omega

theorem CodePoint.width_of_plain {point : CodePoint} (plain : point.val ≤ 0xffff) :
    point.width = 1 :=
  if_neg (Nat.not_lt.mpr plain)

variable {text : PyStr} {offset index : Nat}

@[simp] theorem length_utf16_nil : (utf16 []).length = 0 := rfl

@[simp] theorem length_utf16_cons (point : CodePoint) (rest : PyStr) :
    (utf16 (point :: rest)).length = point.width + (utf16 rest).length := by
  rw [utf16, List.flatMap_cons, List.length_append, CodePoint.length_units]
  rfl

@[simp] theorem length_utf16_append (first second : PyStr) :
    (utf16 (first ++ second)).length = (utf16 first).length + (utf16 second).length := by
  rw [utf16, List.flatMap_append, List.length_append]
  rfl

/-- A text has at least as many units as characters, and at most twice as many. -/
theorem length_le_utf16 (text : PyStr) : text.length ≤ (utf16 text).length := by
  induction text with
  | nil => exact Nat.le_refl 0
  | cons point rest ih =>
    have wide := point.width_pos
    rw [List.length_cons, length_utf16_cons]
    omega

theorem length_utf16_le (text : PyStr) : (utf16 text).length ≤ 2 * text.length := by
  induction text with
  | nil => exact Nat.le_refl 0
  | cons point rest ih =>
    have narrow := point.width_le
    rw [List.length_cons, length_utf16_cons]
    omega

theorem length_utf16_of_plain (plain : ∀ point ∈ text, point.val ≤ 0xffff) :
    (utf16 text).length = text.length := by
  induction text with
  | nil => rfl
  | cons point rest ih =>
    have first := CodePoint.width_of_plain (plain point List.mem_cons_self)
    rw [length_utf16_cons, List.length_cons, first,
      ih fun other member => plain other (List.mem_cons_of_mem point member)]
    omega

/-- Further characters take further units. -/
theorem length_utf16_take_lt {first second : Nat} (before : first < second)
    (inside : second ≤ text.length) :
    (utf16 (text.take first)).length < (utf16 (text.take second)).length := by
  have split : text.take second = text.take first ++ (text.drop first).take (second - first) := by
    rw [← List.take_add, Nat.add_sub_cancel' (Nat.le_of_lt before)]
  have wide := length_le_utf16 ((text.drop first).take (second - first))
  rw [List.length_take, List.length_drop] at wide
  rw [split, length_utf16_append]
  omega

theorem length_utf16_take_le {first second : Nat} (before : first ≤ second)
    (inside : second ≤ text.length) :
    (utf16 (text.take first)).length ≤ (utf16 (text.take second)).length := by
  rcases Nat.eq_or_lt_of_le before with same | earlier
  · rw [same]
  · exact Nat.le_of_lt (length_utf16_take_lt earlier inside)

theorem unitIndex?_eq_some_iff : unitIndex? text offset = some index ↔
    index ≤ text.length ∧ (utf16 (text.take index)).length = offset := by
  constructor
  · intro found
    have member := List.mem_of_find?_eq_some found
    have here := List.find?_some found
    rw [List.mem_range] at member
    exact ⟨by omega, by simpa using here⟩
  · intro here
    obtain ⟨inside, same⟩ := here
    apply List.find?_range_eq_some.mpr
    refine ⟨by simpa using same, List.mem_range.mpr (by omega), ?_⟩
    intro earlier before
    have shorter := length_utf16_take_lt before inside
    simp only [Bool.not_eq_true', decide_eq_false_iff_not]
    omega

theorem unitIndex?_eq_none_iff : unitIndex? text offset = none ↔
    ∀ index ≤ text.length, (utf16 (text.take index)).length ≠ offset := by
  constructor
  · intro missing index inside same
    rw [unitIndex?_eq_some_iff.mpr ⟨inside, same⟩] at missing
    cases missing
  · intro apart
    cases found : unitIndex? text offset with
    | none => rfl
    | some index =>
      obtain ⟨inside, same⟩ := unitIndex?_eq_some_iff.mp found
      exact absurd same (apart index inside)

/-- Nothing stands beyond the last unit. -/
theorem unitIndex?_of_beyond (beyond : (utf16 text).length < offset) :
    unitIndex? text offset = none := by
  apply unitIndex?_eq_none_iff.mpr
  intro index inside same
  have shorter := length_utf16_take_le inside (Nat.le_refl text.length)
  rw [List.take_length] at shorter
  omega

/-- Up to a bound before which every character is one unit, offsets are indices. -/
theorem unitIndex?_of_plain {bound : Nat}
    (plain : ∀ point ∈ text.take bound, point.val ≤ 0xffff) (within : offset ≤ bound) :
    unitIndex? text offset = if offset ≤ text.length then some offset else none := by
  have units : (utf16 (text.take offset)).length = min offset text.length := by
    rw [length_utf16_of_plain, List.length_take]
    intro point member
    exact plain point ((List.take_sublist_take_left within).subset member)
  split
  · rename_i inside
    apply unitIndex?_eq_some_iff.mpr
    exact ⟨inside, by omega⟩
  · rename_i outside
    apply unitIndex?_of_beyond
    rw [List.take_of_length_le (by omega)] at units
    omega

end OctoChannel.Foundation
