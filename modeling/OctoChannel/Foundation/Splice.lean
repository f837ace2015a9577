import Mathlib.Data.List.TakeDrop
import Mathlib.Algebra.GroupWithZero.Nat
import Mathlib.Algebra.BigOperators.Group.List.Basic

/-! Replacing ranges of a list: what stands between the ranges is cleaned, and each range
gives way to its piece. The count of items tells whether the ranges were in order. -/

namespace OctoChannel.Foundation

universe u

variable {Item : Type u}

structure Patch (Item : Type u) where
  start : Nat
  stop : Nat
  piece : List Item

/-- Clean the gap before each range and put in the piece of the range. -/
def splice (clean : List Item → List Item) (source : List Item) :
    Nat → List (Patch Item) → List Item
  | cursor, [] => clean (source.drop cursor)
  | cursor, patch :: rest =>
    clean ((source.take patch.start).drop cursor) ++ patch.piece ++
      splice clean source patch.stop rest

/-- Gaps and pieces by turns, and a tail. -/
def interleave : List (List Item × List Item) → List Item → List Item
  | [], tail => tail
  | (gap, piece) :: rest, tail => gap ++ piece ++ interleave rest tail

/-- Each range starts where the one before has ended, or later. -/
def InOrder : Nat → List (Patch Item) → Prop
  | _, [] => True
  | cursor, patch :: rest => cursor ≤ patch.start ∧ InOrder patch.stop rest

/-- The range lies inside the list. -/
structure Patch.Within (patch : Patch Item) (size : Nat) : Prop where
  ordered : patch.start ≤ patch.stop
  inside : patch.stop ≤ size

namespace Patch

def covered (patch : Patch Item) (source : List Item) : List Item :=
  (source.take patch.stop).drop patch.start

theorem length_covered {patch : Patch Item} {source : List Item}
    (within : patch.Within source.length) :
    (patch.covered source).length = patch.stop - patch.start := by
  have inside := within.inside
  rw [covered, List.length_drop, List.length_take]
  omega

end Patch

/-- The gaps before the ranges. -/
def gaps (source : List Item) : Nat → List (Patch Item) → List (List Item)
  | _, [] => []
  | cursor, patch :: rest =>
    (source.take patch.start).drop cursor :: gaps source patch.stop rest

/-- What stands behind the last range. -/
def tailGap (source : List Item) : Nat → List (Patch Item) → List Item
  | cursor, [] => source.drop cursor
  | _, patch :: rest => tailGap source patch.stop rest

variable {clean : List Item → List Item} {source : List Item} {cursor : Nat}
  {patches : List (Patch Item)}

/-- Ranges are in order when each of them ends before all that come later. -/
theorem inOrder_iff_pairwise (ordered : ∀ patch ∈ patches, patch.start ≤ patch.stop) :
    InOrder cursor patches ↔ (∀ patch ∈ patches, cursor ≤ patch.start) ∧
      patches.Pairwise fun first second => first.stop ≤ second.start := by
  induction patches generalizing cursor with
  | nil => simp [InOrder]
  | cons patch rest ih =>
    have forward := ordered patch List.mem_cons_self
    have later := @ih patch.stop fun other member => ordered other (List.mem_cons_of_mem patch member)
    rw [InOrder, later, List.pairwise_cons, List.forall_mem_cons]
    constructor
    · intro both
      obtain ⟨reached, behind, apart⟩ := both
      refine ⟨⟨reached, ?_⟩, behind, apart⟩
      intro other member
      exact Nat.le_trans (Nat.le_trans reached forward) (behind other member)
    · intro both
      obtain ⟨⟨reached, -⟩, behind, apart⟩ := both
      exact ⟨reached, behind, apart⟩

theorem length_gaps (source : List Item) (cursor : Nat) (patches : List (Patch Item)) :
    (gaps source cursor patches).length = patches.length := by
  induction patches generalizing cursor with
  | nil => rfl
  | cons patch rest ih => rw [gaps, List.length_cons, List.length_cons, ih]

theorem splice_eq_interleave (clean : List Item → List Item) (source : List Item) (cursor : Nat)
    (patches : List (Patch Item)) :
    splice clean source cursor patches =
      interleave (((gaps source cursor patches).map clean).zip (patches.map Patch.piece))
        (clean (tailGap source cursor patches)) := by
  induction patches generalizing cursor with
  | nil => rfl
  | cons patch rest ih =>
    rw [splice, ih]
    rfl

/-- Ranges in order cut the list into gaps and covered parts, with nothing left out and
nothing twice. -/
theorem drop_eq_interleave (within : ∀ patch ∈ patches, patch.Within source.length)
    (inOrder : InOrder cursor patches) :
    source.drop cursor =
      interleave ((gaps source cursor patches).zip (patches.map fun patch => patch.covered source))
        (tailGap source cursor patches) := by
  induction patches generalizing cursor with
  | nil => rfl
  | cons patch rest ih =>
    obtain ⟨after, others⟩ := inOrder
    have bounds := within patch List.mem_cons_self
    have later := ih (fun other member => within other (List.mem_cons_of_mem patch member)) others
    have front : (source.take patch.start).drop cursor ++ source.drop patch.start =
        source.drop cursor := by
      have whole := congrArg (List.drop cursor) (List.take_append_drop patch.start source)
      rw [List.drop_append_of_le_length] at whole
      · exact whole
      · have ordered := bounds.ordered
        have inside := bounds.inside
        rw [List.length_take]
        omega
    have back : patch.covered source ++ source.drop patch.stop = source.drop patch.start := by
      have whole := congrArg (List.drop patch.start) (List.take_append_drop patch.stop source)
      rw [List.drop_append_of_le_length] at whole
      · exact whole
      · have ordered := bounds.ordered
        have inside := bounds.inside
        rw [List.length_take]
        omega
    rw [gaps, tailGap, List.map_cons, List.zip_cons_cons, interleave, ← later, List.append_assoc,
      back, front]

theorem length_interleave (between pieces : List (List Item)) (tail : List Item)
    (same : between.length = pieces.length) :
    (interleave (between.zip pieces) tail).length =
      (between.map List.length).sum + (pieces.map List.length).sum + tail.length := by
  induction between generalizing pieces with
  | nil =>
    cases pieces with
    | nil => simp [interleave]
    | cons piece rest => cases same
  | cons gap others ih =>
    cases pieces with
    | nil => cases same
    | cons piece rest =>
      have later := ih rest (Nat.succ.inj same)
      rw [List.zip_cons_cons, interleave, List.length_append, List.length_append, later]
      simp only [List.map_cons, List.sum_cons]
      omega

/-- How many items the ranges cover, counted one by one. -/
def widths (patches : List (Patch Item)) : Nat :=
  (patches.map fun patch => patch.stop - patch.start).sum

def pieceSizes (patches : List (Patch Item)) : Nat :=
  (patches.map fun patch => patch.piece.length).sum

theorem widths_eq_covered (within : ∀ patch ∈ patches, patch.Within source.length) :
    widths patches = ((patches.map fun patch => patch.covered source).map List.length).sum := by
  rw [List.map_map, widths]
  apply congrArg List.sum
  apply List.map_congr_left
  exact fun patch member => (Patch.length_covered (within patch member)).symm

/-- Items are lost by no choice of ranges, and none is taken twice exactly when the ranges
are in order. -/
theorem length_splice (even : ∀ items, (clean items).length = items.length)
    (within : ∀ patch ∈ patches, patch.Within source.length) (reached : cursor ≤ source.length) :
    source.length - cursor + pieceSizes patches ≤
        (splice clean source cursor patches).length + widths patches ∧
      ((splice clean source cursor patches).length + widths patches =
        source.length - cursor + pieceSizes patches ↔ InOrder cursor patches) := by
  induction patches generalizing cursor with
  | nil =>
    have size : (splice clean source cursor []).length = source.length - cursor := by
      rw [splice, even, List.length_drop]
    rw [size]
    exact ⟨Nat.le_refl _, fun _ => trivial, fun _ => rfl⟩
  | cons patch rest ih =>
    have bounds := within patch List.mem_cons_self
    have ordered := bounds.ordered
    have inside := bounds.inside
    obtain ⟨least, same⟩ :=
      ih (fun other member => within other (List.mem_cons_of_mem patch member)) inside
    have size : (splice clean source cursor (patch :: rest)).length =
        (patch.start - cursor) + patch.piece.length +
          (splice clean source patch.stop rest).length := by
      rw [splice, List.length_append, List.length_append, even, List.length_drop,
        List.length_take]
      omega
    have wide : widths (patch :: rest) = patch.stop - patch.start + widths rest := List.sum_cons
    have long : pieceSizes (patch :: rest) = patch.piece.length + pieceSizes rest := List.sum_cons
    rw [size, wide, long, InOrder, ← same]
    omega

end OctoChannel.Foundation
