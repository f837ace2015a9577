import Mathlib.Data.List.Forall2
import Mathlib.Data.List.TakeDrop

/-! A sequence put together from pieces, some of them tagged, and the marks that say where
each tagged piece stands in the encoded whole. -/

namespace OctoChannel.Foundation

universe u v w

variable {Item : Type u} {Code : Type v} {Tag : Type w}

structure Piece (Item : Type u) (Tag : Type w) where
  items : List Item
  tag : Option Tag

/-- A tag with its range, counted in codes. -/
structure Mark (Tag : Type w) where
  tag : Tag
  offset : Nat
  length : Nat
  deriving DecidableEq

variable (code : Item → List Code)

def encoded (items : List Item) : List Code := items.flatMap code

/-- The items of all pieces in order. -/
def assembled (pieces : List (Piece Item Tag)) : List Item := pieces.flatMap Piece.items

/-- The codes of a range. -/
def Mark.cut (mark : Mark Tag) (codes : List Code) : List Code :=
  (codes.drop mark.offset).take mark.length

def marks : Nat → List (Piece Item Tag) → List (Mark Tag)
  | _, [] => []
  | offset, piece :: rest =>
    let size := (encoded code piece.items).length
    match piece.tag with
    | some tag => ⟨tag, offset, size⟩ :: marks (offset + size) rest
    | none => marks (offset + size) rest

/-- The mark stands for the piece in the whole sequence. -/
structure PointsAt (whole : List Item) (piece : Piece Item Tag) (mark : Mark Tag) : Prop where
  tag : piece.tag = some mark.tag
  cut : mark.cut (encoded code whole) = encoded code piece.items

variable {code} {pieces more : List (Piece Item Tag)} {offset : Nat}

theorem encoded_append (first second : List Item) :
    encoded code (first ++ second) = encoded code first ++ encoded code second :=
  List.flatMap_append

theorem assembled_append (pieces more : List (Piece Item Tag)) :
    assembled (pieces ++ more) = assembled pieces ++ assembled more :=
  List.flatMap_append

theorem marks_append (offset : Nat) (pieces more : List (Piece Item Tag)) :
    marks code offset (pieces ++ more) =
      marks code offset pieces ++
        marks code (offset + (encoded code (assembled pieces)).length) more := by
  induction pieces generalizing offset with
  | nil => rfl
  | cons piece rest ih =>
    have size : (encoded code (assembled (piece :: rest))).length =
        (encoded code piece.items).length + (encoded code (assembled rest)).length := by
      rw [assembled, List.flatMap_cons, encoded_append, List.length_append]
      rfl
    rw [List.cons_append, marks, marks, size, ← Nat.add_assoc]
    cases piece.tag with
    | none => exact ih _
    | some tag => exact congrArg (List.cons _) (ih _)

theorem marks_map_tag (offset : Nat) (pieces : List (Piece Item Tag)) :
    (marks code offset pieces).map Mark.tag = pieces.filterMap Piece.tag := by
  induction pieces generalizing offset with
  | nil => rfl
  | cons piece rest ih =>
    rw [marks]
    cases tagged : piece.tag with
    | none => rw [List.filterMap_cons_none tagged, ih]
    | some tag => rw [List.filterMap_cons_some tagged, List.map_cons, ih]

/-- Marks that are counted from a later offset lie that much later. -/
theorem marks_add (offset more : Nat) (pieces : List (Piece Item Tag)) :
    marks code (offset + more) pieces =
      (marks code more pieces).map fun mark => { mark with offset := offset + mark.offset } := by
  induction pieces generalizing more with
  | nil => rfl
  | cons piece rest ih =>
    rw [marks, marks, Nat.add_assoc, ih]
    cases piece.tag with
    | none => rfl
    | some tag => rfl

theorem offset_le_of_mem {mark : Mark Tag} (member : mark ∈ marks code offset pieces) :
    offset ≤ mark.offset := by
  induction pieces generalizing offset with
  | nil => cases member
  | cons piece rest ih =>
    rw [marks] at member
    cases tagged : piece.tag with
    | none =>
      rw [tagged] at member
      have later := ih member
      omega
    | some tag =>
      rw [tagged] at member
      rcases List.mem_cons.mp member with same | rest
      · exact Nat.le_of_eq (by rw [same])
      · have later := ih rest
        omega

/-- A mark ends where the next one begins, or before. -/
theorem marks_apart (offset : Nat) (pieces : List (Piece Item Tag)) :
    (marks code offset pieces).Pairwise fun first second =>
      first.offset + first.length ≤ second.offset := by
  induction pieces generalizing offset with
  | nil => exact .nil
  | cons piece rest ih =>
    rw [marks]
    cases piece.tag with
    | none => exact ih _
    | some tag => exact List.pairwise_cons.mpr ⟨fun mark later => offset_le_of_mem later, ih _⟩

/-- The marks of a sequence stand for its tagged pieces, one for each and in order. -/
theorem marks_pointAt (before : List Item) (pieces : List (Piece Item Tag)) (after : List Item) :
    List.Forall₂ (PointsAt code (before ++ assembled pieces ++ after))
      (pieces.filter fun piece => piece.tag.isSome)
      (marks code (encoded code before).length pieces) := by
  induction pieces generalizing before with
  | nil => exact .nil
  | cons piece rest ih =>
    have moved : before ++ assembled (piece :: rest) ++ after =
        before ++ piece.items ++ assembled rest ++ after := by
      rw [assembled, List.flatMap_cons, ← List.append_assoc before]
      rfl
    have size : (encoded code (before ++ piece.items)).length =
        (encoded code before).length + (encoded code piece.items).length := by
      rw [encoded_append, List.length_append]
    have later := ih (before ++ piece.items)
    rw [size] at later
    rw [marks, moved]
    cases tagged : piece.tag with
    | none =>
      rw [List.filter_cons_of_neg (by rw [tagged]; exact Bool.false_ne_true)]
      exact later
    | some tag =>
      rw [List.filter_cons_of_pos (by rw [tagged]; rfl)]
      refine .cons ⟨tagged, ?_⟩ later
      simp only [Mark.cut, encoded_append, List.append_assoc, List.drop_left, List.take_left]

end OctoChannel.Foundation
