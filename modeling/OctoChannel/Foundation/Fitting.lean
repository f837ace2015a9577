import Mathlib.Data.List.Infix
import Mathlib.Order.Basic

namespace OctoChannel.Foundation

variable {Item Cost : Type} [Preorder Cost] {size : List Item → Cost} {budget : Cost}
  {items front back : List Item} {item : Item}

structure LongestFitting (size : List Item → Cost) (budget : Cost) (items front : List Item) :
    Prop where
  isFront : front <+: items
  fits : size front ≤ budget
  longest : ∀ other, other <+: items → size other ≤ budget → other <+: front

theorem size_le_of_front (grows : ∀ front item, size front ≤ size (front ++ [item])) :
    size front ≤ size (front ++ back) := by
  induction back generalizing front with
  | nil => rw [List.append_nil]
  | cons item rest ih =>
    have further := @ih (front ++ [item])
    rw [List.append_assoc, List.singleton_append] at further
    exact le_trans (grows front item) further

/-- Everything fits. -/
theorem LongestFitting.whole (fits : size items ≤ budget) : LongestFitting size budget items items :=
  ⟨List.prefix_refl items, fits, fun _ isFront _ => isFront⟩

/-- The first item that does not fit ends the front. -/
theorem LongestFitting.stop (grows : ∀ front item, size front ≤ size (front ++ [item]))
    (fits : size front ≤ budget) (exceeds : ¬ size (front ++ [item]) ≤ budget) :
    LongestFitting size budget (front ++ item :: back) front := by
  refine ⟨List.prefix_append front _, fits, fun other isFront small => ?_⟩
  rcases List.prefix_or_prefix_of_prefix isFront (List.prefix_append front (item :: back)) with
    within | ⟨more, rfl⟩
  · exact within
  · cases more with
    | nil => rw [List.append_nil]
    | cons next rest =>
      rw [List.prefix_append_right_inj, List.cons_prefix_cons] at isFront
      obtain ⟨rfl, _⟩ := isFront
      have step : front ++ next :: rest = (front ++ [next]) ++ rest := by simp
      rw [step] at small
      exact absurd (le_trans (size_le_of_front grows) small) exceeds

end OctoChannel.Foundation
