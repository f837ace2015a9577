import Mathlib.Data.List.Basic
import Mathlib.Data.List.Infix

/-! Frames cut from a stream. A splitter takes one frame off the front of a buffer;
draining the buffer after every chunk yields the frames of the whole stream. -/

namespace OctoChannel.Foundation

universe u

/-- `unpack` takes a frame off the buffer or leaves the buffer alone, and symbols
that arrive after a frame do not change what it takes. -/
structure Splitter (Symbol : Type u) where
  unpack : List Symbol → Option (List Symbol) × List Symbol
  kept : ∀ buffer, (unpack buffer).1 = none → (unpack buffer).2 = buffer
  parts : ∀ buffer frame rest, unpack buffer = (some frame, rest) → buffer = frame ++ rest
  nonempty : ∀ buffer frame rest, unpack buffer = (some frame, rest) → frame ≠ []
  settled : ∀ buffer frame rest more, unpack buffer = (some frame, rest) →
    unpack (buffer ++ more) = (some frame, rest ++ more)

namespace Splitter

variable {Symbol : Type u} (splitter : Splitter Symbol) {buffer frame rest tail more : List Symbol}
  {frames chunks : List (List Symbol)}

theorem shortens (taken : splitter.unpack buffer = (some frame, rest)) :
    rest.length < buffer.length := by
  have positive := List.length_pos_iff.mpr (splitter.nonempty _ _ _ taken)
  rw [splitter.parts _ _ _ taken, List.length_append]
  omega

/-- Take frames off the buffer until none is complete. -/
def drain (buffer : List Symbol) : List (List Symbol) × List Symbol :=
  match _taken : splitter.unpack buffer with
  | (none, rest) => ([], rest)
  | (some frame, rest) => (frame :: (drain rest).1, (drain rest).2)
termination_by buffer.length
decreasing_by all_goals exact splitter.shortens _taken

/-- Extend the buffer by one chunk after another and drain it each time. -/
def feed (buffer : List Symbol) : List (List Symbol) → List (List Symbol) × List Symbol
  | [] => ([], buffer)
  | chunk :: chunks =>
    let (frames, left) := splitter.drain (buffer ++ chunk)
    (frames ++ (feed left chunks).1, (feed left chunks).2)

/-- The frame is taken whole, with nothing left over. -/
def Complete (frame : List Symbol) : Prop := splitter.unpack frame = (some frame, [])

variable {splitter}

theorem drain_of_none (stuck : (splitter.unpack buffer).1 = none) :
    splitter.drain buffer = ([], buffer) := by
  have left := splitter.kept buffer stuck
  unfold drain
  split
  · rename_i rest taken
    rw [taken] at left
    exact congrArg _ left
  · rename_i frame rest taken
    rw [taken] at stuck
    cases stuck

theorem drain_of_some (taken : splitter.unpack buffer = (some frame, rest)) :
    splitter.drain buffer = (frame :: (splitter.drain rest).1, (splitter.drain rest).2) := by
  rw [drain]
  split
  · rename_i untaken
    cases taken.symm.trans untaken
  · rename_i again
    cases taken.symm.trans again
    rfl

/-- Every drain is a sequence of frames in front of a buffer with no complete one. -/
theorem drain_induction (splitter : Splitter Symbol) {motive : List Symbol → Prop}
    (stuck : ∀ buffer, (splitter.unpack buffer).1 = none → motive buffer)
    (take : ∀ buffer frame rest, splitter.unpack buffer = (some frame, rest) →
      motive rest → motive buffer) (buffer : List Symbol) : motive buffer := by
  induction size : buffer.length using Nat.strong_induction_on generalizing buffer with
  | _ size ih =>
    subst size
    rcases taken : splitter.unpack buffer with ⟨_ | frame, rest⟩
    · exact stuck buffer (by rw [taken])
    · exact take buffer frame rest taken (ih _ (splitter.shortens taken) rest rfl)

theorem flatten_drain (splitter : Splitter Symbol) (buffer : List Symbol) :
    (splitter.drain buffer).1.flatten ++ (splitter.drain buffer).2 = buffer := by
  induction buffer using splitter.drain_induction with
  | stuck buffer stuck => rw [drain_of_none stuck, List.flatten_nil, List.nil_append]
  | take buffer frame rest taken ih =>
    rw [drain_of_some taken, List.flatten_cons, List.append_assoc, ih,
      ← splitter.parts _ _ _ taken]

theorem unpack_drained (buffer : List Symbol) :
    (splitter.unpack (splitter.drain buffer).2).1 = none := by
  induction buffer using splitter.drain_induction with
  | stuck buffer stuck => rwa [drain_of_none stuck]
  | take buffer frame rest taken ih => rwa [drain_of_some taken]

/-- What arrives later is drained behind what is left over. -/
theorem drain_append (buffer more : List Symbol) :
    splitter.drain (buffer ++ more) =
      ((splitter.drain buffer).1 ++ (splitter.drain ((splitter.drain buffer).2 ++ more)).1,
        (splitter.drain ((splitter.drain buffer).2 ++ more)).2) := by
  induction buffer using splitter.drain_induction with
  | stuck buffer stuck => rw [drain_of_none stuck, List.nil_append]
  | take buffer frame rest taken ih =>
    rw [drain_of_some (splitter.settled _ _ _ more taken), drain_of_some taken, ih,
      List.cons_append]

/-- Chunk boundaries do not matter to a buffer without a complete frame. -/
theorem feed_eq_drain (stuck : (splitter.unpack buffer).1 = none) (chunks : List (List Symbol)) :
    splitter.feed buffer chunks = splitter.drain (buffer ++ chunks.flatten) := by
  induction chunks generalizing buffer with
  | nil => rw [feed, List.flatten_nil, List.append_nil, drain_of_none stuck]
  | cons chunk chunks ih =>
    rw [List.flatten_cons, ← List.append_assoc, drain_append (buffer ++ chunk),
      ← ih (unpack_drained (buffer ++ chunk))]
    rfl

theorem drain_frames (complete : ∀ frame ∈ frames, splitter.Complete frame) (tail : List Symbol) :
    splitter.drain (frames.flatten ++ tail) =
      (frames ++ (splitter.drain tail).1, (splitter.drain tail).2) := by
  induction frames with
  | nil => rfl
  | cons frame frames ih =>
    obtain ⟨first, others⟩ := List.forall_mem_cons.mp complete
    have taken := splitter.settled _ _ _ (frames.flatten ++ tail) first
    rw [List.flatten_cons, List.append_assoc, drain_of_some taken, List.nil_append, ih others]
    rfl

/-- No proper prefix of a complete frame holds a complete one. -/
theorem unpack_of_proper (complete : splitter.Complete (tail ++ more)) (proper : more ≠ []) :
    (splitter.unpack tail).1 = none := by
  rcases taken : splitter.unpack tail with ⟨_ | frame, rest⟩
  · rfl
  · have whole := splitter.settled _ _ _ more taken
    have nothing : rest ++ more = [] := congrArg Prod.snd (whole.symm.trans complete)
    exact absurd (List.append_eq_nil_iff.mp nothing).2 proper

theorem unpack_nil (splitter : Splitter Symbol) : (splitter.unpack []).1 = none := by
  rcases taken : splitter.unpack [] with ⟨_ | frame, rest⟩
  · rfl
  · have empty := splitter.parts _ _ _ taken
    exact absurd (List.append_eq_nil_iff.mp empty.symm).1 (splitter.nonempty _ _ _ taken)

/-- Chunks of complete frames and a proper prefix of one more give back the frames
and the prefix. -/
theorem feed_frames (complete : ∀ frame ∈ frames, splitter.Complete frame)
    (last : splitter.Complete (tail ++ more)) (proper : more ≠ [])
    (cut : chunks.flatten = frames.flatten ++ tail) : splitter.feed [] chunks = (frames, tail) := by
  rw [feed_eq_drain splitter.unpack_nil, List.nil_append, cut, drain_frames complete,
    drain_of_none (unpack_of_proper last proper), List.append_nil]

/-- The frames drained from the first part of a stream are the first frames of it. -/
theorem drain_initial (complete : ∀ frame ∈ frames, splitter.Complete frame)
    (cut : buffer ++ more = frames.flatten) :
    frames = (splitter.drain buffer).1 ++ (splitter.drain ((splitter.drain buffer).2 ++ more)).1 := by
  have whole := drain_frames complete []
  rw [List.append_nil, ← cut, drain_append, drain_of_none splitter.unpack_nil,
    List.append_nil] at whole
  exact (congrArg Prod.fst whole).symm

/-- They are those that end within it. -/
theorem prefix_drain_iff (complete : ∀ frame ∈ frames, splitter.Complete frame)
    (cut : buffer ++ more = frames.flatten) {first : List (List Symbol)}
    (initial : first <+: frames) :
    first <+: (splitter.drain buffer).1 ↔ first.flatten.length ≤ buffer.length := by
  constructor
  · intro drained
    obtain ⟨others, whole⟩ := drained
    have size := congrArg List.length (splitter.flatten_drain buffer)
    rw [← whole, List.flatten_append] at size
    simp only [List.length_append] at size
    omega
  · intro short
    obtain ⟨later, rfl⟩ := initial
    have here : first.flatten <+: buffer := by
      refine List.prefix_of_prefix_length_le ⟨later.flatten, ?_⟩ ⟨more, cut⟩ short
      rw [List.flatten_append]
    obtain ⟨left, rfl⟩ := here
    rw [drain_frames fun frame member => complete frame (List.mem_append_left _ member)]
    exact List.prefix_append _ _

end Splitter

end OctoChannel.Foundation
