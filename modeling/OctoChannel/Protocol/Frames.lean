import Mathlib.Tactic.Ring
import OctoChannel.Foundation.Framing
import OctoChannel.Foundation.Text

namespace OctoChannel.Protocol

open Foundation

inductive PacketType where
  | connect
  | connack
  | send
  | sendack
  | recv
  | recvack
  | ping
  | pong
  | disconnect
  deriving DecidableEq

def PacketType.code : PacketType → Nat
  | .connect => 1
  | .connack => 2
  | .send => 3
  | .sendack => 4
  | .recv => 5
  | .recvack => 6
  | .ping => 7
  | .pong => 8
  | .disconnect => 9

/-- `first_byte >> 4`. -/
def packetType (header : UInt8) : Nat := header.toNat >>> 4

/-- The loop of `encode_variable_length`: seven bits a byte, lowest first. -/
def lengthDigits (length : Nat) : Bytes :=
  if length = 0 then []
  else
    let digit := length % 0x80
    let rest := length / 0x80
    UInt8.ofNat (if rest > 0 then digit ||| 0x80 else digit) :: lengthDigits rest

def encodeVariableLength (length : Nat) : Bytes :=
  if length = 0 then [0x00] else lengthDigits length

/-- The length loop of `try_unpack_one` over the bytes from `pos` on: the position
after the length, and the length; `none` when the buffer ends inside it. -/
def remainingLength : Bytes → Nat → Nat → Nat → Option (Nat × Nat)
  | [], _, _, _ => none
  | digit :: rest, pos, remLength, multiplier =>
    let remLength := remLength + (digit.toNat &&& 127) * multiplier
    if digit.toNat &&& 0x80 = 0 then some (pos + 1, remLength)
    else remainingLength rest (pos + 1) remLength (multiplier * 128)

/-- PONG and PING are single-byte frames. -/
def singleByte (header : UInt8) : Prop :=
  packetType header = PacketType.pong.code ∨ packetType header = PacketType.ping.code

instance (header : UInt8) : Decidable (singleByte header) :=
  inferInstanceAs (Decidable (_ ∨ _))

/-- `try_unpack_one`: the frame, when a complete one starts the buffer, and the
remaining buffer. -/
def tryUnpackOne : Bytes → Option Bytes × Bytes
  | [] => (none, [])
  | header :: rest =>
    if singleByte header then (some [header], rest)
    else
      let fixedHeaderLength := 1
      match remainingLength rest fixedHeaderLength 0 1 with
      | none => (none, header :: rest)
      | some (pos, remLength) =>
        let totalLength := fixedHeaderLength + (pos - fixedHeaderLength) + remLength
        if totalLength > (header :: rest).length then (none, header :: rest)
        else (some ((header :: rest).take totalLength), (header :: rest).drop totalLength)

/-- A well-formed frame: a single-byte PING or PONG, or any other type with its
length and its body. -/
inductive Frame where
  | control (header : UInt8) (single : singleByte header)
  | packet (header : UInt8) (body : Bytes) (long : ¬ singleByte header)

def Frame.bytes : Frame → Bytes
  | .control header _ => [header]
  | .packet header body _ => header :: encodeVariableLength body.length ++ body

private theorem digit_low (digit : Nat) (small : digit < 128) :
    (UInt8.ofNat digit).toNat &&& 127 = digit ∧ (UInt8.ofNat digit).toNat &&& 0x80 = 0 := by
  have all : ∀ digit : Fin 128, (UInt8.ofNat digit.val).toNat &&& 127 = digit.val ∧
      (UInt8.ofNat digit.val).toNat &&& 0x80 = 0 := by decide
  exact all ⟨digit, small⟩

private theorem digit_more (digit : Nat) (small : digit < 128) :
    (UInt8.ofNat (digit ||| 0x80)).toNat &&& 127 = digit ∧
      (UInt8.ofNat (digit ||| 0x80)).toNat &&& 0x80 ≠ 0 := by
  have all : ∀ digit : Fin 128, (UInt8.ofNat (digit.val ||| 0x80)).toNat &&& 127 = digit.val ∧
      (UInt8.ofNat (digit.val ||| 0x80)).toNat &&& 0x80 ≠ 0 := by decide
  exact all ⟨digit, small⟩

private theorem remainingLength_lengthDigits (length : Nat) (positive : length ≠ 0) (rest : Bytes)
    (pos remLength multiplier : Nat) :
    remainingLength (lengthDigits length ++ rest) pos remLength multiplier =
      some (pos + (lengthDigits length).length, remLength + length * multiplier) := by
  induction length using Nat.strong_induction_on generalizing pos remLength multiplier with
  | _ length ih =>
    have small : length % 0x80 < 128 := Nat.mod_lt _ (by decide)
    have split := Nat.mod_add_div length 0x80
    rw [lengthDigits, if_neg positive]
    dsimp only
    by_cases last : length / 0x80 = 0
    · obtain ⟨low, stop⟩ := digit_low _ small
      rw [last, lengthDigits, if_neg (by decide), if_pos rfl]
      simp only [List.cons_append, remainingLength, low, stop, if_true, List.length_singleton]
      rw [last] at split
      rw [show length % 0x80 = length by omega]
    · obtain ⟨low, more⟩ := digit_more _ small
      have smaller : length / 0x80 < length := Nat.div_lt_self (by omega) (by decide)
      rw [if_pos (by omega)]
      simp only [List.cons_append, remainingLength, low, more, if_false,
        ih (length / 0x80) smaller last, List.length_cons, Option.some.injEq, Prod.mk.injEq]
      refine ⟨by omega, ?_⟩
      calc remLength + length % 0x80 * multiplier + length / 0x80 * (multiplier * 128)
          = remLength + (length % 0x80 + 0x80 * (length / 0x80)) * multiplier := by ring
        _ = remLength + length * multiplier := by rw [split]

/-- The length loop reads back every encoded length. -/
theorem remainingLength_encode (length : Nat) (rest : Bytes) (pos : Nat) :
    remainingLength (encodeVariableLength length ++ rest) pos 0 1 =
      some (pos + (encodeVariableLength length).length, length) := by
  rw [encodeVariableLength]
  split
  · rename_i zero
    simp [remainingLength, zero]
  · rename_i positive
    rw [remainingLength_lengthDigits length positive]
    simp

/-- The length loop stops within the buffer, at least one byte on. -/
theorem remainingLength_bounds {buffer : Bytes} {pos remLength multiplier after total : Nat}
    (read : remainingLength buffer pos remLength multiplier = some (after, total)) :
    pos < after ∧ after ≤ pos + buffer.length := by
  induction buffer generalizing pos remLength multiplier with
  | nil => cases read
  | cons digit rest ih =>
    rw [remainingLength] at read
    split at read
    · cases read
      simp
    · have inner := ih read
      rw [List.length_cons]
      omega

/-- Bytes behind a complete length do not change it. -/
private theorem remainingLength_append {buffer : Bytes} {pos remLength multiplier : Nat}
    {result : Nat × Nat} (read : remainingLength buffer pos remLength multiplier = some result)
    (more : Bytes) : remainingLength (buffer ++ more) pos remLength multiplier = some result := by
  induction buffer generalizing pos remLength multiplier with
  | nil => cases read
  | cons digit rest ih =>
    rw [remainingLength] at read
    rw [List.cons_append, remainingLength]
    split at read
    · rename_i stop
      rw [if_pos stop, read]
    · rename_i more
      rw [if_neg more, ih read]

/-- A length is read from its own bytes only. -/
theorem remainingLength_take {buffer : Bytes} {pos remLength multiplier after total size : Nat}
    (read : remainingLength buffer pos remLength multiplier = some (after, total))
    (enough : after ≤ pos + size) :
    remainingLength (buffer.take size) pos remLength multiplier = some (after, total) := by
  induction buffer generalizing pos remLength multiplier size with
  | nil => cases read
  | cons digit rest ih =>
    have bounds := remainingLength_bounds read
    obtain ⟨size, rfl⟩ : ∃ before, size = before + 1 := ⟨size - 1, by omega⟩
    rw [remainingLength] at read
    rw [List.take_succ_cons, remainingLength]
    split at read
    · rename_i stop
      rw [if_pos stop, read]
    · rename_i more
      rw [if_neg more, ih read (by omega)]

theorem tryUnpackOne_control {header : UInt8} (single : singleByte header) (rest : Bytes) :
    tryUnpackOne (header :: rest) = (some [header], rest) := by
  rw [tryUnpackOne, if_pos single]

/-- A long frame is taken as soon as its length is there and the buffer holds as
many bytes. -/
theorem tryUnpackOne_eq_some_iff {header : UInt8} (long : ¬ singleByte header)
    {rest frame remaining : Bytes} :
    tryUnpackOne (header :: rest) = (some frame, remaining) ↔
      ∃ pos remLength, remainingLength rest 1 0 1 = some (pos, remLength) ∧
        pos + remLength ≤ (header :: rest).length ∧
        frame = (header :: rest).take (pos + remLength) ∧
        remaining = (header :: rest).drop (pos + remLength) := by
  rw [tryUnpackOne, if_neg long]
  dsimp only
  cases read : remainingLength rest 1 0 1 with
  | none => simp
  | some result =>
    obtain ⟨pos, remLength⟩ := result
    have bounds := remainingLength_bounds read
    have total : 1 + (pos - 1) + remLength = pos + remLength := by omega
    dsimp only
    rw [total]
    split
    · rename_i short
      constructor
      · intro never
        cases never
      · rintro ⟨pos', remLength', same, fits, -⟩
        cases same
        omega
    · rename_i fits
      constructor
      · intro taken
        cases taken
        exact ⟨pos, remLength, rfl, by omega, rfl, rfl⟩
      · rintro ⟨pos', remLength', same, -, rfl, rfl⟩
        cases same
        rfl

private theorem parts_tryUnpackOne {buffer frame rest : Bytes}
    (taken : tryUnpackOne buffer = (some frame, rest)) : buffer = frame ++ rest ∧ frame ≠ [] := by
  cases buffer with
  | nil => cases taken
  | cons header body =>
    by_cases single : singleByte header
    · rw [tryUnpackOne_control single] at taken
      cases taken
      exact ⟨rfl, List.cons_ne_nil _ _⟩
    · obtain ⟨pos, remLength, read, -, rfl, rfl⟩ := (tryUnpackOne_eq_some_iff single).mp taken
      have bounds := remainingLength_bounds read
      refine ⟨(List.take_append_drop _ _).symm, ?_⟩
      rw [show pos + remLength = pos - 1 + remLength + 1 by omega, List.take_succ_cons]
      exact List.cons_ne_nil _ _

private theorem kept_tryUnpackOne {buffer : Bytes} (stuck : (tryUnpackOne buffer).1 = none) :
    (tryUnpackOne buffer).2 = buffer := by
  cases buffer with
  | nil => rfl
  | cons header body =>
    rw [tryUnpackOne] at stuck ⊢
    split at stuck
    · cases stuck
    · rename_i long
      rw [if_neg long]
      dsimp only at stuck ⊢
      cases read : remainingLength body 1 0 1 with
      | none => rfl
      | some result =>
        rw [read] at stuck
        dsimp only at stuck ⊢
        split at stuck
        · rename_i short
          rw [if_pos short]
        · cases stuck

private theorem settled_tryUnpackOne {buffer frame rest : Bytes} (more : Bytes)
    (taken : tryUnpackOne buffer = (some frame, rest)) :
    tryUnpackOne (buffer ++ more) = (some frame, rest ++ more) := by
  cases buffer with
  | nil => cases taken
  | cons header body =>
    by_cases single : singleByte header
    · rw [tryUnpackOne_control single] at taken
      cases taken
      exact tryUnpackOne_control single _
    · obtain ⟨pos, remLength, read, fits, rfl, rfl⟩ := (tryUnpackOne_eq_some_iff single).mp taken
      refine (tryUnpackOne_eq_some_iff single).mpr
        ⟨pos, remLength, remainingLength_append read more, ?_, ?_, ?_⟩
      · change pos + remLength ≤ ((header :: body) ++ more).length
        rw [List.length_append]
        omega
      · exact (List.take_append_of_le_length fits).symm
      · exact (List.drop_append_of_le_length fits).symm

/-- The wire format as a splitter. -/
def wire : Splitter UInt8 where
  unpack := tryUnpackOne
  kept _ stuck := kept_tryUnpackOne stuck
  parts _ _ _ taken := (parts_tryUnpackOne taken).1
  nonempty _ _ _ taken := (parts_tryUnpackOne taken).2
  settled _ _ _ more taken := settled_tryUnpackOne more taken

theorem complete_frame (frame : Frame) : wire.Complete frame.bytes := by
  cases frame with
  | control header single => exact tryUnpackOne_control single []
  | packet header body long =>
    have size : (header :: encodeVariableLength body.length ++ body).length =
        1 + (encodeVariableLength body.length).length + body.length := by
      simp only [List.cons_append, List.length_cons, List.length_append]
      omega
    refine (tryUnpackOne_eq_some_iff long).mpr
      ⟨_, _, remainingLength_encode body.length body 1, ?_, ?_, ?_⟩
    · exact size.ge
    · exact (List.take_of_length_le size.le).symm
    · exact (List.drop_of_length_le size.le).symm

/-- However the stream of frames and an incomplete last one is cut into messages,
the buffer loop takes exactly the frames, in order, and keeps the incomplete rest;
every frame taken shortens the buffer. -/
theorem reassembles (frames : List Frame) (last : Frame) (tail more : Bytes)
    (cut : last.bytes = tail ++ more) (proper : more ≠ []) (messages : List Bytes)
    (stream : messages.flatten = (frames.map Frame.bytes).flatten ++ tail) :
    wire.feed [] messages = (frames.map Frame.bytes, tail) ∧
      ∀ buffer frame rest, tryUnpackOne buffer = (some frame, rest) →
        rest.length < buffer.length := by
  constructor
  · refine Splitter.feed_frames ?_ ?_ proper stream
    · rintro bytes member
      obtain ⟨frame, -, rfl⟩ := List.mem_map.mp member
      exact complete_frame frame
    · rw [← cut]
      exact complete_frame last
  · intro buffer frame rest taken
    exact wire.shortens taken

/-- A RECV frame cut inside its header and a PONG glued to the next RECV. -/
theorem reassembles_recv : wire.feed [] [[0x50], [0x01], [0x07, 0x80, 0x50]] =
    ([[0x50, 0x01, 0x07], [0x80]], [0x50]) := by
  have bytes : (Frame.packet 0x50 [0x07] (by decide)).bytes = [0x50, 0x01, 0x07] := by
    simp [Frame.bytes, encodeVariableLength, lengthDigits]
  have fed := (reassembles [.packet 0x50 [0x07] (by decide), .control 0x80 (by decide)]
    (.packet 0x50 [0x07] (by decide)) [0x50] [0x01, 0x07] bytes (by decide)
    [[0x50], [0x01], [0x07, 0x80, 0x50]] (by rw [List.map_cons, bytes]; rfl)).1
  rw [List.map_cons, bytes] at fed
  exact fed

end OctoChannel.Protocol
