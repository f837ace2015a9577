import OctoChannel.Protocol.Packets

/-! The two readers of a frame's length: the unbounded loop of `try_unpack_one` and
the four rounds of `read_variable_length`. -/

namespace OctoChannel.Protocol

open Foundation Decoder

/-- The byte carries the top bit that announces another one. -/
def continues (byte : UInt8) : Prop := byte.toNat &&& 0x80 ≠ 0

instance (byte : UInt8) : Decidable (continues byte) :=
  inferInstanceAs (Decidable (_ ≠ _))

/-- The length ends within its first `rounds` bytes. -/
def EndsWithin (rounds : Nat) (data : Bytes) : Prop :=
  ∃ byte ∈ data.take rounds, ¬ continues byte

instance (rounds : Nat) (data : Bytes) : Decidable (EndsWithin rounds data) :=
  inferInstanceAs (Decidable (∃ byte ∈ data.take rounds, ¬ continues byte))

/-- What `decode_packet` reads in front of the body. -/
def readHeader : Decoder Nat := do
  let _header ← readByte
  readVariableLength

/-- What `try_unpack_one` finds in front of a long frame's body: where the body
starts, and its length. -/
def framing : Bytes → Option (Nat × Nat)
  | [] => none
  | header :: rest => if singleByte header then none else remainingLength rest 1 0 1

/-- The decoder's header step agrees with the framing on a frame taken from the
buffer, and the body is what is left of the frame. -/
def HeaderAgrees (buffer frame : Bytes) : Prop :=
  ∀ pos remLength, framing buffer = some (pos, remLength) →
    readHeader frame = .ok (remLength, frame.drop pos) ∧ (frame.drop pos).length = remLength

theorem endsWithin_zero (data : Bytes) : ¬ EndsWithin 0 data := by
  rintro ⟨byte, member, -⟩
  cases member

theorem endsWithin_nil (rounds : Nat) : ¬ EndsWithin rounds [] := by
  rintro ⟨byte, member, -⟩
  rw [List.take_nil] at member
  cases member

theorem endsWithin_cons {rounds : Nat} {byte : UInt8} {rest : Bytes} :
    EndsWithin (rounds + 1) (byte :: rest) ↔ ¬ continues byte ∨ EndsWithin rounds rest := by
  simp only [EndsWithin, List.take_succ_cons, List.mem_cons]
  constructor
  · rintro ⟨found, rfl | member, stops⟩
    · exact .inl stops
    · exact .inr ⟨found, member, stops⟩
  · rintro (stops | ⟨found, member, stops⟩)
    · exact ⟨byte, .inl rfl, stops⟩
    · exact ⟨found, .inr member, stops⟩

/-- The position behind a length tells how many bytes it took. -/
theorem endsWithin_iff {data : Bytes} {pos remLength multiplier after total : Nat} (rounds : Nat)
    (read : remainingLength data pos remLength multiplier = some (after, total)) :
    EndsWithin rounds data ↔ after ≤ pos + rounds := by
  induction data generalizing pos remLength multiplier rounds with
  | nil => cases read
  | cons byte rest ih =>
    have bounds := remainingLength_bounds read
    rw [remainingLength] at read
    cases rounds with
    | zero =>
      constructor
      · exact fun ends => absurd ends (endsWithin_zero _)
      · intro early
        omega
    | succ rounds =>
      rw [endsWithin_cons]
      split at read
      · rename_i stops
        cases read
        constructor
        · intro _
          omega
        · exact fun _ => .inl (not_not.mpr stops)
      · rename_i more
        have inner := ih rounds read
        constructor
        · rintro (stops | later)
          · exact absurd more stops
          · have := inner.mp later
            omega
        · exact fun early => .inr (inner.mpr (by omega))

/-- Adding a digit above the bits read so far is setting its bits. -/
theorem or_shiftLeft {value shift : Nat} (small : value < 2 ^ shift) (digit : Nat) :
    value ||| digit <<< shift = value + digit * 2 ^ shift := by
  rw [Nat.or_comm, ← Nat.shiftLeft_add_eq_or_of_lt small, Nat.shiftLeft_eq, Nat.add_comm]

theorem add_digit_lt {value shift : Nat} (small : value < 2 ^ shift) (byte : UInt8) :
    value + (byte.toNat &&& 127) * 2 ^ shift < 2 ^ (shift + 7) := by
  have digit : byte.toNat &&& 127 < 128 := Nat.lt_of_le_of_lt Nat.and_le_right (by decide)
  rw [Nat.pow_add]
  nlinarith

theorem readLengthFrom_cons (rounds shift value : Nat) (byte : UInt8) (rest : Bytes) :
    readLengthFrom (rounds + 1) shift value (byte :: rest) =
      if byte.toNat &&& 0x80 = 0 then .ok (value ||| (byte.toNat &&& 127) <<< shift, rest)
      else readLengthFrom rounds (shift + 7) (value ||| (byte.toNat &&& 127) <<< shift) rest := by
  rw [readLengthFrom]
  simp only [bind, StateT.bind, readByte, Except.bind]
  split
  · rfl
  · rfl

/-- A length within the four rounds is read alike by both loops. -/
theorem readLengthFrom_of_endsWithin {rounds shift remLength pos after total : Nat} {data : Bytes}
    (small : remLength < 2 ^ shift) (ends : EndsWithin rounds data)
    (read : remainingLength data pos remLength (2 ^ shift) = some (after, total)) :
    readLengthFrom rounds shift remLength data = .ok (total, data.drop (after - pos)) := by
  induction rounds generalizing shift remLength pos data with
  | zero => exact absurd ends (endsWithin_zero data)
  | succ rounds ih =>
    cases data with
    | nil => cases read
    | cons byte rest =>
      rw [endsWithin_cons] at ends
      rw [remainingLength] at read
      rw [readLengthFrom_cons, or_shiftLeft small]
      split at read
      · rename_i stops
        cases read
        rw [if_pos stops, Nat.add_sub_cancel_left]
        rfl
      · rename_i more
        rw [if_neg more]
        have later : EndsWithin rounds rest := ends.resolve_left (not_not.mpr more)
        rw [show 2 ^ shift * 128 = 2 ^ (shift + 7) by rw [Nat.pow_add]] at read
        have bounds := remainingLength_bounds read
        have inner := ih (add_digit_lt small byte) later read
        rw [inner, show after - pos = after - (pos + 1) + 1 by omega, List.drop_succ_cons]

/-- Without an end in its rounds the bounded loop leaves off where they are over. -/
theorem readLengthFrom_of_not_endsWithin {rounds : Nat} (shift value : Nat) {data : Bytes}
    (long : rounds ≤ data.length) (unended : ¬ EndsWithin rounds data) :
    ∃ total, readLengthFrom rounds shift value data = .ok (total, data.drop rounds) := by
  induction rounds generalizing shift value data with
  | zero => exact ⟨value, rfl⟩
  | succ rounds ih =>
    cases data with
    | nil => cases long
    | cons byte rest =>
      rw [endsWithin_cons, not_or, not_not] at unended
      rw [readLengthFrom_cons, if_neg unended.1]
      obtain ⟨total, read⟩ := ih (shift + 7) (value ||| ((byte.toNat &&& 127) <<< shift))
        (Nat.le_of_succ_le_succ long) unended.2
      exact ⟨total, read⟩

/-- `decode_packet` decodes the body behind its header step. -/
theorem decodeBody_eq (packetType : Nat) (hasServerVersion : Bool) :
    decodeBody packetType hasServerVersion = do
      let _remainingLength ← readHeader
      if packetType = PacketType.connack.code then
        return .connack (← decodeConnack hasServerVersion)
      else if packetType = PacketType.recv.code then return .recv (← decodeRecv)
      else if packetType = PacketType.disconnect.code then decodeDisconnect
      else return .other packetType := by
  rw [readHeader, bind_assoc]
  rfl

theorem readHeader_cons (header : UInt8) (rest : Bytes) :
    readHeader (header :: rest) = readVariableLength rest := rfl

/-- The length of a long frame can be read in the frame itself. -/
private theorem framed_of_taken {header : UInt8} {rest frame remaining : Bytes}
    (long : ¬ singleByte header) (taken : tryUnpackOne (header :: rest) = (some frame, remaining)) :
    ∃ inner pos remLength, frame = header :: inner ∧ rest = inner ++ remaining ∧
      remainingLength rest 1 0 1 = some (pos, remLength) ∧
      remainingLength inner 1 0 1 = some (pos, remLength) ∧ frame.length = pos + remLength := by
  obtain ⟨pos, remLength, read, fits, rfl, rfl⟩ := (tryUnpackOne_eq_some_iff long).mp taken
  have bounds := remainingLength_bounds read
  obtain ⟨size, whole⟩ : ∃ size, pos + remLength = size + 1 := ⟨pos + remLength - 1, by omega⟩
  refine ⟨rest.take size, pos, remLength, ?_, ?_, read, ?_, ?_⟩
  · rw [whole, List.take_succ_cons]
  · rw [whole, List.drop_succ_cons, List.take_append_drop]
  · exact remainingLength_take read (by omega)
  · rw [List.length_take, Nat.min_eq_left fits]

/-- On a taken frame the header step of `decode_packet` reads what the framing read
exactly when the frame has no length, or its length ends within four bytes. -/
theorem headerAgrees_iff {buffer frame remaining : Bytes}
    (taken : tryUnpackOne buffer = (some frame, remaining)) :
    HeaderAgrees buffer frame ↔
      ∀ header rest, buffer = header :: rest → ¬ singleByte header → EndsWithin 4 rest := by
  cases buffer with
  | nil => cases taken
  | cons header rest =>
    by_cases single : singleByte header
    · constructor
      · rintro - header' rest' same long
        cases same
        exact absurd single long
      · intro _ pos remLength read
        rw [framing, if_pos single] at read
        cases read
    · obtain ⟨inner, pos, remLength, rfl, rfl, read, own, size⟩ := framed_of_taken single taken
      have bounds := remainingLength_bounds own
      have same : EndsWithin 4 inner ↔ EndsWithin 4 (inner ++ remaining) := by
        rw [endsWithin_iff 4 own, endsWithin_iff 4 read]
      have body : (header :: inner).drop pos = inner.drop (pos - 1) := by
        obtain ⟨before, rfl⟩ : ∃ before, pos = before + 1 := ⟨pos - 1, by omega⟩
        rw [List.drop_succ_cons, Nat.add_sub_cancel]
      constructor
      · rintro agrees header' rest' split -
        cases split
        by_contra unended
        have framed : framing (header :: (inner ++ remaining)) = some (pos, remLength) := by
          rw [framing, if_neg single, read]
        have far : ¬ pos ≤ 1 + 4 := fun near => unended ((endsWithin_iff 4 read).mpr near)
        obtain ⟨total, early⟩ := readLengthFrom_of_not_endsWithin 0 0
          (by omega : 4 ≤ inner.length) (mt same.mp unended)
        have decoded := (agrees pos remLength framed).1
        rw [readHeader_cons, body] at decoded
        have left := (Prod.mk.inj (Except.ok.inj (early.symm.trans decoded))).2
        have lengths := congrArg List.length left
        rw [List.length_drop, List.length_drop] at lengths
        omega
      · intro ends pos' remLength' framed
        rw [framing, if_neg single, read] at framed
        cases framed
        have within : EndsWithin 4 inner := same.mpr (ends header _ rfl single)
        constructor
        · rw [readHeader_cons, body]
          exact readLengthFrom_of_endsWithin (by decide) within own
        · rw [List.length_drop, size, Nat.add_sub_cancel_left]

/-- Padded to two bytes, a length is still read alike. -/
theorem headerAgrees_iff_padded : HeaderAgrees [0x50, 0x81, 0x00, 0x07] [0x50, 0x81, 0x00, 0x07] :=
  (@headerAgrees_iff [0x50, 0x81, 0x00, 0x07] _ [] (by decide)).mpr (by
    intro header rest same _
    cases same
    decide)

/-- A CONNACK whose zero length is padded to five bytes is taken whole, but its last
length byte is decoded as the body's first. -/
theorem padded_not_headerAgrees :
    tryUnpackOne [0x20, 0x80, 0x80, 0x80, 0x80, 0x00] =
        (some [0x20, 0x80, 0x80, 0x80, 0x80, 0x00], []) ∧
      ¬ HeaderAgrees [0x20, 0x80, 0x80, 0x80, 0x80, 0x00] [0x20, 0x80, 0x80, 0x80, 0x80, 0x00] := by
  constructor
  · decide
  · intro agrees
    have header := (agrees 6 0 (by decide)).1
    cases header

end OctoChannel.Protocol
