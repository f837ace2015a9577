import Mathlib
import OctoChannel.Foundation.Layout
import OctoChannel.Protocol.Headers

/-! The layouts of the decoded packets, field by field, and what `decode_packet` does
with data that do not follow them. -/

namespace OctoChannel.Protocol

open Foundation Decoder

abbrev WireField := Field UInt8 PyError PyError.IsValueError

abbrev WireLayout := Layout UInt8 PyError PyError.IsValueError

private theorem structError_wrong : ¬ PyError.IsValueError .structError := id

private theorem indexError_wrong : ¬ PyError.IsValueError .indexError := id

/-- The big-endian number of some bytes. -/
def bigEndian (bytes : Bytes) : Nat :=
  bytes.foldl (fun value byte => value * 256 + byte.toNat) 0

private theorem readInt_of_length {count : Nat} {bytes : Bytes} (size : bytes.length = count)
    (rest : Bytes) : readInt count (bytes ++ rest) = .ok (bigEndian bytes, rest) := by
  subst size
  rw [readInt, if_neg (by rw [List.length_append]; omega), List.take_left, List.drop_left]
  rfl

private theorem reading_readInt (count : Nat) (data : Bytes) :
    Reading PyError.IsValueError (fun value bytes => bytes.length = count ∧ value = bigEndian bytes)
      (fun data => count ≤ data.length) (readInt count) data := by
  by_cases enough : count ≤ data.length
  · exact .spelled enough (List.take_append_drop count data).symm
      ⟨by rw [List.length_take, Nat.min_eq_left enough], rfl⟩
  · refine .broken enough ?_ structError_wrong
    rw [readInt, if_pos (by omega)]

/-- A big-endian number of `count + 1` bytes. -/
def intField (count : Nat) : WireField where
  Value := Nat
  spells value bytes := bytes.length = count + 1 ∧ value = bigEndian bytes
  whole data := count + 1 ≤ data.length
  read := readInt (count + 1)
  reads := by
    rintro value bytes rest ⟨size, rfl⟩
    exact readInt_of_length size rest
  present := by
    rintro value bytes rest ⟨size, -⟩
    rw [List.length_append]
    omega
  reading := reading_readInt (count + 1)
  hollow := Nat.not_succ_le_zero count

def byteField : WireField where
  Value := Nat
  spells value bytes := ∃ byte : UInt8, bytes = [byte] ∧ value = byte.toNat
  whole data := data ≠ []
  read := readByte
  reads := by
    rintro value bytes rest ⟨byte, rfl, rfl⟩
    rfl
  present := by
    rintro value bytes rest ⟨byte, rfl, -⟩
    exact List.cons_ne_nil _ _
  reading := by
    intro data
    cases data with
    | nil => exact .broken (not_not.mpr rfl) rfl indexError_wrong
    | cons byte rest =>
      exact @Reading.spelled _ _ _ _ _ _ _ _ byte.toNat [byte] rest (List.cons_ne_nil _ _) rfl
        ⟨byte, rfl, rfl⟩
  hollow := not_not.mpr rfl

/-- The declared length of a text. -/
def declared (data : Bytes) : Nat := bigEndian (data.take 2)

/-- Both length bytes are there, and as many bytes as they declare, or the bytes that
are there are no UTF-8. -/
def TextWhole (data : Bytes) : Prop :=
  2 ≤ data.length ∧
    (utf8Decode ((data.drop 2).take (declared data)) = none ∨ 2 + declared data ≤ data.length)

instance (data : Bytes) : Decidable (TextWhole data) := inferInstanceAs (Decidable (_ ∧ _))

/-- Two length bytes, and as many bytes of UTF-8. -/
def TextSpelled (text : PyStr) (bytes : Bytes) : Prop :=
  ∃ size raw, bytes = size ++ raw ∧ size.length = 2 ∧ bigEndian size = raw.length ∧
    utf8Encode text = some raw

private theorem utf8Decode_nil : utf8Decode [] = some [] :=
  utf8Decode_of_encode rfl

theorem readString_eq (data : Bytes) :
    readString data =
      if data.length < 2 then .error .structError
      else
        match utf8Decode ((data.drop 2).take (declared data)) with
        | none => .error .unicodeError
        | some text => .ok (text, (data.drop 2).drop (declared data)) := by
  by_cases short : data.length < 2
  · simp only [readString, readInt16, readInt, bind, StateT.bind, short, if_true, Except.bind]
  · rw [if_neg short]
    have size : readInt16 data = .ok (declared data, data.drop 2) := if_neg short
    simp only [readString, bind, StateT.bind, size, Except.bind]
    by_cases zero : declared data = 0
    · rw [if_pos zero, zero, List.take_zero, utf8Decode_nil]
      rfl
    · rw [if_neg zero]
      simp only [StateT.bind, bind, get, getThe, MonadStateOf.get, StateT.get, set, StateT.set,
        pure, Except.pure, Except.bind]
      cases utf8Decode ((data.drop 2).take (declared data)) with
      | none => rfl
      | some text => rfl

private theorem text_front {text : PyStr} {bytes : Bytes} (spelling : TextSpelled text bytes)
    (rest : Bytes) :
    2 + declared (bytes ++ rest) = bytes.length ∧ bytes.length = 2 + (bytes.length - 2) ∧
      utf8Decode (((bytes ++ rest).drop 2).take (declared (bytes ++ rest))) = some text := by
  obtain ⟨size, raw, rfl, two, same, encoded⟩ := spelling
  have length : declared (size ++ raw ++ rest) = raw.length := by
    rw [declared, List.append_assoc, List.take_left' two, same]
  have front : (size ++ raw ++ rest).drop 2 = raw ++ rest := by
    rw [List.append_assoc, List.drop_left' two]
  refine ⟨?_, ?_, ?_⟩
  · rw [length, List.length_append, two]
  · rw [List.length_append]
    omega
  · rw [length, front, List.take_left]
    exact utf8Decode_of_encode encoded

private theorem readString_of_spelled {text : PyStr} {bytes : Bytes}
    (spelling : TextSpelled text bytes) (rest : Bytes) :
    readString (bytes ++ rest) = .ok (text, rest) := by
  obtain ⟨size, long, decoded⟩ := text_front spelling rest
  have behind : ((bytes ++ rest).drop 2).drop (declared (bytes ++ rest)) = rest := by
    rw [List.drop_drop, size, List.drop_left]
  rw [readString_eq, if_neg (by rw [List.length_append]; omega), decoded, behind]

private theorem textWhole_of_spelled {text : PyStr} {bytes : Bytes}
    (spelling : TextSpelled text bytes) (rest : Bytes) : TextWhole (bytes ++ rest) := by
  obtain ⟨size, long, -⟩ := text_front spelling rest
  rw [TextWhole, List.length_append]
  exact ⟨by omega, .inr (by omega)⟩

private theorem reading_readString (data : Bytes) :
    Reading PyError.IsValueError TextSpelled TextWhole readString data := by
  by_cases short : data.length < 2
  · refine .broken (fun there => absurd there.1 (by omega)) ?_ structError_wrong
    rw [readString_eq, if_pos short]
  · cases decoded : utf8Decode ((data.drop 2).take (declared data)) with
    | none =>
      have failed : readString data = .error .unicodeError := by
        rw [readString_eq, if_neg short, decoded]
      exact .refused ⟨by omega, .inl decoded⟩ failed trivial
    | some text =>
      by_cases enough : 2 + declared data ≤ data.length
      · refine .spelled ⟨by omega, .inr enough⟩
          (List.take_append_drop (2 + declared data) data).symm
          ⟨data.take 2, (data.drop 2).take (declared data), List.take_add, ?_, ?_,
            utf8Encode_of_decode decoded⟩
        · rw [List.length_take]
          omega
        · rw [List.length_take, List.length_drop, Nat.min_eq_left (by omega), declared]
      · have taken : readString data = .ok (text, []) := by
          rw [readString_eq, if_neg short, decoded]
          dsimp only
          rw [List.drop_drop, List.drop_of_length_le (by omega)]
        refine .cut ?_ taken
        rintro ⟨-, broken | long⟩
        · rw [decoded] at broken
          cases broken
        · exact enough long

def textField : WireField where
  Value := PyStr
  spells := TextSpelled
  whole := TextWhole
  read := readString
  reads _ _ rest spelling := readString_of_spelled spelling rest
  present _ _ rest spelling := textWhole_of_spelled spelling rest
  reading := reading_readString
  hollow there := absurd there.1 (by decide)

/-- Up to `rounds` bytes, of which only the last may end the length. -/
def LengthSpelled : Nat → Bytes → Prop
  | 0, bytes => bytes = []
  | _ + 1, [] => False
  | rounds + 1, byte :: rest => if continues byte then LengthSpelled rounds rest else rest = []

/-- Seven bits a byte, lowest first. -/
def lengthValue (bytes : Bytes) : Nat :=
  Nat.ofDigits 128 (bytes.map fun byte => byte.toNat &&& 127)

private theorem readLengthFrom_of_spelled {rounds : Nat} {bytes : Bytes}
    (spelling : LengthSpelled rounds bytes) (rest : Bytes) {shift value : Nat}
    (small : value < 2 ^ shift) :
    readLengthFrom rounds shift value (bytes ++ rest) =
      .ok (value + lengthValue bytes * 2 ^ shift, rest) := by
  induction rounds generalizing bytes shift value with
  | zero =>
    obtain rfl := spelling
    simp [readLengthFrom, lengthValue, pure, StateT.pure, Except.pure]
  | succ rounds ih =>
    cases bytes with
    | nil => exact spelling.elim
    | cons byte tail =>
      rw [List.cons_append, readLengthFrom_cons, or_shiftLeft small]
      have digits : lengthValue (byte :: tail) = (byte.toNat &&& 127) + 128 * lengthValue tail := by
        simp [lengthValue, Nat.ofDigits_cons]
      by_cases more : continues byte
      · rw [LengthSpelled, if_pos more] at spelling
        rw [if_neg more, ih spelling (add_digit_lt small byte), digits, Nat.pow_add]
        congr 2
        ring
      · rw [LengthSpelled, if_neg more] at spelling
        subst spelling
        rw [if_pos (not_not.mp more), digits]
        simp [lengthValue]

/-- The length ends, or all of its rounds are there. -/
def LengthWhole (rounds : Nat) (data : Bytes) : Prop :=
  EndsWithin rounds data ∨ rounds ≤ data.length

instance (rounds : Nat) (data : Bytes) : Decidable (LengthWhole rounds data) :=
  inferInstanceAs (Decidable (_ ∨ _))

private theorem lengthWhole_cons {rounds : Nat} {byte : UInt8} {rest : Bytes} :
    LengthWhole (rounds + 1) (byte :: rest) ↔ ¬ continues byte ∨ LengthWhole rounds rest := by
  rw [LengthWhole, LengthWhole, endsWithin_cons, or_assoc, List.length_cons,
    Nat.add_le_add_iff_right]

private theorem lengthWhole_of_spelled {rounds : Nat} {bytes : Bytes}
    (spelling : LengthSpelled rounds bytes) (rest : Bytes) : LengthWhole rounds (bytes ++ rest) := by
  induction rounds generalizing bytes with
  | zero => exact .inr (Nat.zero_le _)
  | succ rounds ih =>
    cases bytes with
    | nil => exact spelling.elim
    | cons byte tail =>
      rw [List.cons_append, lengthWhole_cons]
      by_cases more : continues byte
      · rw [LengthSpelled, if_pos more] at spelling
        exact .inr (ih spelling)
      · exact .inl more

private theorem lengthSpelled_of_whole {rounds : Nat} {data : Bytes}
    (there : LengthWhole rounds data) :
    ∃ bytes rest, data = bytes ++ rest ∧ LengthSpelled rounds bytes := by
  induction rounds generalizing data with
  | zero => exact ⟨[], data, rfl, rfl⟩
  | succ rounds ih =>
    cases data with
    | nil =>
      rcases there with ends | long
      · exact absurd ends (endsWithin_nil _)
      · cases long
    | cons byte tail =>
      by_cases more : continues byte
      · have later := (lengthWhole_cons.mp there).resolve_left (not_not.mpr more)
        obtain ⟨bytes, rest, rfl, spelling⟩ := ih later
        refine ⟨byte :: bytes, rest, rfl, ?_⟩
        rw [LengthSpelled, if_pos more]
        exact spelling
      · refine ⟨[byte], tail, rfl, ?_⟩
        rw [LengthSpelled, if_neg more]

private theorem readLengthFrom_of_damaged {rounds : Nat} (shift value : Nat) {data : Bytes}
    (damaged : ¬ LengthWhole rounds data) :
    readLengthFrom rounds shift value data = .error .indexError := by
  induction rounds generalizing shift value data with
  | zero => exact absurd (.inr (Nat.zero_le _)) damaged
  | succ rounds ih =>
    cases data with
    | nil => rfl
    | cons byte tail =>
      rw [lengthWhole_cons, not_or, not_not] at damaged
      rw [readLengthFrom_cons, if_neg damaged.1, ih _ _ damaged.2]

private theorem readVariableLength_of_spelled {bytes : Bytes} (spelling : LengthSpelled 4 bytes)
    (rest : Bytes) : readVariableLength (bytes ++ rest) = .ok (lengthValue bytes, rest) := by
  have read := readLengthFrom_of_spelled spelling rest (Nat.two_pow_pos 0)
  rw [Nat.zero_add, Nat.pow_zero, Nat.mul_one] at read
  exact read

/-- The length in front of a body. -/
def lengthField : WireField where
  Value := Nat
  spells value bytes := LengthSpelled 4 bytes ∧ value = lengthValue bytes
  whole := LengthWhole 4
  read := readVariableLength
  reads := by
    rintro value bytes rest ⟨spelling, rfl⟩
    exact readVariableLength_of_spelled spelling rest
  present := by
    rintro value bytes rest ⟨spelling, -⟩
    exact lengthWhole_of_spelled spelling rest
  reading := by
    intro data
    by_cases there : LengthWhole 4 data
    · obtain ⟨bytes, rest, split, spelling⟩ := lengthSpelled_of_whole there
      exact .spelled there split ⟨spelling, rfl⟩
    · exact .broken there (readLengthFrom_of_damaged 0 0 there) indexError_wrong
  hollow := by decide

/-- The CONNACK body behind the optional version byte. -/
def connackBody (serverVersion : Nat) : WireLayout ConnackResult :=
  .field (intField 7) fun timeDiff =>
  .field byteField fun reasonCode =>
  .field textField fun serverKey =>
  .field textField fun salt =>
    if serverVersion ≥ 4 then
      .field (intField 7) fun nodeId =>
      .done { reasonCode, serverKey, salt, serverVersion, timeDiff, nodeId }
    else .done { reasonCode, serverKey, salt, serverVersion, timeDiff, nodeId := 0 }

def connackLayout (hasServerVersion : Bool) : WireLayout ConnackResult :=
  if hasServerVersion then .field byteField connackBody else connackBody 0

def recvLayout : WireLayout RecvResult :=
  .field byteField fun settingByte =>
  .field textField fun msgKey =>
  .field textField fun fromUid =>
  .field textField fun channelId =>
  .field byteField fun channelType =>
  .field (intField 3) fun _expire =>
  .field textField fun clientMsgNo =>
  .field (intField 7) fun messageId =>
  .field (intField 3) fun messageSeq =>
  .field (intField 3) fun timestamp =>
    let setting := parseSettingByte settingByte
    let result encryptedPayload : RecvResult :=
      { setting, msgKey, fromUid, channelId, channelType, clientMsgNo,
        messageId := Json.printNat messageId, messageSeq, timestamp, encryptedPayload }
    if setting.topic then .field textField fun _topic => .remaining result
    else .remaining result

def disconnectLayout : WireLayout Packet :=
  .field byteField fun reasonCode =>
  .field textField fun reason =>
  .done (.disconnect reasonCode reason)

/-- The layout of a packet with a length, by its type. -/
def packetLayout (packetType : Nat) (hasServerVersion : Bool) : WireLayout Packet :=
  .field byteField fun _header =>
  .field lengthField fun _remainingLength =>
    if packetType = PacketType.connack.code then (connackLayout hasServerVersion).map .connack
    else if packetType = PacketType.recv.code then recvLayout.map .recv
    else if packetType = PacketType.disconnect.code then disconnectLayout
    else .done (.other packetType)

theorem read_recvLayout : recvLayout.read = decodeRecv := by
  simp only [recvLayout, Layout.read_field, decodeRecv, readInt32, readInt64String, readInt64]
  refine bind_congr fun settingByte => ?_
  simp only [bind_assoc, pure_bind]
  iterate 9 refine bind_congr fun _ => ?_
  cases (parseSettingByte settingByte).topic with
  | false => rfl
  | true => rfl

private theorem read_connackBody (serverVersion : Nat) :
    (connackBody serverVersion).read = do
      let timeDiff ← readInt64
      let reasonCode ← readByte
      let serverKey ← readString
      let salt ← readString
      let nodeId ← if serverVersion ≥ 4 then readInt64 else pure 0
      return { reasonCode, serverKey, salt, serverVersion, timeDiff, nodeId } := by
  simp only [connackBody, Layout.read_field]
  iterate 4 refine bind_congr fun _ => ?_
  by_cases fourth : serverVersion ≥ 4
  · rw [if_pos fourth, if_pos fourth]
    rfl
  · rw [if_neg fourth, if_neg fourth, pure_bind]
    rfl

private theorem read_connackLayout (hasServerVersion : Bool) :
    (connackLayout hasServerVersion).read = decodeConnack hasServerVersion := by
  cases hasServerVersion with
  | false => exact read_connackBody 0
  | true => exact (Layout.read_field byteField connackBody).trans (bind_congr read_connackBody)

private theorem read_disconnectLayout : disconnectLayout.read = decodeDisconnect := by
  rfl

/-- The decoder of a packet with a length reads its layout. -/
private theorem read_packetLayout (packetType : Nat) (hasServerVersion : Bool) :
    (packetLayout packetType hasServerVersion).read = decodeBody packetType hasServerVersion := by
  rw [packetLayout, Layout.read_field, decodeBody]
  refine bind_congr fun _ => ?_
  rw [Layout.read_field]
  refine bind_congr fun _ => ?_
  split
  · rw [Layout.read_map, read_connackLayout, map_eq_pure_bind]
  · split
    · rw [Layout.read_map, read_recvLayout, map_eq_pure_bind]
    · split
      · exact read_disconnectLayout
      · rfl

/-- The server version flag of the header byte. -/
def hasServerVersion (header : UInt8) : Bool := header.toNat &&& 0x01 > 0

/-- Every field of the packet was read from bytes of the data. -/
def Follows (data : Bytes) (packet : Packet) : Prop :=
  match data with
  | [] => False
  | header :: _ =>
    if packetType header = PacketType.pong.code then packet = .pong
    else if packetType header = PacketType.ping.code then packet = .ping
    else ∃ rest, (packetLayout (packetType header) (hasServerVersion header)).Spells packet data rest

/-- `decode_packet` returns a packet of its grammar or raises a `ValueError`. -/
def Decodes (data : Bytes) : Prop :=
  match decodePacket data with
  | .ok packet => Follows data packet
  | .error error => error.IsValueError

/-- Every field the decoder comes to is whole. -/
def PacketWhole (data : Bytes) : Prop :=
  match data with
  | [] => True
  | header :: _ =>
    ¬ singleByte header → (packetLayout (packetType header) (hasServerVersion header)).Whole data

private theorem decodePacket_long {header : UInt8} (long : ¬ singleByte header) (rest : Bytes) :
    decodePacket (header :: rest) =
      match (packetLayout (packetType header) (hasServerVersion header)).read (header :: rest) with
      | .error error => .error error
      | .ok (packet, _) => .ok packet := by
  rw [singleByte, not_or] at long
  rw [decodePacket, if_neg long.1, if_neg long.2, read_packetLayout]
  rfl

private theorem follows_long {header : UInt8} (long : ¬ singleByte header) (rest : Bytes)
    (packet : Packet) :
    Follows (header :: rest) packet ↔ ∃ left,
      (packetLayout (packetType header) (hasServerVersion header)).Spells packet (header :: rest)
        left := by
  rw [singleByte, not_or] at long
  rw [Follows, if_neg long.1, if_neg long.2]

private theorem decodes_single {header : UInt8} (single : singleByte header) (rest : Bytes) :
    Decodes (header :: rest) := by
  rw [Decodes, decodePacket]
  by_cases pong : packetType header = PacketType.pong.code
  · rw [if_pos pong]
    change if _ then _ else _
    rw [if_pos pong]
  · have ping := single.resolve_left pong
    rw [if_neg pong, if_pos ping]
    change if _ then _ else _
    rw [if_neg pong, if_pos ping]

private theorem decodes_long {header : UInt8} (long : ¬ singleByte header) (rest : Bytes) :
    Decodes (header :: rest) ↔
      (packetLayout (packetType header) (hasServerVersion header)).Whole (header :: rest) := by
  rw [← Layout.meets_iff, Layout.Meets, Decodes, decodePacket_long long]
  cases read : (packetLayout (packetType header) (hasServerVersion header)).read
      (header :: rest) with
  | error error => exact Iff.rfl
  | ok result =>
    obtain ⟨packet, left⟩ := result
    dsimp only
    rw [follows_long long]
    constructor
    · rintro ⟨other, spelled⟩
      have again := Layout.read_of_spells spelled
      rw [read] at again
      cases again
      exact spelled
    · exact fun spelled => ⟨left, spelled⟩

/-- The decoder keeps to its grammar and its exception exactly on data whose fields
are whole up to the first text that is no UTF-8. -/
theorem decodes_iff (data : Bytes) : Decodes data ↔ PacketWhole data := by
  cases data with
  | nil => exact ⟨fun _ => trivial, fun _ => trivial⟩
  | cons header rest =>
    by_cases single : singleByte header
    · exact ⟨fun _ long => absurd single long, fun _ => decodes_single single rest⟩
    · rw [PacketWhole, forall_prop_of_true single, decodes_long single]

/-- A DISCONNECT whose reason is cut off is decoded with a shorter reason, and one
without a body ends in an `IndexError`. -/
theorem cutReason_not_decodes :
    ¬ Decodes [0x90, 0x04, 0x01, 0x00, 0x05, 0x61] ∧ ¬ Decodes [0x90, 0x00] := by
  constructor
  · rw [decodes_long (by decide)]
    intro whole
    have body := ((Layout.whole_field_iff rfl).mp whole).2
    have fields := ((Layout.whole_field_iff rfl).mp body).2
    have reason := ((Layout.whole_field_iff rfl).mp fields).2.1
    rcases reason.2 with broken | long
    · have decoded : utf8Decode [0x61] = some (py "a") := utf8Decode_of_encode (by decide)
      rw [show declared [0x00, 0x05, 0x61] = 5 by decide] at broken
      exact absurd (decoded.symm.trans broken) (by simp)
    · revert long
      decide
  · rw [Decodes, show decodePacket [0x90, 0x00] = .error .indexError by rfl]
    exact indexError_wrong

end OctoChannel.Protocol
