import OctoChannel.Foundation.JsonRoundTrip
import OctoChannel.Protocol.Layouts

namespace OctoChannel.Protocol

open Foundation Decoder

theorem length_packInt (count value : Nat) : (packInt count value).length = count := by
  induction count with
  | zero => rfl
  | succ count ih => rw [packInt, List.length_cons, ih]

private theorem foldl_packInt (count value start : Nat) :
    (packInt count value).foldl (fun value byte => value * 256 + byte.toNat) start =
      start * 256 ^ count + value % 256 ^ count := by
  induction count generalizing start with
  | zero => simp [packInt, Nat.mod_one]
  | succ count ih =>
    rw [packInt, List.foldl_cons, ih, Nat.mod_pow_succ]
    have byte : (UInt8.ofNat (value / 256 ^ count)).toNat = value / 256 ^ count % 256 := rfl
    rw [byte]
    ring

theorem bigEndian_packInt {count value : Nat} (small : value < 256 ^ count) :
    bigEndian (packInt count value) = value := by
  rw [bigEndian, foldl_packInt, Nat.zero_mul, Nat.zero_add, Nat.mod_eq_of_lt small]

private theorem spells_int {count value : Nat} (small : value < 256 ^ (count + 1)) :
    (intField count).spells value (packInt (count + 1) value) :=
  ⟨length_packInt _ _, (bigEndian_packInt small).symm⟩

private theorem spells_byte (byte : UInt8) : byteField.spells byte.toNat [byte] := ⟨byte, rfl, rfl⟩

/-- A text whose UTF-8 fits the two length bytes. -/
abbrev WireText := { text : PyStr // ∃ raw, utf8Encode text = some raw ∧ raw.length ≤ 65535 }

/-- The bytes the encoder writes for a text. -/
def WireText.bytes (text : WireText) : Bytes :=
  match writeString text.val with
  | .ok bytes => bytes
  | .error _ => []

private theorem writeString_spec (text : WireText) : ∃ raw, raw.length ≤ 65535 ∧
    utf8Encode text.val = some raw ∧ writeString text.val = .ok (packInt 2 raw.length ++ raw) := by
  obtain ⟨text, raw, encoded, short⟩ := text
  refine ⟨raw, short, encoded, ?_⟩
  rw [writeString]
  by_cases empty : text = []
  · subst empty
    cases encoded
    rfl
  · rw [if_neg empty, encoded]

theorem WireText.written (text : WireText) : writeString text.val = .ok text.bytes := by
  obtain ⟨raw, -, -, written⟩ := writeString_spec text
  rw [WireText.bytes, written]

theorem WireText.spelled (text : WireText) : TextSpelled text.val text.bytes := by
  obtain ⟨raw, short, encoded, written⟩ := writeString_spec text
  rw [WireText.bytes, written]
  refine ⟨packInt 2 raw.length, raw, rfl, length_packInt 2 _, ?_, encoded⟩
  exact bigEndian_packInt (Nat.lt_of_le_of_lt short (by decide))

theorem WireText.length_le (text : WireText) : text.bytes.length ≤ 65537 := by
  obtain ⟨raw, short, -, written⟩ := writeString_spec text
  rw [WireText.bytes, written]
  dsimp only
  rw [List.length_append, length_packInt]
  omega

private theorem length_lengthDigits_le {count length : Nat} :
    (lengthDigits length).length ≤ count ↔ length < 128 ^ count := by
  induction count generalizing length with
  | zero =>
    rw [lengthDigits]
    split
    · simp_all
    · simp
      omega
  | succ count ih =>
    rw [lengthDigits]
    split
    · rename_i zero
      rw [zero]
      exact ⟨fun _ => Nat.pow_pos (by decide), fun _ => Nat.zero_le _⟩
    · dsimp only
      rw [List.length_cons, Nat.add_le_add_iff_right, ih, Nat.pow_succ,
        Nat.div_lt_iff_lt_mul (by decide)]

/-- Four length bytes reach up to 2^28. -/
theorem length_encodeVariableLength_le (length : Nat) :
    (encodeVariableLength length).length ≤ 4 ↔ length < 2 ^ 28 := by
  rw [encodeVariableLength]
  split
  · rename_i zero
    rw [zero]
    decide
  · exact length_lengthDigits_le

/-- A length of at most four bytes is read whole. -/
theorem readHeader_encode_short (header : UInt8) (body : Bytes) (short : body.length < 2 ^ 28) :
    readHeader (header :: encodeVariableLength body.length ++ body) = .ok (body.length, body) := by
  have read := remainingLength_encode body.length body 1
  have four := (length_encodeVariableLength_le _).mpr short
  have ends := (endsWithin_iff 4 read).mpr (by omega)
  have whole := @readLengthFrom_of_endsWithin 4 0 0 1 _ _ _ (by decide) ends read
  rw [Nat.add_sub_cancel_left, List.drop_left] at whole
  exact whole

/-- The header step takes at most four bytes of an encoded length. -/
private theorem readHeader_encode (header : UInt8) (body : Bytes) :
    ∃ total, readHeader (header :: encodeVariableLength body.length ++ body) =
      .ok (total, (encodeVariableLength body.length).drop 4 ++ body) := by
  by_cases short : body.length < 2 ^ 28
  · refine ⟨body.length, (readHeader_encode_short header body short).trans ?_⟩
    rw [List.drop_of_length_le ((length_encodeVariableLength_le _).mpr short), List.nil_append]
  · have read := remainingLength_encode body.length body 1
    have five := mt (length_encodeVariableLength_le _).mp short
    have unended := mt (endsWithin_iff 4 read).mp (by omega)
    obtain ⟨total, early⟩ := @readLengthFrom_of_not_endsWithin 4 0 0 _
      (by rw [List.length_append]; omega) unended
    rw [List.drop_append_of_le_length (by omega)] at early
    exact ⟨total, early⟩

/-- A RECV field tuple within the bounds of its encoding. -/
structure RecvFields where
  settingByte : UInt8
  msgKey : WireText
  fromUid : WireText
  channelId : WireText
  channelType : UInt8
  expire : Fin (2 ^ 32)
  clientMsgNo : WireText
  messageId : Fin (2 ^ 64)
  messageSeq : Fin (2 ^ 32)
  timestamp : Fin (2 ^ 32)
  topic : WireText
  payload : Bytes

namespace RecvFields

variable (fields : RecvFields)

def setting : SettingFlags := parseSettingByte fields.settingByte.toNat

/-- The RECV frame, written with the encoder in the order `_decode_recv` reads. -/
def encode : Except PyError Bytes := do
  let msgKey ← writeString fields.msgKey.val
  let fromUid ← writeString fields.fromUid.val
  let channelId ← writeString fields.channelId.val
  let clientMsgNo ← writeString fields.clientMsgNo.val
  let topic ← if fields.setting.topic then writeString fields.topic.val else pure []
  return encodePacket .recv ([fields.settingByte] ++ (msgKey ++ (fromUid ++ (channelId ++
    ([fields.channelType] ++ (packInt 4 fields.expire ++ (clientMsgNo ++
    (packInt 8 fields.messageId ++ (packInt 4 fields.messageSeq ++
    (packInt 4 fields.timestamp ++ (topic ++ fields.payload)))))))))))

/-- What `_decode_recv` has to return. -/
def result : RecvResult where
  setting := fields.setting
  msgKey := fields.msgKey.val
  fromUid := fields.fromUid.val
  channelId := fields.channelId.val
  channelType := fields.channelType.toNat
  clientMsgNo := fields.clientMsgNo.val
  messageId := Json.printNat fields.messageId
  messageSeq := fields.messageSeq
  timestamp := fields.timestamp
  encryptedPayload := fields.payload

/-- The body in front of the message id. -/
def before : Bytes :=
  [fields.settingByte] ++ (fields.msgKey.bytes ++ (fields.fromUid.bytes ++
    (fields.channelId.bytes ++ ([fields.channelType] ++ (packInt 4 fields.expire ++
    fields.clientMsgNo.bytes)))))

/-- The eight bytes of the message id and the four of the sequence number. -/
def ids : Bytes := packInt 8 fields.messageId ++ packInt 4 fields.messageSeq

/-- The body behind the sequence number. -/
def after : Bytes :=
  packInt 4 fields.timestamp ++
    ((if fields.setting.topic then fields.topic.bytes else []) ++ fields.payload)

def body : Bytes := fields.before ++ (fields.ids ++ fields.after)

/-- The frame is taken whole and decoded to the fields, and its RECVACK carries the
id bytes of the frame. -/
def RoundTrips : Prop :=
  ∃ frame head, fields.encode = .ok frame ∧
    (∀ more, tryUnpackOne (frame ++ more) = (some frame, more)) ∧
    decodePacket frame = .ok (.recv fields.result) ∧
    frame = head ++ fields.before ++ fields.ids ++ fields.after ∧
    encodeRecvackPacket fields.result.messageId fields.result.messageSeq =
      encodePacket .recvack fields.ids

/-- The length bytes behind the fourth, which the decoder takes for the body. -/
def overlong : Bytes := (encodeVariableLength fields.body.length).drop 4

theorem encode_eq : fields.encode = .ok (encodePacket .recv fields.body) := by
  simp only [encode, WireText.written, bind, Except.bind, pure, Except.pure]
  cases topic : fields.setting.topic with
  | false => simp [body, before, ids, after, topic]
  | true => simp [body, before, ids, after, topic]

/-- The body spells the fields. -/
theorem body_spells : recvLayout.Spells fields.result fields.body [] := by
  have expire : fields.expire.val < 256 ^ 4 := fields.expire.isLt
  have messageId : fields.messageId.val < 256 ^ 8 := fields.messageId.isLt
  have messageSeq : fields.messageSeq.val < 256 ^ 4 := fields.messageSeq.isLt
  have timestamp : fields.timestamp.val < 256 ^ 4 := fields.timestamp.isLt
  have whole : fields.body = [fields.settingByte] ++ (fields.msgKey.bytes ++
      (fields.fromUid.bytes ++ (fields.channelId.bytes ++ ([fields.channelType] ++
      (packInt 4 fields.expire ++ (fields.clientMsgNo.bytes ++ (packInt 8 fields.messageId ++
      (packInt 4 fields.messageSeq ++ fields.after)))))))) := by
    simp [body, before, ids]
  rw [whole]
  refine ⟨_, _, _, rfl, spells_byte _, _, _, _, rfl, fields.msgKey.spelled,
    _, _, _, rfl, fields.fromUid.spelled, _, _, _, rfl, fields.channelId.spelled,
    _, _, _, rfl, spells_byte _, _, _, _, rfl, spells_int expire,
    _, _, _, rfl, fields.clientMsgNo.spelled, _, _, _, rfl, spells_int messageId,
    _, _, _, rfl, spells_int messageSeq, _, _, _, rfl, spells_int timestamp, ?_⟩
  change Layout.Spells (if fields.setting.topic then _ else _) _ _ _
  cases topic : fields.setting.topic with
  | false => exact ⟨rfl, rfl⟩
  | true => exact ⟨_, _, _, rfl, fields.topic.spelled, rfl, rfl⟩

private theorem readString_nil : textField.read [] = .error .structError := readString_eq []

/-- Behind a cut field only an empty payload is left to read. -/
private theorem payload_of_cut {result : RecvResult} (cut : recvLayout.Cut result) :
    result.encryptedPayload = [] := by
  obtain ⟨settingByte, cut⟩ := Layout.cut_field readString_nil cut
  obtain ⟨msgKey, cut⟩ := Layout.cut_field readString_nil cut
  obtain ⟨fromUid, cut⟩ := Layout.cut_field readString_nil cut
  obtain ⟨channelId, cut⟩ := Layout.cut_field rfl cut
  obtain ⟨channelType, cut⟩ := Layout.cut_field rfl cut
  obtain ⟨expire, cut⟩ := Layout.cut_field readString_nil cut
  obtain ⟨clientMsgNo, cut⟩ := Layout.cut_field rfl cut
  obtain ⟨messageId, cut⟩ := Layout.cut_field rfl cut
  obtain ⟨messageSeq, cut⟩ := Layout.cut_field rfl cut
  obtain ⟨timestamp, cut⟩ := cut
  dsimp only at cut
  split at cut
  · rcases cut with ⟨rest, read⟩ | ⟨topic, ⟨rest, read⟩ | never⟩
    · rw [Layout.read_field_error readString_nil] at read
      cases read
    · cases read
      rfl
    · exact never.elim
  · rcases cut with ⟨rest, read⟩ | never
    · cases read
      rfl
    · exact never.elim

private theorem recvLayout_exhausts : recvLayout.Exhausts := by
  intro settingByte _ _ _ _ _ _ _ _ _
  dsimp only
  split
  · exact fun _ => trivial
  · trivial

/-- A body that needs a fifth length byte has a payload. -/
private theorem payload_of_long (long : ¬ fields.body.length < 2 ^ 28) : fields.payload ≠ [] := by
  intro empty
  apply long
  have topic : (if fields.setting.topic then fields.topic.bytes else []).length ≤ 65537 := by
    split
    · exact fields.topic.length_le
    · exact Nat.zero_le _
  have msgKey := fields.msgKey.length_le
  have fromUid := fields.fromUid.length_le
  have channelId := fields.channelId.length_le
  have clientMsgNo := fields.clientMsgNo.length_le
  simp only [body, before, ids, after, empty, List.length_append, length_packInt,
    List.length_singleton, List.length_nil]
  omega

private theorem decodePacket_recv {header : UInt8} {rest body : Bytes} {total : Nat}
    (recv : packetType header = PacketType.recv.code)
    (read : readHeader (header :: rest) = .ok (total, body)) :
    decodePacket (header :: rest) =
      match recvLayout.read body with
      | .error error => .error error
      | .ok (result, _) => .ok (.recv result) := by
  rw [decodePacket, recv, decodeBody_eq, read_recvLayout]
  simp only [bind, StateT.bind, read, Except.bind]
  rw [if_neg (by decide), if_neg (by decide), if_neg (by decide), if_pos trivial]
  cases read : decodeRecv body with
  | error error => simp only [StateT.bind, bind, read, Except.bind]
  | ok result => simp only [StateT.bind, bind, read, Except.bind]; rfl

/-- The decoder reads the body behind the length bytes it does not take. -/
theorem decodePacket_encode :
    decodePacket (encodePacket .recv fields.body) =
      match recvLayout.read (fields.overlong ++ fields.body) with
      | .error error => .error error
      | .ok (result, _) => .ok (.recv result) := by
  obtain ⟨total, header⟩ := readHeader_encode (UInt8.ofNat (PacketType.recv.code <<< 4))
    fields.body
  exact decodePacket_recv (by decide) header

/-- A RECV frame is decoded to its fields exactly when the length fits four bytes, or
the further length bytes in front of the body spell the same fields again. -/
theorem decodes_body_iff :
    decodePacket (encodePacket .recv fields.body) = .ok (.recv fields.result) ↔
      fields.body.length < 2 ^ 28 ∨
        recvLayout.Spells fields.result (fields.overlong ++ fields.body) [] := by
  rw [decodePacket_encode]
  constructor
  · intro decoded
    by_cases short : fields.body.length < 2 ^ 28
    · exact .inl short
    · apply Or.inr
      cases read : recvLayout.read (fields.overlong ++ fields.body) with
      | error error =>
        rw [read] at decoded
        cases decoded
      | ok found =>
        obtain ⟨result, rest⟩ := found
        rw [read] at decoded
        cases decoded
        rcases Layout.spells_or_cut read with spelled | cut
        · rw [Layout.rest_of_exhausts recvLayout_exhausts spelled] at spelled
          exact spelled
        · exact absurd (payload_of_cut cut) (fields.payload_of_long short)
  · intro spelled
    have whole : recvLayout.Spells fields.result (fields.overlong ++ fields.body) [] := by
      rcases spelled with short | spelled
      · have none : fields.overlong = [] :=
          List.drop_of_length_le ((length_encodeVariableLength_le _).mpr short)
        rw [none]
        exact fields.body_spells
      · exact spelled
    rw [Layout.read_of_spells whole]

/-- Everything but the decoding round trips for every body. -/
theorem roundTrips_iff_decodes : fields.RoundTrips ↔
    decodePacket (encodePacket .recv fields.body) = .ok (.recv fields.result) := by
  constructor
  · rintro ⟨frame, head, encoded, -, decoded, -⟩
    rw [encode_eq] at encoded
    cases encoded
    exact decoded
  · intro decoded
    have taken : wire.Complete (encodePacket .recv fields.body) :=
      complete_frame (.packet _ fields.body (by decide))
    refine ⟨_, UInt8.ofNat (PacketType.recv.code <<< 4) :: encodeVariableLength fields.body.length,
      fields.encode_eq, ?_, decoded, ?_, ?_⟩
    · exact fun more => wire.settled _ _ _ more taken
    · simp only [encodePacket, body, List.append_assoc]
    · rw [encodeRecvackPacket, result, Json.readNat_printNat]
      rfl

end RecvFields

/-- A CONNECT field tuple within the bounds of its encoding. -/
structure ConnectFields where
  version : UInt8
  deviceFlag : UInt8
  deviceId : WireText
  uid : WireText
  token : WireText
  clientTimestamp : Fin (2 ^ 64)
  clientKey : WireText

/-- The layout `encode_connect_packet` writes; nothing in the plugin reads it. -/
def connectLayout : WireLayout (Nat × Nat × PyStr × PyStr × PyStr × Nat × PyStr) :=
  .field byteField fun version =>
  .field byteField fun deviceFlag =>
  .field textField fun deviceId =>
  .field textField fun uid =>
  .field textField fun token =>
  .field (intField 7) fun clientTimestamp =>
  .field textField fun clientKey =>
  .done (version, deviceFlag, deviceId, uid, token, clientTimestamp, clientKey)

namespace ConnectFields

variable (fields : ConnectFields)

def encode : Except PyError Bytes :=
  encodeConnectPacket fields.version.toNat fields.deviceFlag.toNat fields.deviceId.val
    fields.uid.val fields.token.val fields.clientTimestamp fields.clientKey.val

def body : Bytes :=
  [fields.version] ++ ([fields.deviceFlag] ++ (fields.deviceId.bytes ++ (fields.uid.bytes ++
    (fields.token.bytes ++ (packInt 8 fields.clientTimestamp ++ fields.clientKey.bytes)))))

/-- The frame is taken whole, and behind its header the decoder's readers find the
fields and nothing else. -/
def RoundTrips : Prop :=
  ∃ frame body, fields.encode = .ok frame ∧
    (∀ more, tryUnpackOne (frame ++ more) = (some frame, more)) ∧
    readHeader frame = .ok (body.length, body) ∧
    connectLayout.read body = .ok ((fields.version.toNat, fields.deviceFlag.toNat,
      fields.deviceId.val, fields.uid.val, fields.token.val, fields.clientTimestamp.val,
      fields.clientKey.val), [])

private theorem packInt_byte (byte : UInt8) : packInt 1 byte.toNat = [byte] := by
  simp [packInt]

theorem encode_eq : fields.encode = .ok (encodePacket .connect fields.body) := by
  simp only [encode, encodeConnectPacket, WireText.written, bind, Except.bind, pure, Except.pure,
    packInt_byte]
  rfl

theorem body_spells : connectLayout.Spells (fields.version.toNat, fields.deviceFlag.toNat,
    fields.deviceId.val, fields.uid.val, fields.token.val, fields.clientTimestamp.val,
    fields.clientKey.val) fields.body [] := by
  have clientTimestamp : fields.clientTimestamp.val < 256 ^ 8 := fields.clientTimestamp.isLt
  refine ⟨_, _, _, rfl, spells_byte _, _, _, _, rfl, spells_byte _,
    _, _, _, rfl, fields.deviceId.spelled, _, _, _, rfl, fields.uid.spelled,
    _, _, _, rfl, fields.token.spelled, _, _, _, rfl, spells_int clientTimestamp,
    _, _, _, (List.append_nil _).symm, fields.clientKey.spelled, rfl, rfl⟩

private theorem length_body : fields.body.length < 2 ^ 28 := by
  have deviceId := fields.deviceId.length_le
  have uid := fields.uid.length_le
  have token := fields.token.length_le
  have clientKey := fields.clientKey.length_le
  simp only [body, List.length_append, length_packInt, List.length_singleton]
  omega

/-- A CONNECT frame always round trips: its texts keep it short. -/
private theorem roundTrips : fields.RoundTrips := by
  have taken : wire.Complete (encodePacket .connect fields.body) :=
    complete_frame (.packet _ fields.body (by decide))
  refine ⟨_, fields.body, fields.encode_eq, ?_, ?_, Layout.read_of_spells fields.body_spells⟩
  · exact fun more => wire.settled _ _ _ more taken
  · exact readHeader_encode_short _ _ fields.length_body

end ConnectFields

/-- RECV and CONNECT frames round trip exactly when the length of the RECV body fits
four bytes, or its further bytes in front of the body spell the same fields again. -/
theorem roundTrips_iff (recv : RecvFields) (connect : ConnectFields) :
    recv.RoundTrips ∧ connect.RoundTrips ↔
      recv.body.length < 2 ^ 28 ∨
        recvLayout.Spells recv.result (recv.overlong ++ recv.body) [] := by
  rw [recv.roundTrips_iff_decodes, recv.decodes_body_iff]
  exact and_iff_left connect.roundTrips

/-- A RECV whose fields between the setting byte and the payload are all zero. -/
def flatRecv (settingByte : UInt8) (payload : Bytes) : RecvFields where
  settingByte := settingByte
  msgKey := ⟨[], [], rfl, Nat.zero_le _⟩
  fromUid := ⟨[], [], rfl, Nat.zero_le _⟩
  channelId := ⟨[], [], rfl, Nat.zero_le _⟩
  channelType := 0
  expire := 0
  clientMsgNo := ⟨[], [], rfl, Nat.zero_le _⟩
  messageId := 0
  messageSeq := 0
  timestamp := 0
  topic := ⟨[], [], rfl, Nat.zero_le _⟩
  payload := payload

private theorem body_flatRecv {settingByte : UInt8} (plain : settingByte.toNat < 8)
    (payload : Bytes) :
    (flatRecv settingByte payload).body = settingByte :: (List.replicate 29 0 ++ payload) := by
  have topic : (flatRecv settingByte payload).setting.topic = false := by
    simp [RecvFields.setting, parseSettingByte, flatRecv, Nat.shiftRight_eq_div_pow,
      Nat.div_eq_of_lt plain]
  have empty : WireText.bytes ⟨[], [], rfl, Nat.zero_le _⟩ = [0, 0] := rfl
  simp only [RecvFields.body, RecvFields.before, RecvFields.ids, RecvFields.after, topic]
  simp [flatRecv, empty, packInt, List.replicate]

private theorem encodeVariableLength_five :
    encodeVariableLength (2 ^ 28) = [0x80, 0x80, 0x80, 0x80, 0x01] := by
  simp [encodeVariableLength, lengthDigits]

/-- The first body of five length bytes is decoded one byte too early: its payload
comes out a byte longer. -/
theorem oversized_not_roundTrips :
    ¬ (flatRecv 0 (List.replicate (2 ^ 28 - 30) 0)).RoundTrips := by
  generalize bytes : List.replicate (2 ^ 28 - 30) (0 : UInt8) = payload
  intro trips
  have decoded := (RecvFields.roundTrips_iff_decodes _).mp trips
  have body := @body_flatRecv 0 (by decide) payload
  have size : (flatRecv 0 payload).body.length = 2 ^ 28 := by
    rw [body, List.length_cons, List.length_append, List.length_replicate, ← bytes,
      List.length_replicate]
    omega
  have shifted : (flatRecv 0 payload).overlong ++ (flatRecv 0 payload).body =
      (flatRecv 1 (0 :: payload)).body := by
    rw [RecvFields.overlong, size, encodeVariableLength_five, body, body_flatRecv (by decide)]
    simp [List.replicate]
  rw [RecvFields.decodePacket_encode, shifted,
    Layout.read_of_spells (RecvFields.body_spells _)] at decoded
  have same : (flatRecv 1 (0 :: payload)).result = (flatRecv 0 payload).result :=
    Packet.recv.inj (Except.ok.inj decoded)
  have longer : 0 :: payload = payload := congrArg RecvResult.encryptedPayload same
  exact List.cons_ne_self _ _ longer

end OctoChannel.Protocol
