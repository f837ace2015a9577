import OctoChannel.Protocol.Packets

/-! One WebSocket connection of a runtime: the wait for CONNACK in `_do_connect`,
and the receive loop that takes over the buffer. -/

namespace OctoChannel.Adapter

open Foundation Protocol

/-- The fields of a runtime that belong to one connection, and the frames it has
sent after CONNECT. -/
structure Connection where
  tempBuffer : Bytes
  connected : Bool
  aesKey : PyStr
  aesIv : PyStr
  serverVersion : Nat
  sent : List Bytes
  deriving DecidableEq

namespace Connection

/-- The state in which `_do_connect` awaits CONNACK. -/
def opened : Connection := ⟨[], false, [], [], 0, []⟩

/-- The AES key that the runtime derives from the server's public key, or what the
key exchange raises. -/
abbrev KeyExchange := PyStr → Except PyError PyStr

variable (exchange : KeyExchange)

/-- A short salt is padded so that the IV is always 16 characters. -/
def ivOfSalt (salt : PyStr) : PyStr :=
  if salt.length ≥ 16 then salt.take 16 else salt ++ List.replicate (16 - salt.length) 0

def acceptConnack (connection : Connection) (result : ConnackResult) : Except PyError Connection :=
  if result.reasonCode = 1 then
    match exchange result.serverKey with
    | .error error => .error error
    | .ok aesKey =>
      .ok { connection with
        aesKey := aesKey
        aesIv := ivOfSalt result.salt
        serverVersion := result.serverVersion
        connected := true }
  else .error (.runtimeError s!"Connect failed: reasonCode={result.reasonCode}")

/-- The handshake loop looks for CONNACK only; an exception leaves `_do_connect`. -/
def awaitFrame (state : Connection × Bool) (frame : Bytes) : Except PyError (Connection × Bool) :=
  match decodePacket frame with
  | .error error => .error error
  | .ok (.connack result) => (state.1.acceptConnack exchange result).map fun next => (next, true)
  | .ok _ => .ok state

/-- `_do_connect` from CONNECT on: one message is received, and the messages behind
it are left for the receive loop. -/
def doConnect : List Bytes → Except PyError (Connection × List Bytes)
  | [] => .error (.runtimeError "CONNACK timeout")
  | raw :: later =>
    let (frames, left) := wire.drain raw
    match frames.foldlM (awaitFrame exchange) (opened, false) with
    | .error error => .error error
    | .ok (connection, connackSuccess) =>
      if connackSuccess then .ok ({ connection with tempBuffer := left }, later)
      else .error (.runtimeError "CONNACK not received")

def send (connection : Connection) (frame : Bytes) : Connection :=
  { connection with sent := connection.sent ++ [frame] }

/-- `_handle_frame`, as far as it concerns the connection. A RECV is acknowledged
before its payload is looked at. -/
def handleFrame (connection : Connection) (frame : Bytes) : Except PyError Connection :=
  match decodePacket frame with
  | .error error => .error error
  | .ok .pong => .ok connection
  | .ok .ping => .ok (connection.send encodePongPacket)
  | .ok (.recv recv) => .ok (connection.send (encodeRecvackPacket recv.messageId recv.messageSeq))
  | .ok (.disconnect _ _) => .ok { connection with connected := false }
  | .ok _ => .ok connection

/-- A frame that raises is skipped. -/
def handleOrSkip (connection : Connection) (frame : Bytes) : Connection :=
  match connection.handleFrame frame with
  | .error _ => connection
  | .ok next => next

def receiveMessage (connection : Connection) (raw : Bytes) : Connection :=
  let (frames, left) := wire.drain (connection.tempBuffer ++ raw)
  { frames.foldl handleOrSkip connection with tempBuffer := left }

/-- `_receive_loop` until the messages end or the connection is given up. -/
def receiveLoop (connection : Connection) : List Bytes → Connection
  | [] => connection
  | raw :: later =>
    if connection.connected then receiveLoop (connection.receiveMessage raw) later
    else connection

/-- The handshake, and on success the receive loop. -/
def run (messages : List Bytes) : Except PyError Connection :=
  match doConnect exchange messages with
  | .error error => .error error
  | .ok (connection, later) => .ok (connection.receiveLoop later)

/-- A CONNACK that reports success with a key that the exchange accepts. -/
structure Greeting where
  frame : Frame
  result : ConnackResult
  aesKey : PyStr
  decoded : decodePacket frame.bytes = .ok (.connack result)
  success : result.reasonCode = 1
  agreed : exchange result.serverKey = .ok aesKey

/-- The frames behind it: RECV frames that decode, and PONG. -/
inductive ServerFrame where
  | recv (frame : Frame) (result : RecvResult)
      (decoded : decodePacket frame.bytes = .ok (.recv result))
  | pong (header : UInt8) (kind : packetType header = PacketType.pong.code)

namespace ServerFrame

def frame : ServerFrame → Frame
  | .recv frame _ _ => frame
  | .pong header kind => .control header (.inl kind)

def bytes (frame : ServerFrame) : Bytes := frame.frame.bytes

def packet : ServerFrame → Packet
  | .recv _ result _ => .recv result
  | .pong _ _ => .pong

/-- The acknowledgement that is due. -/
def ack? : ServerFrame → Option Bytes
  | .recv _ result _ => some (encodeRecvackPacket result.messageId result.messageSeq)
  | .pong _ _ => none

theorem decodePacket_bytes (frame : ServerFrame) : decodePacket frame.bytes = .ok frame.packet := by
  cases frame with
  | recv frame result decoded => exact decoded
  | pong header kind =>
    change (if packetType header = PacketType.pong.code then _ else _) = _
    rw [if_pos kind]
    rfl

end ServerFrame

def acks (frames : List ServerFrame) : List Bytes := frames.filterMap ServerFrame.ack?

/-- The bytes of CONNACK and of the frames behind it. -/
def stream {exchange : KeyExchange} (greeting : Greeting exchange) (frames : List ServerFrame) :
    List Bytes :=
  greeting.frame.bytes :: frames.map ServerFrame.bytes

variable {exchange} {greeting : Greeting exchange} {frames : List ServerFrame}
  {connection : Connection} {messages : List Bytes}

theorem complete_stream (greeting : Greeting exchange) (frames : List ServerFrame) :
    ∀ frame ∈ stream greeting frames, wire.Complete frame := by
  intro bytes member
  rcases List.mem_cons.mp member with rfl | member
  · exact complete_frame greeting.frame
  · obtain ⟨frame, -, rfl⟩ := List.mem_map.mp member
    exact complete_frame frame.frame

theorem stream_initial (greeting : Greeting exchange) {first second : List ServerFrame}
    (initial : first <+: second) : stream greeting first <+: stream greeting second :=
  List.cons_prefix_cons.mpr ⟨rfl, initial.map _⟩

/-- A RECV adds its acknowledgement and nothing else, and a PONG adds nothing. -/
private theorem handleOrSkip_bytes (connection : Connection) (frame : ServerFrame) :
    connection.handleOrSkip frame.bytes =
      { connection with sent := connection.sent ++ frame.ack?.toList } := by
  unfold handleOrSkip handleFrame
  rw [frame.decodePacket_bytes]
  cases frame with
  | recv frame result decoded => rfl
  | pong header kind =>
    rw [ServerFrame.ack?, Option.toList_none, List.append_nil]
    rfl

theorem foldl_handleOrSkip (connection : Connection) (frames : List ServerFrame) :
    (frames.map ServerFrame.bytes).foldl handleOrSkip connection =
      { connection with sent := connection.sent ++ acks frames } := by
  induction frames generalizing connection with
  | nil => simp [acks]
  | cons frame frames ih =>
    rw [List.map_cons, List.foldl_cons, handleOrSkip_bytes, ih]
    cases due : frame.ack? <;> simp [acks, due]

/-- The receive loop acknowledges every frame that the messages complete. -/
theorem receiveLoop_eq (connected : connection.connected = true)
    (fed : (wire.feed connection.tempBuffer messages).1 = frames.map ServerFrame.bytes) :
    connection.receiveLoop messages =
      { connection with
        sent := connection.sent ++ acks frames
        tempBuffer := (wire.feed connection.tempBuffer messages).2 } := by
  induction messages generalizing connection frames with
  | nil =>
    obtain rfl : frames = [] := List.map_eq_nil_iff.mp fed.symm
    simp [receiveLoop, Splitter.feed, acks]
  | cons raw later ih =>
    obtain ⟨now, rest, rfl, taken, others⟩ := List.append_eq_map_iff.mp fed
    let next : Connection :=
      { connection with
        sent := connection.sent ++ acks now
        tempBuffer := (wire.drain (connection.tempBuffer ++ raw)).2 }
    have received : connection.receiveMessage raw = next := by
      unfold receiveMessage
      dsimp only
      rw [← taken, foldl_handleOrSkip]
    rw [receiveLoop, if_pos connected, received, @ih rest next connected others.symm]
    simp [Splitter.feed, acks, next]

/-- The state that a successful CONNACK leaves. -/
def welcomed (greeting : Greeting exchange) : Connection :=
  { opened with
    aesKey := greeting.aesKey
    aesIv := ivOfSalt greeting.result.salt
    serverVersion := greeting.result.serverVersion
    connected := true }

private theorem awaitFrame_greeting (greeting : Greeting exchange) :
    awaitFrame exchange (opened, false) greeting.frame.bytes = .ok (welcomed greeting, true) := by
  unfold awaitFrame
  rw [greeting.decoded]
  dsimp only
  rw [acceptConnack, if_pos greeting.success, greeting.agreed]
  rfl

/-- The handshake passes over every other frame: a RECV is decoded and dropped. -/
private theorem foldlM_awaitFrame (state : Connection × Bool) (frames : List ServerFrame) :
    (frames.map ServerFrame.bytes).foldlM (awaitFrame exchange) state = .ok state := by
  induction frames with
  | nil => rfl
  | cons frame frames ih =>
    have passed : awaitFrame exchange state frame.bytes = .ok state := by
      unfold awaitFrame
      rw [frame.decodePacket_bytes]
      cases frame <;> rfl
    rw [List.map_cons, List.foldlM_cons, passed]
    exact ih

theorem foldlM_stream (greeting : Greeting exchange) (early : List ServerFrame) :
    (stream greeting early).foldlM (awaitFrame exchange) (opened, false) =
      .ok (welcomed greeting, true) := by
  rw [stream, List.foldlM_cons, awaitFrame_greeting]
  exact foldlM_awaitFrame _ early

theorem run_of_incomplete {first : Bytes} (none' : (wire.drain first).1 = []) (later : List Bytes) :
    run exchange (first :: later) = .error (.runtimeError "CONNACK not received") := by
  unfold run doConnect
  dsimp only
  rw [none']
  rfl

/-- Frames that arrive in the first message behind CONNACK go unacknowledged. -/
private theorem run_of_early {first : Bytes} {later : List Bytes} {early late : List ServerFrame}
    (taken : (wire.drain first).1 = stream greeting early)
    (rest : (wire.feed (wire.drain first).2 later).1 = late.map ServerFrame.bytes) :
    ∃ connection, run exchange (first :: later) = .ok connection ∧ connection.connected = true ∧
      connection.sent = acks late := by
  have handshake : doConnect exchange (first :: later) =
      .ok ({ welcomed greeting with tempBuffer := (wire.drain first).2 }, later) := by
    unfold doConnect
    dsimp only
    rw [taken, foldlM_stream]
    rfl
  refine ⟨_, by rw [run, handshake], ?_, ?_⟩
  all_goals rw [receiveLoop_eq rfl rest]
  · rfl
  · exact List.nil_append _

/-- The handshake completes and every RECV frame is acknowledged once, in order. -/
def Delivers (exchange : KeyExchange) (messages : List Bytes) (frames : List ServerFrame) : Prop :=
  ∃ connection, run exchange messages = .ok connection ∧ connection.connected = true ∧
    connection.sent = acks frames

/-- The first message holds CONNACK to its end, and no RECV frame to its end. -/
def Separated (greeting : Greeting exchange) (messages : List Bytes) (frames : List ServerFrame) :
    Prop :=
  ∃ first later, messages = first :: later ∧ greeting.frame.bytes.length ≤ first.length ∧
    ∀ before frame result decoded after,
      frames = before ++ .recv frame result decoded :: after →
        first.length < (stream greeting (before ++ [.recv frame result decoded])).flatten.length

/-- Among frames taken with the handshake there is an acknowledgement due as soon
as one of them is a RECV. -/
theorem acks_eq_nil_iff : acks frames = [] ↔ ∀ before frame result decoded after,
    frames ≠ before ++ .recv frame result decoded :: after := by
  rw [acks, List.filterMap_eq_nil_iff]
  constructor
  · rintro none' before frame result decoded after rfl
    cases none' (.recv frame result decoded) (by simp)
  · intro absent frame member
    obtain ⟨before, after, rfl⟩ := List.append_of_mem member
    cases frame with
    | recv frame result decoded => exact absurd rfl (absent before frame result decoded after)
    | pong header kind => rfl

/-- What the first message completes of the stream: nothing, or CONNACK and the
first frames behind it, and then the receive loop gets the others. -/
private theorem early_cases {first : Bytes} {later : List Bytes}
    (cut : first ++ later.flatten = (stream greeting frames).flatten) :
    (wire.drain first).1 = [] ∨ ∃ early late, frames = early ++ late ∧
      (wire.drain first).1 = stream greeting early ∧
      (wire.feed (wire.drain first).2 later).1 = late.map ServerFrame.bytes := by
  have whole := Splitter.drain_initial (complete_stream greeting frames) cut
  rw [← Splitter.feed_eq_drain (Splitter.unpack_drained first)] at whole
  cases taken : (wire.drain first).1 with
  | nil => exact .inl rfl
  | cons head others =>
    rw [taken, stream, List.cons_append, List.cons.injEq] at whole
    obtain ⟨rfl, split⟩ := whole
    obtain ⟨early, late, rfl, rfl, rest⟩ := List.map_eq_append_iff.mp split
    exact .inr ⟨early, late, rfl, rfl, rest.symm⟩

def sampleExchange : KeyExchange := fun _ => .ok (py "0123456789abcdef")

/-- The body of a CONNACK: time difference, reason code 1, key and salt. -/
def sampleConnackBody : Bytes :=
  List.replicate 8 0x00 ++ [0x01] ++ [0x00, 44] ++ List.replicate 43 0x41 ++ [0x3d] ++
    [0x00, 16] ++ List.replicate 16 0x73

/-- The body of a RECV with empty texts, message id 7, sequence number 9 and no payload. -/
def sampleRecvBody : Bytes :=
  List.replicate 7 0x00 ++ [0x02] ++ List.replicate 13 0x00 ++ [0x07] ++
    [0x00, 0x00, 0x00, 0x09] ++ List.replicate 4 0x00

theorem bytes_short (header : UInt8) (body : Bytes) (long : ¬ singleByte header)
    (short : body.length < 128) (positive : body.length ≠ 0) :
    (Frame.packet header body long).bytes = header :: UInt8.ofNat body.length :: body := by
  have rest : body.length / 0x80 = 0 := Nat.div_eq_of_lt short
  rw [Frame.bytes, encodeVariableLength, if_neg positive, lengthDigits, if_neg positive]
  simp [rest, lengthDigits, Nat.mod_eq_of_lt short]

def sampleGreeting : Greeting sampleExchange where
  frame := .packet 0x20 sampleConnackBody (by decide)
  result := ⟨1, List.replicate 43 (ch 'A') ++ [ch '='], List.replicate 16 (ch 's'), 0, 0, 0⟩
  aesKey := py "0123456789abcdef"
  decoded := by
    rw [bytes_short _ _ _ (by decide) (by decide)]
    rfl
  success := rfl
  agreed := rfl

def sampleRecv : ServerFrame :=
  .recv (.packet 0x50 sampleRecvBody (by decide))
    ⟨⟨false, false, false⟩, [], [], [], 2, [], py "7", 9, 0, []⟩ (by
      rw [bytes_short _ _ _ (by decide) (by decide)]
      decide +kernel)

/-- Every RECV frame is acknowledged exactly when the first message holds CONNACK
whole and ends before the first RECV frame does. -/
theorem delivers_iff (greeting : Greeting exchange) (frames : List ServerFrame)
    (messages : List Bytes) (cut : messages.flatten = (stream greeting frames).flatten) :
    Delivers exchange messages frames ↔ Separated greeting messages frames := by
  cases messages with
  | nil =>
    constructor
    · rintro ⟨connection, ran, -⟩
      cases ran
    · rintro ⟨first, later, never, -⟩
      cases never
  | cons first later =>
    rw [List.flatten_cons] at cut
    have ends {initial : List (List UInt8)} (here : initial <+: stream greeting frames) :=
      Splitter.prefix_drain_iff (complete_stream greeting frames) cut here
    have connack := ends (List.prefix_append [greeting.frame.bytes] _)
    rw [List.flatten_singleton] at connack
    rcases early_cases cut with nothing | ⟨early, late, rfl, taken, rest⟩
    · refine iff_of_false ?_ ?_
      · rintro ⟨connection, ran, -⟩
        rw [run_of_incomplete nothing] at ran
        cases ran
      · rintro ⟨first', later', same, whole, -⟩
        cases same
        have present := connack.mpr whole
        rw [nothing] at present
        cases List.prefix_nil.mp present
    · obtain ⟨connection, ran, connected, sent⟩ := run_of_early taken rest
      have delivers : Delivers exchange (first :: later) (early ++ late) ↔ acks early = [] := by
        have split : acks (early ++ late) = acks early ++ acks late := List.filterMap_append ..
        constructor
        · rintro ⟨connection', ran', -, sent'⟩
          cases ran.symm.trans ran'
          rw [sent, split] at sent'
          exact List.self_eq_append_left.mp sent'
        · intro none'
          exact ⟨connection, ran, connected, by rw [sent, split, none', List.nil_append]⟩
      rw [delivers, acks_eq_nil_iff]
      constructor
      · intro absent
        refine ⟨first, later, rfl, connack.mp (taken ▸ List.prefix_append _ _), ?_⟩
        intro before frame result decoded after shape
        by_contra short
        have initial : before ++ [.recv frame result decoded] <+: early ++ late :=
          ⟨after, by rw [shape, List.append_assoc, List.singleton_append]⟩
        have seen := (ends (stream_initial greeting initial)).mpr (by omega)
        rw [taken] at seen
        have size := seen.length_le
        simp only [stream, List.length_cons, List.length_map] at size
        obtain ⟨others, split⟩ := List.prefix_of_prefix_length_le initial
          (List.prefix_append early late) (by omega)
        exact absent before frame result decoded others (by simp [← split])
      · rintro ⟨first', later', same, -, unseen⟩ before frame result decoded after rfl
        cases same
        have early' : before ++ [.recv frame result decoded] <+:
            before ++ .recv frame result decoded :: after :=
          ⟨after, by rw [List.append_assoc, List.singleton_append]⟩
        have seen := stream_initial greeting early'
        rw [← taken] at seen
        have within := (ends (stream_initial greeting (early'.trans (List.prefix_append _ late)))).mp
          seen
        have beyond := unseen before frame result decoded (after ++ late) (by simp)
        omega

/-- A RECV behind a whole CONNACK, split between the first two messages. -/
theorem delivers_iff_split :
    Delivers sampleExchange
      [sampleGreeting.frame.bytes ++ sampleRecv.bytes.take 1, sampleRecv.bytes.drop 1]
      [sampleRecv] := by
  refine (delivers_iff sampleGreeting _ _ ?_).mpr ⟨_, _, rfl, ?_, ?_⟩
  · simp only [stream, List.map_cons, List.map_nil, List.flatten_cons, List.flatten_nil,
      List.append_nil, List.append_assoc, List.take_append_drop]
  · simp only [List.length_append]
    omega
  · intro before frame result decoded after shape
    cases before with
    | nil =>
      obtain ⟨same, -⟩ := List.cons.inj shape
      have size : sampleRecv.bytes.length = 32 := by
        change (Frame.packet 0x50 sampleRecvBody _).bytes.length = 32
        rw [bytes_short _ _ _ (by decide) (by decide)]
        rfl
      simp only [List.nil_append, ← same, stream, List.map_cons, List.map_nil, List.flatten_cons,
        List.flatten_nil, List.append_nil, List.length_append, List.length_take]
      omega
    | cons head rest =>
      have size := congrArg List.length shape
      simp at size

/-- CONNACK cut behind its header byte: the handshake gives up. -/
theorem splitConnack_not_delivers : ¬ ∀ (exchange : KeyExchange) (greeting : Greeting exchange)
    (frames : List ServerFrame) (messages : List Bytes),
    messages.flatten = (stream greeting frames).flatten → Delivers exchange messages frames := by
  intro always
  obtain ⟨connection, ran, -⟩ := always sampleExchange sampleGreeting []
    [sampleGreeting.frame.bytes.take 1, sampleGreeting.frame.bytes.drop 1]
    (by simp only [stream, List.map_nil, List.flatten_cons, List.flatten_nil, List.append_nil,
      List.take_append_drop])
  have nothing : (wire.drain (sampleGreeting.frame.bytes.take 1)).1 = [] := by
    rw [Splitter.drain_of_none rfl]
  rw [run_of_incomplete nothing] at ran
  cases ran

end Connection

end OctoChannel.Adapter
