import OctoChannel.Adapter.Connection
import OctoChannel.Foundation.JsonLoads
import OctoChannel.Inbound.Payload
import OctoChannel.Protocol.Encryption
import OctoChannel.Protocol.WireRoundTrip

/-! What the server says over one connection and what the runtime takes from it: key
agreement, frames cut anywhere, encrypted payloads, and the messages in `_handle_recv`. -/

namespace OctoChannel.Adapter

open Foundation Protocol Inbound

/-- A message as `_handle_recv` hands it on. -/
structure BotMessage where
  messageId : PyStr
  messageSeq : Nat
  fromUid : PyStr
  channelId : PyStr
  channelType : Nat
  timestamp : Nat
  payload : MessagePayload

namespace Connection

variable (primitives : Primitives) (runtime : Json.Runtime) (robotId : PyStr)

/-- The decrypted payload; every exception on the way drops the message. -/
def recvPayload (connection : Connection) (recv : RecvResult) : Option Members :=
  match aesDecrypt primitives recv.encryptedPayload connection.aesKey connection.aesIv with
  | .error _ => none
  | .ok decrypted =>
    match (utf8Decode decrypted).map (Json.loads runtime) with
    | some (.ok (.obj members)) => some members
    | _ => none

/-- `_handle_recv` up to the dispatch by kind of message; the robot's own are skipped. -/
def handleRecv (connection : Connection) (recv : RecvResult) : Option BotMessage :=
  match connection.recvPayload primitives runtime recv with
  | none => none
  | some members =>
    if recv.fromUid = robotId then none
    else some
      { messageId := recv.messageId
        messageSeq := recv.messageSeq
        fromUid := recv.fromUid
        channelId := recv.channelId
        channelType := recv.channelType
        timestamp := recv.timestamp
        payload := MessagePayload.fromDict members }

/-- What a frame of the receive loop yields. -/
def frameMessage (connection : Connection) (frame : Bytes) : Option BotMessage :=
  match decodePacket frame with
  | .ok (.recv recv) => connection.handleRecv primitives runtime robotId recv
  | _ => none

/-- The messages that `_receive_loop` hands on, in order. -/
def inbox (connection : Connection) : List Bytes → List BotMessage
  | [] => []
  | raw :: later =>
    if connection.connected then
      (wire.drain (connection.tempBuffer ++ raw)).1.filterMap
          (connection.frameMessage primitives runtime robotId) ++
        inbox (connection.receiveMessage raw) later
    else []

/-- The handshake, and behind it the messages of the receive loop. -/
def received (exchange : KeyExchange) (messages : List Bytes) : Except PyError (List BotMessage) :=
  (doConnect exchange messages).map fun (connection, later) =>
    connection.inbox primitives runtime robotId later

/-- A message of the server: its header, the text it encrypts, and the object it spells. -/
structure Sealed (aesKey aesIv : PyStr) where
  header : RecvFields
  text : PyStr
  members : Members
  sealed : PyStr
  encrypted : aesEncrypt primitives text aesKey aesIv = .ok sealed
  spelled : Json.loads runtime text = .ok (.obj members)
  short : { header with payload := asciiBytes sealed }.body.length < 2 ^ 28

namespace Sealed

variable {primitives runtime robotId} {aesKey aesIv : PyStr}
  (message : Sealed primitives runtime aesKey aesIv)

/-- The header with the ciphertext behind it. -/
def fields : RecvFields := { message.header with payload := asciiBytes message.sealed }

theorem decoded : decodePacket (encodePacket .recv message.fields.body) =
    .ok (.recv message.fields.result) :=
  message.fields.decodes_body_iff.mpr (.inl message.short)

end Sealed

/-- The server sends messages and answers pings. -/
inductive Sent (aesKey aesIv : PyStr) where
  | recv (message : Sealed primitives runtime aesKey aesIv)
  | pong (header : UInt8) (kind : packetType header = PacketType.pong.code)

variable {primitives runtime} {aesKey aesIv : PyStr}

variable {connection : Connection} {robotId}

variable {exchange : KeyExchange} {greeting : Greeting exchange} {frames : List ServerFrame}
  {messages : List Bytes}

end Connection

end OctoChannel.Adapter
