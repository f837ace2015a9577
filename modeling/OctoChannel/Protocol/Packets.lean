import OctoChannel.Foundation.JsonLoads
import OctoChannel.Protocol.Frames

namespace OctoChannel.Protocol

open Foundation

/-- Big-endian, `count` bytes, higher bits cut off: `struct.pack` after the mask. -/
def packInt (count value : Nat) : Bytes :=
  match count with
  | 0 => []
  | count + 1 => UInt8.ofNat (value / 256 ^ count) :: packInt count value

def encodePacket (packetType : PacketType) (body : Bytes) : Bytes :=
  UInt8.ofNat (packetType.code <<< 4) :: encodeVariableLength body.length ++ body

def encodePongPacket : Bytes := [UInt8.ofNat (PacketType.pong.code <<< 4)]

/-- `write_string`; a lone surrogate raises `UnicodeEncodeError`. -/
def writeString (text : PyStr) : Except PyError Bytes :=
  if text = [] then .ok (packInt 2 0)
  else
    match utf8Encode text with
    | none => .error .unicodeError
    | some encoded => .ok (packInt 2 encoded.length ++ encoded)

def encodeConnectPacket (version deviceFlag : Nat) (deviceId uid token : PyStr)
    (clientTimestamp : Nat) (clientKey : PyStr) : Except PyError Bytes := do
  let deviceId ← writeString deviceId
  let uid ← writeString uid
  let token ← writeString token
  let clientKey ← writeString clientKey
  return encodePacket .connect (packInt 1 version ++ (packInt 1 deviceFlag ++ (deviceId ++ (uid ++
    (token ++ (packInt 8 clientTimestamp ++ clientKey))))))

/-- `encode_recvack_packet`, for a message id in decimal digits. -/
def encodeRecvackPacket (messageId : PyStr) (messageSeq : Nat) : Bytes :=
  encodePacket .recvack (packInt 8 (Json.readNat messageId) ++ packInt 4 messageSeq)

/-- `Decoder`: the state is the data from the offset on, empty when the offset lies
behind the end. -/
abbrev Decoder := StateT Bytes (Except PyError)

namespace Decoder

def readByte : Decoder Nat := fun data =>
  match data with
  | [] => .error .indexError
  | byte :: rest => .ok (byte.toNat, rest)

/-- `struct.unpack_from` of a big-endian unsigned integer. -/
def readInt (count : Nat) : Decoder Nat := fun data =>
  if data.length < count then .error .structError
  else .ok ((data.take count).foldl (fun value byte => value * 256 + byte.toNat) 0, data.drop count)

def readInt16 : Decoder Nat := readInt 2

def readInt32 : Decoder Nat := readInt 4

def readInt64 : Decoder Nat := readInt 8

def readInt64String : Decoder PyStr := do
  let value ← readInt64
  return Json.printNat value

/-- The slice of a string may be shorter than its length says. -/
def readString : Decoder PyStr := do
  let length ← readInt16
  if length = 0 then return []
  let data ← get
  set (data.drop length)
  match utf8Decode (data.take length) with
  | none => throw .unicodeError
  | some text => return text

def readRemaining : Decoder Bytes := do
  let data ← get
  set ([] : Bytes)
  return data

/-- The loop of `read_variable_length`, which runs while `multiplier < 27`. -/
def readLengthFrom (rounds multiplier value : Nat) : Decoder Nat :=
  match rounds with
  | 0 => return value
  | rounds + 1 => do
    let byte ← readByte
    let value := value ||| ((byte &&& 127) <<< multiplier)
    if byte &&& 128 = 0 then return value
    readLengthFrom rounds (multiplier + 7) value

def readVariableLength : Decoder Nat := readLengthFrom 4 0 0

end Decoder

open Decoder

structure SettingFlags where
  receiptEnabled : Bool
  topic : Bool
  streamOn : Bool
  deriving DecidableEq

def parseSettingByte (value : Nat) : SettingFlags where
  receiptEnabled := (value >>> 7) &&& 0x01 > 0
  topic := (value >>> 3) &&& 0x01 > 0
  streamOn := (value >>> 1) &&& 0x01 > 0

structure ConnackResult where
  reasonCode : Nat
  serverKey : PyStr
  salt : PyStr
  serverVersion : Nat
  timeDiff : Nat
  nodeId : Nat
  deriving DecidableEq

structure RecvResult where
  setting : SettingFlags
  msgKey : PyStr
  fromUid : PyStr
  channelId : PyStr
  channelType : Nat
  clientMsgNo : PyStr
  messageId : PyStr
  messageSeq : Nat
  timestamp : Nat
  encryptedPayload : Bytes
  deriving DecidableEq

/-- The pairs `decode_packet` returns; a type without a decoder keeps its number. -/
inductive Packet where
  | pong
  | ping
  | connack (result : ConnackResult)
  | recv (result : RecvResult)
  | disconnect (reasonCode : Nat) (reason : PyStr)
  | other (packetType : Nat)
  deriving DecidableEq

def decodeConnack (hasServerVersion : Bool) : Decoder ConnackResult := do
  let serverVersion ← if hasServerVersion then readByte else pure 0
  let timeDiff ← readInt64
  let reasonCode ← readByte
  let serverKey ← readString
  let salt ← readString
  let nodeId ← if serverVersion ≥ 4 then readInt64 else pure 0
  return { reasonCode, serverKey, salt, serverVersion, timeDiff, nodeId }

def decodeRecv : Decoder RecvResult := do
  let setting := parseSettingByte (← readByte)
  let msgKey ← readString
  let fromUid ← readString
  let channelId ← readString
  let channelType ← readByte
  let _expire ← readInt32
  let clientMsgNo ← readString
  let messageId ← readInt64String
  let messageSeq ← readInt32
  let timestamp ← readInt32
  if setting.topic then
    let _topic ← readString
  let encryptedPayload ← readRemaining
  return { setting, msgKey, fromUid, channelId, channelType, clientMsgNo, messageId, messageSeq,
           timestamp, encryptedPayload }

def decodeDisconnect : Decoder Packet := do
  let reasonCode ← readByte
  let reason ← readString
  return .disconnect reasonCode reason

/-- The body of a packet with a length, by its type. -/
def decodeBody (packetType : Nat) (hasServerVersion : Bool) : Decoder Packet := do
  let _header ← readByte
  let _remainingLength ← readVariableLength
  if packetType = PacketType.connack.code then return .connack (← decodeConnack hasServerVersion)
  else if packetType = PacketType.recv.code then return .recv (← decodeRecv)
  else if packetType = PacketType.disconnect.code then decodeDisconnect
  else return .other packetType

def decodePacket (data : Bytes) : Except PyError Packet :=
  match data with
  | [] => .error (.valueError "Empty packet data")
  | firstByte :: _ =>
    if packetType firstByte = PacketType.pong.code then .ok .pong
    else if packetType firstByte = PacketType.ping.code then .ok .ping
    else
      match decodeBody (packetType firstByte) (firstByte.toNat &&& 0x01 > 0) data with
      | .error error => .error error
      | .ok (packet, _) => .ok packet

end OctoChannel.Protocol
