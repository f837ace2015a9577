import OctoChannel.Foundation.Outcomes
import OctoChannel.Inbound.Labels
import OctoChannel.Mentions.Patterns

namespace OctoChannel.Inbound

open Foundation Mentions Chats

def unknownMessageTypeTelemetryCap : Nat := 32

/-- The names of the users, and how often each unknown type was seen. A list of names is one
of dictionary entries; only texts get as far as the base uids. -/
structure Memory where
  uidToName : List (Json × Json)
  baseUidToName : Dict PyStr Json
  unknownMessageTypeCounts : Dict Int Nat
  unknownMessageTypeLogBudget : Nat

abbrev Resolving := Attempt Memory Fault

namespace Memory

/-- `while len(counts) > cap: counts.popitem(last=False)` -/
def capCounts (counts : Dict Int Nat) : Dict Int Nat where
  entries := counts.entries.drop (counts.size - unknownMessageTypeTelemetryCap)
  nodup := by
    rw [List.map_drop]
    exact counts.nodup.sublist (List.drop_sublist _ _)

/-- `_record_unknown_message_type`; a warning is logged for each power of two. -/
def recordUnknownMessageType (memory : Memory) (messageType : Int) : Memory :=
  let counts := memory.unknownMessageTypeCounts
  let count := min ((counts.get? messageType).getD 0 + 1) 2147483647
  let logs := 0 < memory.unknownMessageTypeLogBudget ∧ (count = 1 ∨ count &&& (count - 1) = 0)
  { memory with
    unknownMessageTypeCounts := capCounts ((counts.erase messageType).set messageType count)
    unknownMessageTypeLogBudget :=
      if logs then memory.unknownMessageTypeLogBudget - 1 else memory.unknownMessageTypeLogBudget }

end Memory

namespace Resolver

variable (resolver : Resolver)

/-- `entries.get(key)` -/
def nameOf (entries : List (Json × Json)) (key : Json) : Json :=
  ((entries.find? fun entry => resolver.equal entry.1 key).map Prod.snd).getD .null

/-- `entries[key] = name` -/
def assignName (key name : Json) : List (Json × Json) → List (Json × Json)
  | [] => [(key, name)]
  | entry :: rest =>
    if resolver.equal entry.1 key then (entry.1, name) :: rest else entry :: assignName key name rest

/-- `_record_uid_name(uid, name, overwrite=False)` of a uid and a name that are not empty; the
pattern of the space prefix takes no uid but a text. -/
def recordUidName (uid name : Json) : Resolving Unit := do
  modify fun memory =>
    if memory.uidToName.any fun entry => resolver.equal entry.1 uid then memory
    else { memory with uidToName := memory.uidToName ++ [(uid, name)] }
  match uid with
  | .str text =>
    let base := extractBaseUid resolver.digits text
    if base ≠ [] ∧ base ≠ text then
      modify fun memory => { memory with baseUidToName := memory.baseUidToName.set base name }
  | _ => throw .typeError

/-- One entry of `users`, and what it adds to `user_map`. -/
def learnUser (user : Members) : Resolving (Option (Json × Json)) := do
  let uid := Json.field (py "uid") user
  let name := Json.field (py "name") user
  if truthy uid && truthy name then
    if !hashable uid then throw .typeError
    resolver.recordUidName uid name
    return some (uid, name)
  else return none

/-- `user_map.get(uid) or self._uid_to_name.get(uid) or uid` -/
def senderName (userMap : List (Json × Json)) (memory : Memory) (uid : Json) : Json :=
  let shown := resolver.nameOf userMap uid
  let learned := resolver.nameOf memory.uidToName uid
  if truthy shown then shown else if truthy learned then learned else uid

/-- `for item in value or []`, where only objects count: the characters of a text and the keys
of an object are none. -/
def objectsIn (value : Json) : Except Fault (List Members) :=
  match value with
  | .arr items => .ok (items.filterMap asMembers)
  | .str _ | .obj _ => .ok []
  | value => if truthy value then .error .typeError else .ok []

/-- `message.get("payload") or {}`, as long as it has a `get`. -/
def payloadOf (message : Members) : Option Members :=
  let payload := Json.field (py "payload") message
  if truthy payload then asMembers payload else some []

/-- `m.get("from_uid", "unknown")` -/
def senderOf (message : Members) : Json :=
  (Dict.lookup (py "from_uid") message).getD (.str (py "unknown"))

def isForward (payload : Members) : Bool :=
  MessageType.MultipleForward.equals (Json.field (py "type") payload)

def unknownTypeText (messageType : Int) : PyStr :=
  py "[未知消息类型: " ++ Json.printInt messageType ++ py "]"

/-- `text or fallback` -/
def orText (text fallback : PyStr) : PyStr := if text = [] then fallback else text

/-- `_resolve_inner_message_text`, where `nested` renders a forward; the text of a message is
whatever its content is. -/
def resolveInnerMessageText (nested : Members → Resolving PyStr) (inner : Members) :
    Resolving Json := do
  match payloadOf inner with
  | none => throw .attributeError
  | some payload =>
    let msgType := Json.field (py "type") payload
    let content := Json.field (py "content") payload
    match ← resolver.renderUrlFreeMediaPlaceholder msgType (Json.field (py "name") payload) with
    | some placeholder => return .str placeholder
    | none =>
      if MessageType.Text.equals msgType then
        return if truthy content then content else .str []
      else if MessageType.Location.equals msgType then
        return .str (resolver.formatLocationText payload)
      else if MessageType.Card.equals msgType then
        return .str (formatCardText payload (py "[名片]"))
      else if MessageType.InteractiveCard.equals msgType then
        return .str (orText ((asText (Json.field (py "plain") payload)).getD []) (py "[卡片]"))
      else if MessageType.MultipleForward.equals msgType then
        return .str (← nested payload)
      else if MessageType.RichText.equals msgType then
        return .str (orText (resolver.richTextOfMembers payload).1 (py "[图文消息]"))
      else
        match msgType with
        | .null => return .str (orText ((asText content).getD []) (py "[消息]"))
        | msgType =>
          modify fun memory => memory.recordUnknownMessageType (plainCode msgType)
          return .str (unknownTypeText (plainCode msgType))

/-- The lines of one message of a forward. -/
def messageLines (nested : Members → Resolving PyStr) (userMap : List (Json × Json))
    (message : Members) : Resolving (List PyStr) := do
  if !hashable (senderOf message) then throw .typeError
  let memory ← get
  let sender := resolver.format (resolver.senderName userMap memory (senderOf message))
  match payloadOf message with
  | none => throw .attributeError
  | some payload =>
    if isForward payload then
      let text ← nested payload
      return [sender ++ py ": [合并转发]", text]
    else
      let body ← resolver.resolveInnerMessageText nested message
      return [sender ++ py ": " ++ resolver.format body]

/-- `user_map`: a later entry takes the place of an earlier one. -/
def userMapOf (learned : List (Option (Json × Json))) : List (Json × Json) :=
  (learned.filterMap id).foldl (fun entries entry => resolver.assignName entry.1 entry.2 entries) []

/-- The messages of a forward; without any, the placeholder alone. -/
def forwardText (nested : Members → Resolving PyStr) (payload : Members)
    (userMap : List (Json × Json)) : Resolving PyStr := do
  let msgs := Json.field (py "msgs") payload
  if truthy msgs then
    let messages ← objectsIn msgs
    let lines ← messages.mapM (resolver.messageLines nested userMap)
    return [ch '\n'].intercalate (py "[合并转发: 聊天记录]" :: lines.flatten)
  else return py "[合并转发]"

/-- `_resolve_multiple_forward_text`; `room` is how many more calls of it the stack takes. -/
def resolveMultipleForwardText : Nat → Members → Resolving PyStr
  | 0, _ => throw .recursionError
  | room + 1, payload => do
    let users ← objectsIn (Json.field (py "users") payload)
    let learned ← users.mapM resolver.learnUser
    resolver.forwardText (resolveMultipleForwardText room) payload (resolver.userMapOf learned)

/-- `card_data`: the fields that are left, with the name of the payload. -/
def cardData (payload : MessagePayload) : Members :=
  match payload.name with
  | some (point :: rest) => Dict.assign (py "name") (.str (point :: rest)) payload.extra
  | _ => payload.extra

/-- The content of a message that has no label. -/
def unlabelledContent (room : Nat) (payload : MessagePayload) : Resolving PyStr :=
  match payload.type with
  | .known .Text => return (payload.content.getD []).dropWhile CodePoint.isWhitespace
  | .known .Location => return resolver.formatLocationText payload.extra
  | .known .Card => return formatCardText (cardData payload) (py "[名片: 未知]")
  | .known .InteractiveCard => return orText (payload.plain.getD []) (py "[卡片]")
  | .known .MultipleForward => resolver.resolveMultipleForwardText room payload.extra
  | .known .RichText => return orText (resolver.richTextOfPayload payload).1 (py "[图文消息]")
  | type => do
    let code := plainCode type.value
    modify fun memory => memory.recordUnknownMessageType code
    return unknownTypeText code

def nameOfPayload (payload : MessagePayload) : Json := (payload.name.map Json.str).getD .null

/-- `_resolve_content` -/
def resolveContent (room : Nat) (payload : MessagePayload) : Resolving PyStr := do
  match ← resolver.renderUrlFreeMediaPlaceholder payload.type.value (nameOfPayload payload) with
  | some placeholder => return placeholder
  | none => resolver.unlabelledContent room payload

/-- `_resolve_quoted_message_text` -/
def resolveQuotedMessageText (room : Nat) (replyPayload : Json) : Resolving PyStr :=
  match replyPayload with
  | .obj members =>
    tryCatch
      (do
        let rendered ← resolver.resolveContent room (.fromDict members)
        return neutralizeStructuredMentionEnvelopes rendered)
      fun fault => if fault.IsCaught then return [] else throw fault
  | _ => return []

end Resolver

end OctoChannel.Inbound
