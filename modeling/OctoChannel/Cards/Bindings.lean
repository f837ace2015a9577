import OctoChannel.Cards.Capacity
import OctoChannel.Identity.Documents

/-! Card bindings on disk: what `_entry_to_record` writes of an entry, what
`_entry_from_record` accepts, and the document of `CardBindingStore` between them. -/

namespace OctoChannel.Cards

open Foundation Identity

/-- The wall clock in JSON: how a time is printed, and the time that a number stands for.
A number that is no finite float, which is never written, stands for none. -/
structure WallClock where
  text : Int → String
  time : Json → Option Int

/-- What `str`, `int` and `dict` make of values that are no text, no integer and no
object; `none` is what raises. -/
structure Coercions where
  text : Json → PyStr
  number : Json → Option Int
  members : Json → Option (List (PyStr × Json))

namespace Coercions

variable (coercions : Coercions)

/-- `str(value)` -/
def str : Json → PyStr
  | .str text => text
  | value => coercions.text value

/-- `int(value)` -/
def int : Json → Option Int
  | .int value => some value
  | value => coercions.number value

/-- `dict(value)` -/
def dict : Json → Option (List (PyStr × Json))
  | .obj members => some members
  | value => coercions.members value

/-- `tuple(str(item) for item in value)` -/
def strs : Json → Option (List PyStr)
  | .arr items => some (items.map coercions.str)
  | .str text => some (text.map fun character => [character])
  | .obj members => some (members.map Prod.fst)
  | _ => none

end Coercions

def CardState.text : CardState → PyStr
  | .pending => py "pending"
  | .processing => py "processing"
  | .completed => py "completed"

def CardState.ofJson? : Json → Option CardState
  | .str text =>
    if text = py "pending" then some .pending
    else if text = py "processing" then some .processing
    else if text = py "completed" then some .completed
    else none
  | _ => none

def optionalJson : Option Int → Json
  | none => .null
  | some value => .int value

/-- `_optional_int` -/
def optionalInt : Json → Option (Option Int)
  | .null => some none
  | .int value => some (some value)
  | _ => none

/-- An integer field with a default; a Boolean is refused. -/
def intOr (default : Int) : Option Json → Option Int
  | none => some default
  | some (.int value) => some value
  | some _ => none

def strsJson (texts : List PyStr) : Json := .arr (texts.map .str)

def labelsJson (labels : List (PyStr × PyStr)) : Json :=
  .obj (labels.map fun label => (label.1, .str label.2))

variable (clock : WallClock) (coercions : Coercions)

/-- The record of `_entry_to_record`. -/
def CardRecord.fields (record : CardRecord) : List (PyStr × Json) :=
  [(py "message_id", .str record.session.messageId),
    (py "binding_id", .str record.session.bindingId),
    (py "session_key", .str record.session.sessionKey),
    (py "chat_id", .str record.session.chatId),
    (py "channel_id", .str record.session.channelId),
    (py "requester_uid", .str record.session.requesterUid),
    (py "plain", .str record.session.plain),
    (py "kind", .str record.session.kind),
    (py "channel_type", .int record.session.channelType.code),
    (py "card", record.session.card),
    (py "action_labels", labelsJson record.session.actionLabels),
    (py "input_ids", strsJson record.session.inputIds),
    (py "action_channel_ids", strsJson record.session.actionChannelIds),
    (py "max_input_text_bytes", optionalJson record.session.maxInputTextBytes),
    (py "max_inputs_bytes", optionalJson record.session.maxInputsBytes),
    (py "expires_at", .float (clock.text record.expiresAt)),
    (py "state", .str record.state.text),
    (py "claimed_event_id", optionalJson record.claimedEventId),
    (py "attempt_event_id", optionalJson record.attemptEventId),
    (py "dispatch_attempts", .int record.dispatchAttempts),
    (py "card_seq", .int record.cardSeq)]

def CardRecord.toJson (record : CardRecord) : Json := .obj (record.fields clock)

/-- `expires_at` of a record: a number, and a Boolean is one. -/
def expiryOf : Option Json → Option Int
  | some (.bool value) => clock.time (.bool value)
  | some (.int value) => clock.time (.int value)
  | some (.float text) => clock.time (.float text)
  | _ => none

/-- The session of `_entry_from_record`. -/
def sessionFromRecord (members : List (PyStr × Json)) : Option CardSession :=
  let field (name : String) := Dict.lookup (py name) members
  match field "message_id" with
  | some (.str messageId) =>
    if !boundedMessageId messageId then none
    else do
      let bindingId ← field "binding_id"
      let sessionKey ← field "session_key"
      let chatId ← field "chat_id"
      let channelId ← field "channel_id"
      let channelType ← ((field "channel_type").bind coercions.int).bind ChannelType.ofInt?
      let requesterUid ← field "requester_uid"
      let card ← (field "card").bind coercions.dict
      let plain ← field "plain"
      let actionLabels ← (field "action_labels").bind coercions.dict
      let inputIds ← (field "input_ids").bind coercions.strs
      let actionChannelIds ← (field "action_channel_ids").bind coercions.strs
      let maxInputTextBytes ← optionalInt ((field "max_input_text_bytes").getD .null)
      let maxInputsBytes ← optionalInt ((field "max_inputs_bytes").getD .null)
      some {
        messageId := messageId
        bindingId := coercions.str bindingId
        sessionKey := coercions.str sessionKey
        chatId := coercions.str chatId
        channelId := coercions.str channelId
        channelType := channelType
        requesterUid := coercions.str requesterUid
        card := .obj card
        plain := coercions.str plain
        actionLabels := actionLabels.map fun label => (label.1, coercions.str label.2)
        inputIds := inputIds
        actionChannelIds := actionChannelIds
        maxInputTextBytes := maxInputTextBytes
        maxInputsBytes := maxInputsBytes
        clarify := none
        kind := (field "kind").elim (py "interactive") coercions.str }
  | _ => none

/-- `_entry_from_record`; a negative `card_seq`, which is never written, counts as zero. -/
def entryFromRecord (wallNow monoNow : Int) : Json → Option CardEntry
  | .obj members =>
    let field (name : String) := Dict.lookup (py name) members
    match expiryOf clock (field "expires_at"), (field "state").bind CardState.ofJson? with
    | some expiresAt, some state =>
      if expiresAt ≤ wallNow then none
      else do
        let session ← sessionFromRecord coercions members
        let dispatchAttempts ← intOr 0 (field "dispatch_attempts")
        let cardSeq ← intOr 0 (field "card_seq")
        let attemptEventId ← optionalInt ((field "attempt_event_id").getD .null)
        if session.kind ≠ py "interactive" then none
        else
          some {
            session := session
            expiresAt := monoNow + (expiresAt - wallNow)
            wallExpiresAt := expiresAt
            state := if state = .processing then .pending else state
            claimedEventId := none
            attemptEventId := attemptEventId
            dispatchAttempts := dispatchAttempts
            cardSeq := cardSeq.toNat }
    | _, _ => none
  | _ => none

section Store

variable (runtime : Json.Runtime) (sha256 : Bytes → Bytes)

def bindingsBody (robotId : RobotId) (records : List Json) : Json :=
  .obj [(py "robot_id", .str robotId.val), (py "records", .arr records)]

/-- The bytes that `save` puts into the file. -/
def saveBindings (robotId : RobotId) (records : List Json) : Except PyError Bytes :=
  documentBytes runtime sha256 (bindingsBody robotId records)

/-- The record is inside its TTL. -/
def unexpired (now : Int) : Json → Bool
  | .obj members =>
    match expiryOf clock (Dict.lookup (py "expires_at") members) with
    | some expiresAt => now < expiresAt
    | none => false
  | _ => false

/-- The document belongs to this identity. -/
def ownedBy (robotId : RobotId) (members : List (PyStr × Json)) : Bool :=
  match Json.field (py "robot_id") members with
  | .str owner => owner = robotId.val
  | _ => false

/-- `load`: a file that is missing, unusable or of another identity holds nothing. -/
def loadBindings (robotId : RobotId) (file : Option FileContent) (now : Int) :
    Except PyError (List Json) :=
  match readStateDocument runtime sha256 file with
  | .error error => .error error
  | .ok (.ok (.obj members)) =>
    if !ownedBy robotId members then .ok []
    else (Registry.iterate (Json.field (py "records") members)).map
      fun records => records.filter (unexpired clock now)
  | .ok _ => .ok []

/-- The loop of `_restore_locked` over what was loaded. -/
def rehydrateBindings (wallNow monoNow : Int) : List Json → CardRegistry → CardRegistry
  | [], registry => registry
  | record :: rest, registry =>
    match entryFromRecord clock coercions wallNow monoNow record with
    | none => rehydrateBindings wallNow monoNow rest registry
    | some entry =>
      if registry.hasRoom then
        rehydrateBindings wallNow monoNow rest (registry.put entry.session.messageId entry)
      else registry

/-- `_restore_locked`: a store that cannot be loaded restores nothing. -/
def restoreBindings (robotId : RobotId) (file : Option FileContent) (loadedAt wallNow monoNow : Int)
    (registry : CardRegistry) : CardRegistry :=
  match loadBindings clock runtime sha256 robotId file loadedAt with
  | .error _ => registry
  | .ok records => rehydrateBindings clock coercions wallNow monoNow records registry

end Store

end OctoChannel.Cards
