import OctoChannel.Identity.Registry

namespace OctoChannel.Identity

open Foundation

namespace Registry

variable (registry : Registry)

/-- The one target a session record names: the comprehension over
`_target_sessions` keeps the last target that lists the session. -/
def sessionTarget (key : SessionKey) : Option TargetKey :=
  (registry.listings key).getLast?

def sessionRecord (entry : SessionKey × RobotId) : Json :=
  .obj ([(py "session_key", .str entry.1.val), (py "robot_id", .str entry.2.val)] ++
    match registry.sessionTarget entry.1 with
    | some target =>
      [(py "chat_type", .str target.1.text), (py "chat_id", .str target.2.val)]
    | none => [])

def targetRecord (entry : TargetKey × RobotId) : Json :=
  .obj [(py "chat_type", .str entry.1.1.text), (py "chat_id", .str entry.1.2.val),
    (py "robot_id", .str entry.2.val),
    (py "channel_type", match registry.targetChannelTypes.get? entry.1 with
      | some channelType => .int channelType.code
      | none => .null),
    (py "wire_chat_id", match registry.targetWireIds.get? entry.1 with
      | some wire => .str wire.val
      | none => .null),
    (py "wire_chat_id_known", .bool (registry.targetWireIds.get? entry.1).isSome)]

def conflictedSessions : List PyStr := (registry.sessionConflicts.image (·.val)).sort

def conflictedTargets : List (PyStr ×ₗ PyStr) :=
  (registry.targetConflicts.image fun target => toLex (target.1.text, target.2.val)).sort

def targetConflictRecord (conflict : PyStr ×ₗ PyStr) : Json :=
  .arr [.str (ofLex conflict).1, .str (ofLex conflict).2]

def bodyLocked : Json :=
  .obj [
    (py "sessions", .arr (registry.sessionRoutes.entries.map registry.sessionRecord)),
    (py "targets", .arr (registry.targetRoutes.entries.map registry.targetRecord)),
    (py "session_conflicts", .arr (registry.conflictedSessions.map .str)),
    (py "target_conflicts", .arr (registry.conflictedTargets.map targetConflictRecord))]

/-- `value or ()` and the iteration over it: a string yields its characters, an
object its keys, and anything truthy without an iterator raises. -/
def iterate : Json → Except PyError (List Json)
  | .arr items => .ok items
  | .str text => .ok (text.map fun point => .str [point])
  | .obj members => .ok (members.map fun member => .str member.1)
  | .null => .ok []
  | .bool false => .ok []
  | .int 0 => .ok []
  | .bool true => .error (.typeError "'bool' object is not iterable")
  | .int _ => .error (.typeError "'int' object is not iterable")
  | .float text =>
    if text = "0.0" ∨ text = "-0.0" then .ok []
    else .error (.typeError "'float' object is not iterable")

/-- A statement of `_apply_body`: the registry after it, and what it raised. -/
abbrev Applied := Registry × Option PyError

def applySession (registry : Registry) : Json → Applied
  | .obj record =>
    match nonemptyOfJson? (Json.field (py "session_key") record),
        RobotId.ofJson? (Json.field (py "robot_id") record) with
    | some key, some robotId =>
      let routed := { registry with sessionRoutes := registry.sessionRoutes.set key robotId }
      match chatTypeIn (Json.field (py "chat_type") record) with
      | .error error => (routed, some error)
      | .ok none => (routed, none)
      | .ok (some chatType) =>
        match nonemptyOfJson? (Json.field (py "chat_id") record) with
        | none => (routed, none)
        | some chatId =>
          ({ routed with
              targetSessions := routed.targetSessions.link (chatType, chatId) key }, none)
    | _, _ => (registry, none)
  | _ => (registry, none)

/-- The wire id a target record establishes. Snapshots older than the
`wire_chat_id_known` flag take a DM whose wire id repeats the chat id as
unknown. `none` refuses the record. -/
def storedWire (chatType : ChatType) (chatId : ChatId) (record : List (PyStr × Json)) :
    Option (Option WireChatId) :=
  let wire := (Dict.lookup (py "wire_chat_id") record).getD (.str chatId.val)
  let repeatsChatId : Bool := match wire with
    | .str text => text = chatId.val
    | _ => false
  let known := match Json.field (py "wire_chat_id_known") record with
    | .null => some !(chatType = ChatType.dm && repeatsChatId)
    | .bool known => some known
    | _ => none
  match known, wire with
  | some _, .null => some none
  | some known, .str text =>
    (WireChatId.ofStr? text).map fun wire => if known then some wire else none
  | _, _ => none

def applyTarget (registry : Registry) : Json → Applied
  | .obj record =>
    match chatTypeIn (Json.field (py "chat_type") record) with
    | .error error => (registry, some error)
    | .ok none => (registry, none)
    | .ok (some chatType) =>
      match nonemptyOfJson? (Json.field (py "chat_id") record),
          RobotId.ofJson? (Json.field (py "robot_id") record),
          ChannelType.ofJson? (Json.field (py "channel_type") record) with
      | some chatId, some robotId, some channelType =>
        match storedWire chatType chatId record with
        | none => (registry, none)
        | some wire =>
          ((registry.openTarget (chatType, chatId) robotId).recordWire (chatType, chatId)
            channelType wire, none)
      | _, _, _ => (registry, none)
  | _ => (registry, none)

def applySessionConflict (registry : Registry) (key : Json) : Applied :=
  match nonemptyOfJson? key with
  | some key => ({ registry with sessionConflicts := insert key registry.sessionConflicts }, none)
  | none => (registry, none)

def applyTargetConflict (registry : Registry) : Json → Applied
  | .arr [chatType, chatId] =>
    match chatTypeIn chatType with
    | .error error => (registry, some error)
    | .ok none => (registry, none)
    | .ok (some chatType) =>
      match nonemptyOfJson? chatId with
      | some chatId =>
        ({ registry with targetConflicts := insert (chatType, chatId) registry.targetConflicts }, none)
      | none => (registry, none)
  | _ => (registry, none)

/-- A `for` loop over records: an exception ends it where it stands. -/
def forEach (apply : Registry → Json → Applied) (registry : Registry) : List Json → Applied
  | [] => (registry, none)
  | record :: rest =>
    match apply registry record with
    | (next, none) => forEach apply next rest
    | (next, some error) => (next, some error)

/-- One loop of `_apply_body` over a member of the body. -/
def applyField (name : String) (apply : Registry → Json → Applied) (members : List (PyStr × Json)) :
    Applied → Applied
  | (registry, some error) => (registry, some error)
  | (registry, none) =>
    match iterate (Json.field (py name) members) with
    | .error error => (registry, some error)
    | .ok records => forEach apply registry records

def cleared : Registry :=
  { fresh with
    dirty := registry.dirty
    restoredFromBackup := registry.restoredFromBackup
    snapshotCorrupt := registry.snapshotCorrupt }

/-- `_apply_body`: the maps are cleared before the first record is read. -/
def applyBody (registry : Registry) : Json → Applied
  | .obj members =>
    let applied := (registry.cleared, none)
      |> applyField "sessions" applySession members
      |> applyField "targets" applyTarget members
      |> applyField "session_conflicts" applySessionConflict members
      |> applyField "target_conflicts" applyTargetConflict members
    match applied with
    | (restored, none) => ({ restored with dirty := false }, none)
    | (partly, some error) => (partly, some error)
  | _ => ({ registry with snapshotCorrupt := true }, none)

/-- How the loop of `bind_plan` ends. -/
inductive PlanEnd where
  | accepted
  | refused
  | raised (error : PyError)
  deriving DecidableEq

def planArgs (robotId : PyStr) (route : PlannedRoute) : BindArgs where
  robotId := robotId
  sessionKey := some route.sessionKey.val
  chatType := route.chatType.text
  chatId := route.chatId.val
  channelType := route.channelType.code
  wireChatId := none
  wireChatIdKnown := route.chatType ≠ .dm

def bindRoutes (robotId : PyStr) : Registry → List PlannedRoute → PlanEnd × Registry
  | registry, [] => (.accepted, registry)
  | registry, route :: rest =>
    match registry.bind (planArgs robotId route) with
    | (.error error, next) => (.raised error, next)
    | (.ok .conflict, next) => (.refused, next)
    | (.ok .capacity, next) => (.refused, next)
    | (.ok .bound, next) => bindRoutes robotId next rest
    | (.ok .idempotent, next) => bindRoutes robotId next rest

/-- Bind a frozen legacy plan; a refused route restores the snapshot taken first. -/
def bindPlan (robotId : PyStr) (plan : List PlannedRoute) : Except PyError Bool × Registry :=
  match registry.bindRoutes robotId plan with
  | (.accepted, bound) => (.ok true, bound)
  | (.raised error, partly) => (.error error, partly)
  | (.refused, partly) =>
    match partly.applyBody registry.bodyLocked with
    | (restored, none) => (.ok false, { restored with dirty := registry.dirty })
    | (failed, some error) => (.error error, failed)

structure ForgetArgs where
  robotId : PyStr
  chatType : PyStr
  chatId : PyStr
  deriving DecidableEq

def ForgetArgs.validate (args : ForgetArgs) : Except PyError (RobotId × TargetKey) :=
  match RobotId.ofStr? args.robotId with
  | none => .error (.valueError "invalid Octo robot_id")
  | some robotId =>
    match ChatType.ofStr? args.chatType with
    | none => .error (.valueError "invalid Octo chat_type")
    | some chatType =>
      match nonempty? args.chatId with
      | none => .error (.valueError "invalid Octo chat_id")
      | some chatId => .ok (robotId, chatType, chatId)

/-- The guards of `forget_target`: an unconflicted target of this robot, none of
whose sessions is conflicted. -/
def forgettable (robotId : RobotId) (target : TargetKey) : Bool :=
  target ∉ registry.targetConflicts ∧ registry.targetRoutes.get? target = some robotId ∧
    ∀ key ∈ registry.linked target, key ∉ registry.sessionConflicts

/-- Drop a holder; an emptied entry of the reverse index is removed. -/
def releaseHolder (holder : ChatType × RobotId) (chatId : ChatId) : Links ChatId (ChatType × RobotId) :=
  match registry.chatIndex.get? chatId with
  | none => registry.chatIndex
  | some holders =>
    if holders.erase holder = ∅ then registry.chatIndex.erase chatId
    else registry.chatIndex.set chatId (holders.erase holder)

/-- The sessions of a dropped target that no other target lists any more. -/
def orphaned (target : TargetKey) (key : SessionKey) : Bool :=
  key ∈ registry.linked target ∧
    Links.listings (registry.targetSessions.erase target) key = []

/-- The maps after a target and the sessions only it listed are gone. -/
def forgotten (robotId : RobotId) (target : TargetKey) : Registry :=
  { registry with
    targetRoutes := registry.targetRoutes.erase target
    targetSessions := registry.targetSessions.erase target
    targetChannelTypes := registry.targetChannelTypes.erase target
    targetWireIds := registry.targetWireIds.erase target
    chatIndex := registry.releaseHolder (target.1, robotId) target.2
    sessionRoutes := registry.sessionRoutes.filterKeys fun key => !registry.orphaned target key }

/-- How one `_write_snapshot` ends: only an `OSError` is reported as `False`. -/
inductive WriteEnd where
  | durable
  | failed
  | raised (error : PyError)
  deriving DecidableEq

/-- The flags after a write that replaced the current file. -/
def written : Registry :=
  { registry with dirty := false, restoredFromBackup := false, snapshotCorrupt := false }

/-- `forget_target`, given how the write of the new body ends. -/
def forgetTarget (args : ForgetArgs) (write : WriteEnd) : Except PyError Bool × Registry :=
  match args.validate with
  | .error error => (.error error, registry)
  | .ok (robotId, target) =>
    if registry.forgettable robotId target then
      let dropped := registry.forgotten robotId target
      match write with
      | .durable => (.ok true, dropped.written)
      | .raised error => (.error error, dropped)
      | .failed =>
        match dropped.applyBody registry.bodyLocked with
        | (restored, none) =>
          (.error (.runtimeError "Octo route deletion could not be persisted"),
            { restored with dirty := registry.dirty })
        | (failed, some error) => (.error error, failed)
    else (.ok false, registry)

/-- `flush`: the dirty flag is cleared before the write and set again only when
the write reports failure. -/
def flush (force : Bool) (write : WriteEnd) : Except PyError Bool × Registry :=
  if !registry.dirty && !force then (.ok false, registry)
  else
    match write with
    | .durable => (.ok true, registry.written)
    | .failed => (.ok false, { registry with dirty := true })
    | .raised error => (.error error, { registry with dirty := false })

/-- The outcomes of `read_state_document`. -/
inductive Reading where
  | ok (body : Json)
  | missing
  | corrupt
  | unsupported

/-- `load`, given what reading the current file and the backup yields; either
reading may raise. -/
def load (current backup : Except PyError Reading) : Applied :=
  match current, backup with
  | .error error, _ => (registry, some error)
  | .ok (.ok body), _ => registry.applyBody body
  | .ok _, .error error => (registry, some error)
  | .ok _, .ok (.ok body) => { registry with restoredFromBackup := true }.applyBody body
  | .ok .missing, .ok .missing => (registry, none)
  | .ok _, .ok _ => ({ registry with snapshotCorrupt := true }, none)

/-- The body that `load` applies, when there is one. -/
def Reading.chosen? : Except PyError Reading → Except PyError Reading → Option Json
  | .ok (.ok body), _ => some body
  | .ok _, .ok (.ok body) => some body
  | _, _ => none

end Registry

end OctoChannel.Identity
