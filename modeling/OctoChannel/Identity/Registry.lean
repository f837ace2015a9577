import Mathlib.Data.Finset.Option
import Mathlib.Data.Finset.Sort
import Mathlib.Data.Prod.Lex
import OctoChannel.Foundation.Links
import OctoChannel.Identity.Ids

/-! `IdentityRouteRegistry`: session and target routes with fail-closed conflicts.
The in-memory part of the class; its files are modelled in `Documents`. -/

namespace OctoChannel.Identity

open Foundation

/-- The eight maps and sets behind the registry lock, the dirty flag, and the
two flags that `load` leaves for the next snapshot write. -/
structure Registry where
  sessionRoutes : Dict SessionKey RobotId
  targetRoutes : Dict TargetKey RobotId
  sessionConflicts : Finset SessionKey
  targetConflicts : Finset TargetKey
  chatIndex : Links ChatId (ChatType × RobotId)
  targetSessions : Links TargetKey SessionKey
  targetChannelTypes : Dict TargetKey ChannelType
  targetWireIds : Dict TargetKey WireChatId
  dirty : Bool
  restoredFromBackup : Bool
  snapshotCorrupt : Bool

inductive BindResult where
  | bound
  | capacity
  | idempotent
  | conflict
  deriving DecidableEq, Repr

/-- `bound` and `idempotent`: the results that leave the caller the owner. -/
def BindResult.accepted : BindResult → Bool
  | .bound => true
  | .idempotent => true
  | .capacity => false
  | .conflict => false

/-- Unique reverse-index answer for a chat-id-only send. -/
structure TargetLookup where
  chatType : ChatType
  channelType : ChannelType
  robotId : RobotId
  wireChatId : WireChatId
  deriving DecidableEq

namespace Registry

def fresh : Registry where
  sessionRoutes := .empty
  targetRoutes := .empty
  sessionConflicts := ∅
  targetConflicts := ∅
  chatIndex := .empty
  targetSessions := .empty
  targetChannelTypes := .empty
  targetWireIds := .empty
  dirty := false
  restoredFromBackup := false
  snapshotCorrupt := false

variable (registry : Registry)

/-- The sessions linked to a target; no entry reads as the empty set. -/
def linked (target : TargetKey) : Finset SessionKey := registry.targetSessions.members target

/-- The targets a session is linked to, oldest link set first. -/
def listings (key : SessionKey) : List TargetKey := registry.targetSessions.listings key

/-- The reverse-index entry of a chat id; no entry reads as the empty set. -/
def holders (chatId : ChatId) : Finset (ChatType × RobotId) := registry.chatIndex.members chatId

def routeCount : Nat := registry.targetRoutes.size

def sessionCount : Nat := registry.sessionRoutes.size

def remainingCapacity : Nat := maxPersistedRoutes - registry.targetRoutes.size

def capacityExhausted : Bool := maxPersistedRoutes ≤ registry.targetRoutes.size

def robotIdForSession (sessionKey : PyStr) : Option RobotId :=
  match nonempty? sessionKey with
  | none => none
  | some key => if key ∈ registry.sessionConflicts then none else registry.sessionRoutes.get? key

def robotIdForTarget (target : TargetKey) : Option RobotId :=
  if target ∈ registry.targetConflicts then none else registry.targetRoutes.get? target

def sessionConflict (sessionKey : PyStr) : Bool :=
  match nonempty? sessionKey with
  | none => false
  | some key => key ∈ registry.sessionConflicts

def targetConflict (target : TargetKey) : Bool := target ∈ registry.targetConflicts

/-- The element of a one-element set. -/
def sole? {kind : Type} (set : Finset kind) : Option kind :=
  if one : set.card = 1 then
    some (set.choose (fun _ => True) (by simpa using Finset.card_eq_one_iff_existsUnique.mp one))
  else none

theorem sole?_eq_some {kind : Type} {set : Finset kind} {element : kind}
    (found : sole? set = some element) : set = {element} := by
  unfold sole? at found
  split at found
  · rename_i one
    obtain ⟨only, rfl⟩ := Finset.card_eq_one.mp one
    cases found
    exact congrArg _ (Finset.mem_singleton.mp (Finset.choose_mem _ _ _)).symm
  · cases found

/-- `lookup_chat_id`: `none` for zero or ambiguous matches, for a conflicted
target and for a target whose wire id is not known yet. -/
def lookupChatId (chatId : PyStr) : Option TargetLookup :=
  match nonempty? chatId with
  | none => none
  | some chatId =>
    match sole? (registry.holders chatId) with
    | none => none
    | some (chatType, robotId) =>
      if (chatType, chatId) ∈ registry.targetConflicts then none
      else
        match registry.targetChannelTypes.get? (chatType, chatId),
            registry.targetWireIds.get? (chatType, chatId) with
        | some channelType, some wireChatId => some ⟨chatType, channelType, robotId, wireChatId⟩
        | _, _ => none

/-- Whether a chat id is bound, ambiguous, or explicitly conflicted. -/
def chatIdHasState (chatId : PyStr) : Bool :=
  match nonempty? chatId with
  | none => false
  | some chatId =>
    (registry.holders chatId).Nonempty ∨ ∃ target ∈ registry.targetConflicts, target.2 = chatId

/-- Mark a target conflicted and with it every session linked to it. -/
def contestTarget (target : TargetKey) : Registry :=
  { registry with
    targetConflicts := insert target registry.targetConflicts
    sessionConflicts := registry.sessionConflicts ∪ registry.linked target
    dirty := true }

def contestSession (sessionKey : Option SessionKey) : Registry :=
  { registry with
    sessionConflicts := registry.sessionConflicts ∪ sessionKey.toFinset
    dirty := true }

/-- The first known wire id of an existing target refreshes its channel type too. -/
def fillWire (target : TargetKey) (channelType : ChannelType) (wire : WireChatId) : Registry :=
  { registry with
    targetChannelTypes := registry.targetChannelTypes.set target channelType
    targetWireIds := registry.targetWireIds.set target wire
    dirty := true }

/-- A session leaves the route table and every link set. -/
def dropSession (victim : SessionKey) : Registry :=
  { registry with
    sessionRoutes := registry.sessionRoutes.erase victim
    targetSessions := registry.targetSessions.unlink victim }

/-- `_evict_oldest_session_locked` -/
def evictOldestSession : Registry :=
  match registry.sessionRoutes.keys with
  | [] => registry
  | victim :: _ => registry.dropSession victim

/-- `while len(session_routes) >= MAX: evict`. Every round removes one session, so
as many rounds as there are sessions are enough. -/
def evictRounds : List SessionKey → Registry → Registry
  | [], registry => registry
  | _ :: rest, registry =>
    if maxPersistedRoutes ≤ registry.sessionRoutes.size then
      evictRounds rest registry.evictOldestSession
    else registry

def evictUntilRoom : Registry := evictRounds registry.sessionRoutes.keys registry

def openTarget (target : TargetKey) (robotId : RobotId) : Registry :=
  { registry with
    targetRoutes := registry.targetRoutes.set target robotId
    chatIndex := registry.chatIndex.link target.2 (target.1, robotId) }

def recordWire (target : TargetKey) (channelType : ChannelType) (wire : Option WireChatId) :
    Registry :=
  { registry with
    targetChannelTypes := registry.targetChannelTypes.set target channelType
    targetWireIds := match wire with
      | some wire => registry.targetWireIds.set target wire
      | none => registry.targetWireIds }

def linkSession (sessionKey : SessionKey) (target : TargetKey) (robotId : RobotId) : Registry :=
  { registry with
    sessionRoutes := registry.sessionRoutes.set sessionKey robotId
    targetSessions := registry.targetSessions.link target sessionKey }

/-- A `bind` call whose arguments passed every check. -/
structure Request where
  robotId : RobotId
  sessionKey : Option SessionKey
  target : TargetKey
  channelType : ChannelType
  wireTarget : Option WireChatId

/-- A new target is opened; the wire type of an old one is refreshed. -/
def recordTarget (request : Request) : Registry :=
  let opened :=
    if (registry.targetRoutes.get? request.target).isNone then
      registry.openTarget request.target request.robotId
    else registry
  opened.recordWire request.target request.channelType request.wireTarget

/-- The branch of `bind` that establishes a new route or a new session. -/
def claim (request : Request) : Registry :=
  let recorded := registry.recordTarget request
  match request.sessionKey with
  | none => { recorded with dirty := true }
  | some key =>
    { recorded.evictUntilRoom.linkSession key request.target request.robotId with dirty := true }

def ownedByOther (owner : Option RobotId) (robotId : RobotId) : Bool := owner.any (· ≠ robotId)

/-- Two known and different wire ids. -/
def wireDiffers : Option WireChatId → Option WireChatId → Bool
  | some existing, some wire => existing ≠ wire
  | _, _ => false

/-- The body of `bind` under the registry lock. -/
def bindLocked (request : Request) : BindResult × Registry :=
  let existingSession := request.sessionKey.bind registry.sessionRoutes.get?
  let existingTarget := registry.targetRoutes.get? request.target
  let existingWire := registry.targetWireIds.get? request.target
  if request.sessionKey.any (· ∈ registry.sessionConflicts) then (.conflict, registry)
  else if request.target ∈ registry.targetConflicts then (.conflict, registry)
  else if ownedByOther existingSession request.robotId then
    let contested :=
      if ownedByOther existingTarget request.robotId then registry.contestTarget request.target
      else registry
    (.conflict, contested.contestSession request.sessionKey)
  else if ownedByOther existingTarget request.robotId then
    (.conflict, registry.contestTarget request.target)
  else if existingTarget.isSome && wireDiffers existingWire request.wireTarget then
    (.conflict, registry.contestTarget request.target)
  else if existingTarget.isSome && (request.sessionKey.isNone || existingSession.isSome) then
    match request.wireTarget, existingWire with
    | some wire, none => (.bound, registry.fillWire request.target request.channelType wire)
    | _, _ => (.idempotent, registry)
  else if existingTarget.isNone && maxPersistedRoutes ≤ registry.targetRoutes.size then
    (.capacity, registry)
  else (.bound, registry.claim request)

/-- The keyword arguments of `bind`, before validation. -/
structure BindArgs where
  robotId : PyStr
  sessionKey : Option PyStr
  chatType : PyStr
  chatId : PyStr
  channelType : Int
  wireChatId : Option PyStr
  wireChatIdKnown : Bool
  deriving DecidableEq

/-- The wire id a call claims: the chat id itself unless it is given or unknown. -/
def BindArgs.wireTarget (args : BindArgs) : Option PyStr :=
  if args.wireChatIdKnown then some (args.wireChatId.getD args.chatId) else none

def BindArgs.validate (args : BindArgs) : Except PyError Request :=
  match RobotId.ofStr? args.robotId with
  | none => .error (.valueError "invalid Octo robot_id")
  | some robotId =>
    match ChatType.ofStr? args.chatType with
    | none => .error (.valueError "invalid Octo chat_type")
    | some chatType =>
      match nonempty? args.chatId with
      | none => .error (.valueError "invalid Octo chat_id")
      | some chatId =>
        match ChannelType.ofInt? args.channelType with
        | none => .error (.valueError "invalid Octo channel_type")
        | some channelType =>
          let request (wire : Option WireChatId) : Request :=
            ⟨robotId, args.sessionKey.bind nonempty?, (chatType, chatId), channelType, wire⟩
          match args.wireTarget with
          | none => .ok (request none)
          | some wire =>
            match WireChatId.ofStr? wire with
            | none => .error (.valueError "invalid Octo wire chat_id")
            | some wire => .ok (request (some wire))

/-- Atomically claim a session and/or transport target. -/
def bind (args : BindArgs) : Except PyError BindResult × Registry :=
  match args.validate with
  | .error error => (.error error, registry)
  | .ok request => (.ok (registry.bindLocked request).1, (registry.bindLocked request).2)

/-- An inbound group message: the chat id is its own wire id. -/
def groupBind (robotId : String) (sessionKey : Option String) (chatId : String) : BindArgs where
  robotId := py robotId
  sessionKey := sessionKey.map py
  chatType := ChatType.group.text
  chatId := py chatId
  channelType := ChannelType.Group.code
  wireChatId := none
  wireChatIdKnown := true

end Registry

end OctoChannel.Identity
