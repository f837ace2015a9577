import OctoChannel.Foundation.Json

/-! Identities, chat targets and frozen migration routes (`identity.py`). Every
value that the source validates before storing it is a type whose members have
passed that check. -/

namespace OctoChannel.Identity

open Foundation

/-- Bounded persistence of target routes and of session routes. -/
def maxPersistedRoutes : Nat := 4096

def isAsciiAlnum (point : CodePoint) : Bool :=
  (0x30 ≤ point.val && point.val ≤ 0x39) || (0x41 ≤ point.val && point.val ≤ 0x5a) ||
    (0x61 ≤ point.val && point.val ≤ 0x7a)

/-- `^[A-Za-z0-9_.:@-]{1,128}$` -/
def validRobotId (value : PyStr) : Bool :=
  1 ≤ value.length && value.length ≤ 128 && value.all fun point =>
    isAsciiAlnum point || point = ch '_' || point = ch '.' || point = ch ':' || point = ch '@' ||
      point = ch '-'

/-- `^[A-Za-z0-9_@:-]{1,128}$` -/
def validWireChatId (value : PyStr) : Bool :=
  1 ≤ value.length && value.length ≤ 128 && value.all fun point =>
    isAsciiAlnum point || point = ch '_' || point = ch '@' || point = ch ':' || point = ch '-'

abbrev RobotId := { value : PyStr // validRobotId value = true }

abbrev WireChatId := { value : PyStr // validWireChatId value = true }

abbrev SessionKey := { value : PyStr // value ≠ [] }

abbrev ChatId := { value : PyStr // value ≠ [] }

def RobotId.ofStr? (value : PyStr) : Option RobotId :=
  if valid : validRobotId value = true then some ⟨value, valid⟩ else none

def WireChatId.ofStr? (value : PyStr) : Option WireChatId :=
  if valid : validWireChatId value = true then some ⟨value, valid⟩ else none

/-- A nonempty Python string; `None` and `""` are both falsy. -/
def nonempty? (value : PyStr) : Option { value : PyStr // value ≠ [] } :=
  if present : value ≠ [] then some ⟨value, present⟩ else none

@[simp] theorem RobotId.ofStr?_val (robot : RobotId) : RobotId.ofStr? robot.val = some robot := by
  simp [RobotId.ofStr?, robot.property]

@[simp] theorem WireChatId.ofStr?_val (wire : WireChatId) :
    WireChatId.ofStr? wire.val = some wire := by
  simp [WireChatId.ofStr?, wire.property]

@[simp] theorem nonempty?_val (value : { value : PyStr // value ≠ [] }) :
    nonempty? value.val = some value := by
  simp [nonempty?, value.property]

theorem nonempty?_eq_some {text : PyStr} {value : { value : PyStr // value ≠ [] }}
    (present : nonempty? text = some value) : value.val = text := by
  unfold nonempty? at present
  split at present
  · cases present
    rfl
  · cases present

inductive ChatType where
  | dm
  | group
  deriving DecidableEq, Repr

def ChatType.text : ChatType → PyStr
  | .dm => py "dm"
  | .group => py "group"

def ChatType.ofStr? (value : PyStr) : Option ChatType :=
  if value = py "dm" then some .dm else if value = py "group" then some .group else none

@[simp] theorem ChatType.ofStr?_text (chatType : ChatType) :
    ChatType.ofStr? chatType.text = some chatType := by
  cases chatType <;> decide

/-- `ChannelType` of `types.py`. -/
inductive ChannelType where
  | DM
  | Group
  | CommunityTopic
  deriving DecidableEq, Repr

def ChannelType.code : ChannelType → Int
  | .DM => 1
  | .Group => 2
  | .CommunityTopic => 5

/-- `valid_channel_type` together with the conversion it licenses. -/
def ChannelType.ofInt? (value : Int) : Option ChannelType :=
  if value = 1 then some .DM
  else if value = 2 then some .Group
  else if value = 5 then some .CommunityTopic
  else none

@[simp] theorem ChannelType.ofInt?_code (channelType : ChannelType) :
    ChannelType.ofInt? channelType.code = some channelType := by
  cases channelType <;> decide

abbrev TargetKey := ChatType × ChatId

/-- The `____` that separates a group from a thread in a channel id. -/
def hasThreadSeparator : PyStr → Bool
  | [] => false
  | point :: rest => (py "____").isPrefixOf (point :: rest) || hasThreadSeparator rest

def channelTypeForPlannedRoute (chatType : ChatType) (chatId : ChatId) : ChannelType :=
  match chatType with
  | .dm => .DM
  | .group => if hasThreadSeparator chatId.val then .CommunityTopic else .Group

/-- A value that passes `isinstance(value, str) and value`. -/
def nonemptyOfJson? : Json → Option { value : PyStr // value ≠ [] }
  | .str text => nonempty? text
  | _ => none

/-- `valid_robot_id` on an arbitrary stored value. -/
def RobotId.ofJson? : Json → Option RobotId
  | .str text => RobotId.ofStr? text
  | _ => none

/-- `valid_channel_type` on an arbitrary stored value: booleans are refused. -/
def ChannelType.ofJson? : Json → Option ChannelType
  | .int value => ChannelType.ofInt? value
  | _ => none

/-- `value in _CHAT_TYPES`: a list or an object cannot be hashed, so the test
itself raises. -/
def chatTypeIn : Json → Except PyError (Option ChatType)
  | .str text => .ok (ChatType.ofStr? text)
  | .arr _ => .error (.typeError "unhashable type: 'list'")
  | .obj _ => .error (.typeError "unhashable type: 'dict'")
  | _ => .ok none

/-- One pre-existing conversation frozen for legacy migration. -/
structure PlannedRoute where
  sessionKey : SessionKey
  chatType : ChatType
  chatId : ChatId
  channelType : ChannelType
  deriving DecidableEq

namespace PlannedRoute

def target (route : PlannedRoute) : TargetKey := (route.chatType, route.chatId)

def toBody (route : PlannedRoute) : Json :=
  .obj [(py "session_key", .str route.sessionKey.val), (py "chat_type", .str route.chatType.text),
    (py "chat_id", .str route.chatId.val), (py "channel_type", .int route.channelType.code)]

/-- `PlannedRoute.from_body`: `none` for a malformed record. -/
def fromBody : Json → Except PyError (Option PlannedRoute)
  | .obj members =>
    match nonemptyOfJson? (Json.field (py "session_key") members) with
    | none => .ok none
    | some sessionKey =>
      match chatTypeIn (Json.field (py "chat_type") members) with
      | .error error => .error error
      | .ok none => .ok none
      | .ok (some chatType) =>
        match nonemptyOfJson? (Json.field (py "chat_id") members),
            ChannelType.ofJson? (Json.field (py "channel_type") members) with
        | some chatId, some channelType => .ok (some ⟨sessionKey, chatType, chatId, channelType⟩)
        | _, _ => .ok none
  | _ => .ok none

/-- A route survives its own serialization. -/
theorem fromBody_toBody (route : PlannedRoute) : fromBody route.toBody = .ok (some route) := by
  obtain ⟨sessionKey, chatType, chatId, channelType⟩ := route
  simp +decide [fromBody, toBody, Json.field, Dict.lookup, nonemptyOfJson?, chatTypeIn,
    ChannelType.ofJson?]

end PlannedRoute

/-- `_freeze_plan`: the last entry of a session key wins and keeps the place of
the first; more keys than the route store holds are refused. -/
def freezeFrom (planned : Dict SessionKey PlannedRoute) :
    List (PyStr × PyStr × PyStr) → Except PyError (List PlannedRoute)
  | [] => .ok (planned.entries.map Prod.snd)
  | (sessionKey, chatType, chatId) :: rest =>
    match nonempty? sessionKey, ChatType.ofStr? chatType, nonempty? chatId with
    | some sessionKey, some chatType, some chatId =>
      let next := planned.set sessionKey
        ⟨sessionKey, chatType, chatId, channelTypeForPlannedRoute chatType chatId⟩
      if maxPersistedRoutes < next.size then
        .error (.runtimeError "Octo legacy migration plan exceeds route capacity")
      else freezeFrom next rest
    | _, _, _ => freezeFrom planned rest

def freezePlan (sessions : List (PyStr × PyStr × PyStr)) : Except PyError (List PlannedRoute) :=
  freezeFrom Dict.empty sessions

/-- The entry of a session store that freezes to the route. -/
def PlannedRoute.session (route : PlannedRoute) : PyStr × PyStr × PyStr :=
  (route.sessionKey.val, route.chatType.text, route.chatId.val)

private theorem freezeFrom_sessions {planned : Dict SessionKey PlannedRoute}
    {plan : List PlannedRoute}
    (derived : ∀ route ∈ plan,
      route.channelType = channelTypeForPlannedRoute route.chatType route.chatId)
    (distinct : (planned.keys ++ plan.map PlannedRoute.sessionKey).Nodup)
    (room : planned.size + plan.length ≤ maxPersistedRoutes) :
    freezeFrom planned (plan.map PlannedRoute.session) =
      .ok (planned.entries.map Prod.snd ++ plan) := by
  induction plan generalizing planned with
  | nil => simp [freezeFrom]
  | cons route rest ih =>
    rw [List.forall_mem_cons] at derived
    simp only [List.map_cons, List.length_cons] at distinct room
    have absent : route.sessionKey ∉ planned.keys := by
      intro member
      exact (List.nodup_append.mp distinct).2.2 _ member _ (List.mem_cons_self ..) rfl
    have entries := Dict.entries_set_of_not_mem route absent
    have size : (planned.set route.sessionKey route).size = planned.size + 1 := by
      rw [Dict.size_set, if_neg absent]
    have keys : (planned.set route.sessionKey route).keys = planned.keys ++ [route.sessionKey] := by
      rw [Dict.keys_set, if_neg absent]
    have same : (⟨route.sessionKey, route.chatType, route.chatId,
        channelTypeForPlannedRoute route.chatType route.chatId⟩ : PlannedRoute) = route := by
      rw [← derived.1]
    have next := @ih (planned.set route.sessionKey route) derived.2
      (by rw [keys]; simpa using distinct) (by omega)
    rw [List.map_cons, PlannedRoute.session, freezeFrom]
    simp only [nonempty?_val, ChatType.ofStr?_text, same, size]
    rw [if_neg (by omega), next, entries]
    simp

/-- Distinct sessions within the capacity freeze to their routes, in order. -/
theorem freezePlan_sessions {plan : List PlannedRoute}
    (derived : ∀ route ∈ plan,
      route.channelType = channelTypeForPlannedRoute route.chatType route.chatId)
    (distinct : (plan.map PlannedRoute.sessionKey).Nodup)
    (room : plan.length ≤ maxPersistedRoutes) :
    freezePlan (plan.map PlannedRoute.session) = .ok plan := by
  have frozen := @freezeFrom_sessions .empty plan derived (by simpa using distinct)
    (by simpa using room)
  simpa [freezePlan] using frozen

end OctoChannel.Identity
