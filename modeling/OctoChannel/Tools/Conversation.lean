import OctoChannel.Adapter.Outbound
import OctoChannel.Chats.DirectMessages
import OctoChannel.Mentions.Fallback
import OctoChannel.Progress.Turns
import OctoChannel.Tools.Permission

/-! The conversation that a tool call belongs to: the runtime that may act in it and the
address it may write to. The arguments of the model have no say in either. -/

namespace OctoChannel.Tools

open Foundation Identity Chats Mentions Adapter Progress

/-- What `get_session_env` tells of the session that Hermes is running. -/
structure SessionEnv where
  platform : PyStr
  chatId : PyStr
  userId : PyStr
  sessionKey : PyStr

/-- `platform.strip().lower()`, as far as it is compared with `octo`. -/
def SessionEnv.platformName (env : SessionEnv) : PyStr := (strip env.platform).map lowerAscii

/-- `_trusted_session_key`; without Hermes there is no session. -/
def trustedSessionKey : Option SessionEnv → PyStr
  | none => []
  | some env =>
    if env.platformName ≠ [] ∧ env.platformName ≠ py "octo" then [] else strip env.sessionKey

/-- The context in which `resolve_outbound` finds the same turn. -/
def turnOf (currentRobotId : PyStr) (env : Option SessionEnv) : Turn :=
  ⟨currentRobotId, trustedSessionKey env⟩

section Runtime

universe u

variable {Runtime : Type u} (adapter : OctoAdapter Runtime)

/-- `runtime_for_session_key` -/
def runtimeForSessionKey (sessionKey : PyStr) : Option Runtime :=
  if adapter.soleIdentityMode then adapter.runtimes.head?
  else
    match adapter.routes.robotIdForSession sessionKey with
    | none => none
    | some robotId => adapter.runtimesByRobotId.get? robotId.val

/-- `resolve_trusted_runtime` -/
def resolveTrustedRuntime (turn : Turn) : Option Runtime :=
  if adapter.soleIdentityMode then adapter.runtimes.head?
  else if turn.currentRobotId ≠ [] then adapter.connectedRuntime turn.currentRobotId
  else if turn.trustedSessionKey ≠ [] then
    (runtimeForSessionKey adapter turn.trustedSessionKey).filter adapter.isRuntimeConnected
  else none

end Runtime

/-- What the tools read of a runtime. -/
structure ToolRuntime (Names : Type) where
  robotId : PyStr
  onBehalfOf : Option PyStr
  caches : Caches Names

variable {Names : Type} (digits : DigitChars) (routes : Registry) (runtime : ToolRuntime Names)

/-- Where the conversation takes place, by its route or else by what the chat id looks like. -/
def conversationAddress (chatId : PyStr) : Option (PyStr × ChannelType) :=
  match routes.lookupChatId chatId with
  | some lookup =>
    if lookup.robotId.val ≠ runtime.robotId then none
    else some (lookup.wireChatId.val, lookup.channelType)
  | none =>
    if routes.chatIdHasState chatId then none
    else
      let channelType := runtime.caches.resolveChannelType chatId none
      some (runtime.caches.outboundChannelId digits chatId channelType, channelType)

/-- `_trusted_route` -/
def trustedRoute (env : Option SessionEnv) (requireSessionKey : Bool) : Option TrustedOctoRoute :=
  match env with
  | none => none
  | some env =>
    let chatId := strip env.chatId
    let requesterUid := strip env.userId
    let sessionKey := strip env.sessionKey
    if env.platformName ≠ py "octo" ∨ chatId = [] ∨ requesterUid = [] then none
    else if requireSessionKey ∧ sessionKey = [] then none
    else
      match conversationAddress digits routes runtime chatId with
      | none => none
      | some (channelId, channelType) =>
        if validTargetChannelId channelId channelType then
          some ⟨channelId, chatId, channelType, requesterUid, sessionKey⟩
        else none

/-- The route is that of the session: of its chat, its user and its key. -/
structure Trusts (env : Option SessionEnv) (requireSessionKey : Bool)
    (route : TrustedOctoRoute) : Prop where
  session : ∃ known, env = some known ∧ known.platformName = py "octo" ∧
    route.chatId = strip known.chatId ∧ route.requesterUid = strip known.userId ∧
    route.sessionKey = strip known.sessionKey
  chat : route.chatId ≠ []
  requester : route.requesterUid ≠ []
  keyed : requireSessionKey = true → route.sessionKey ≠ []
  address : conversationAddress digits routes runtime route.chatId =
    some (route.channelId, route.channelType)
  valid : validTargetChannelId route.channelId route.channelType = true

variable {digits routes runtime}

theorem trustedRoute_eq_some_iff {env : Option SessionEnv} {requireSessionKey : Bool}
    {route : TrustedOctoRoute} :
    trustedRoute digits routes runtime env requireSessionKey = some route ↔
      Trusts digits routes runtime env requireSessionKey route := by
  constructor
  · intro found
    unfold trustedRoute at found
    cases env with
    | none => cases found
    | some env =>
      dsimp only at found
      split_ifs at found with foreign keyless
      rw [not_or, not_or, not_not] at foreign
      obtain ⟨platform, chat, requester⟩ := foreign
      split at found
      · cases found
      · rename_i channelId channelType address
        split_ifs at found with valid
        cases found
        exact { session := ⟨env, rfl, platform, rfl, rfl, rfl⟩, chat, requester,
                keyed := fun required missing => keyless ⟨required, missing⟩, address, valid }
  · rintro ⟨⟨env, rfl, platform, chatId, requesterUid, sessionKey⟩, chat, requester, keyed,
      address, valid⟩
    obtain ⟨channelId, chatId', channelType, requesterUid', sessionKey'⟩ := route
    dsimp only at chatId requesterUid sessionKey chat requester keyed address valid
    subst chatId requesterUid sessionKey
    unfold trustedRoute
    dsimp only
    rw [if_neg (by simp [platform, chat, requester]), if_neg (fun both => keyed both.1 both.2),
      address]
    exact if_pos valid

section Agreement

variable {adapter : OctoAdapter (ToolRuntime Names)} {turn : Turn}

/-- The runtimes are filed under their robot ids. -/
structure Filed (adapter : OctoAdapter (ToolRuntime Names)) : Prop where
  listed : ∀ robotId runtime, adapter.runtimesByRobotId.get? robotId = some runtime →
    runtime ∈ adapter.runtimes
  named : ∀ robotId runtime, adapter.runtimesByRobotId.get? robotId = some runtime →
    runtime.robotId = robotId

/-- With several identities, the runtime of a turn is that of the robot that the turn names. -/
private theorem resolveTrustedRuntime_named (several : adapter.soleIdentityMode = false)
    (resolved : resolveTrustedRuntime adapter turn = some runtime) :
    ∃ robotId, robotId ≠ [] ∧ adapter.trustedRobotId turn none = some robotId ∧
      adapter.connectedRuntime robotId = some runtime := by
  unfold resolveTrustedRuntime at resolved
  rw [several, if_neg Bool.false_ne_true] at resolved
  unfold OctoAdapter.trustedRobotId
  by_cases named : turn.currentRobotId ≠ []
  · rw [if_pos named] at resolved ⊢
    exact ⟨_, named, rfl, resolved⟩
  · rw [if_neg named] at resolved ⊢
    split_ifs at resolved with keyed
    unfold runtimeForSessionKey at resolved
    rw [several, if_neg Bool.false_ne_true] at resolved
    cases routed : adapter.routes.robotIdForSession turn.trustedSessionKey with
    | none =>
      rw [routed] at resolved
      cases resolved
    | some robotId =>
      rw [routed] at resolved
      have calm : adapter.routes.sessionConflict turn.trustedSessionKey = false := by
        unfold Registry.robotIdForSession at routed
        unfold Registry.sessionConflict
        split at routed
        · cases routed
        · split_ifs at routed with contested
          simp [contested]
      refine ⟨robotId.val, OctoAdapter.robotId_ne_nil robotId, ?_, resolved⟩
      simp only [OctoAdapter.outboundKey, calm, routed, Bool.false_eq_true, if_false]

/-- The channel type and the channel id of a reply that `resolve_outbound` lets through: the
runtime remembers the wire id of a direct message before `send` asks for it. -/
def replyAddress (digits : DigitChars) (runtime : ToolRuntime Names) (chatId : PyStr)
    (outbound : Outbound (ToolRuntime Names)) : PyStr × ChannelType :=
  let caches := match outbound.spaceDmTarget with
    | some target =>
      { runtime.caches with spaceDmTargets := runtime.caches.spaceDmTargets.set chatId target }
    | none => runtime.caches
  let explicit := outbound.metadata.bind fun metadata =>
    (metadata.get? (py "channel_type")).bind ChannelType.ofJson?
  let channelType := caches.resolveChannelType chatId explicit
  (caches.outboundChannelId digits chatId channelType, channelType)

/-- The route of the chat keeps the wire id that replies go to. -/
def KeepsWire (routes : Registry) (chatId : PyStr) : Prop :=
  ∀ lookup, routes.lookupChatId chatId = some lookup → lookup.wireChatId.val =
    if lookup.channelType = .DM then
      resolvedWireChatId chatId lookup.channelType lookup.wireChatId.val
    else chatId

/-- An Octo session that a tool can act in. -/
structure SessionEnv.Complete (env : SessionEnv) (requireSessionKey : Bool) : Prop where
  platform : env.platformName = py "octo"
  chat : strip env.chatId ≠ []
  requester : strip env.userId ≠ []
  keyed : requireSessionKey = true → strip env.sessionKey ≠ []

/-- The route of a complete session is the address of its conversation, if tools may write
there. -/
private theorem trustedRoute_address {env : SessionEnv} {requireSessionKey : Bool}
    (complete : env.Complete requireSessionKey) :
    (trustedRoute digits routes runtime (some env) requireSessionKey).map
        (fun route => (route.channelId, route.channelType)) =
      (conversationAddress digits routes runtime (strip env.chatId)).filter
        fun address => validTargetChannelId address.1 address.2 := by
  unfold trustedRoute
  dsimp only
  rw [if_neg (by simp [complete.platform, complete.chat, complete.requester]),
    if_neg fun both => complete.keyed both.1 both.2]
  cases conversationAddress digits routes runtime (strip env.chatId) with
  | none => rfl
  | some address =>
    dsimp only
    rw [Option.filter_some]
    split_ifs <;> rfl

/-- Tools and replies of one turn write to the same conversation. -/
structure Agrees (digits : DigitChars) (adapter : OctoAdapter (ToolRuntime Names)) (turn : Turn)
    (runtime : ToolRuntime Names) (chatId : PyStr) : Prop where
  refused : conversationAddress digits adapter.routes runtime chatId = none ↔
    (adapter.resolveOutbound turn chatId none none).runtime = none
  served : ∀ channelId channelType,
    conversationAddress digits adapter.routes runtime chatId = some (channelId, channelType) →
      let outbound := adapter.resolveOutbound turn chatId none none
      let reply := replyAddress digits runtime chatId outbound
      outbound.runtime = some runtime ∧ reply.2 = channelType ∧
        (reply.1 = channelId ↔ KeepsWire adapter.routes chatId)
  /-- A tool that is called in a complete session of the chat writes to that address, as long as
  it is one that tools may write to. -/
  routed : ∀ (env : SessionEnv) (requireSessionKey : Bool), env.Complete requireSessionKey →
    strip env.chatId = chatId →
      (trustedRoute digits adapter.routes runtime (some env) requireSessionKey).map
          (fun route => (route.channelId, route.channelType)) =
        (conversationAddress digits adapter.routes runtime chatId).filter
          fun address => validTargetChannelId address.1 address.2

private theorem replyAddress_serveTarget (digits : DigitChars) (runtime : ToolRuntime Names)
    (chatId : PyStr) (lookup : TargetLookup) :
    replyAddress digits runtime chatId (OctoAdapter.serveTarget runtime chatId none lookup) =
      (if lookup.channelType = .DM then
        resolvedWireChatId chatId lookup.channelType lookup.wireChatId.val
      else chatId, lookup.channelType) := by
  have typed : ((Dict.empty : Metadata).setDefault (py "channel_type")
      (.int lookup.channelType.code)).get? (py "channel_type") =
        some (.int lookup.channelType.code) :=
    Dict.get?_setDefault_of_absent rfl _
  have explicit : ChannelType.ofJson? (.int lookup.channelType.code) = some lookup.channelType :=
    ChannelType.ofInt?_code _
  unfold replyAddress OctoAdapter.serveTarget
  dsimp only [Option.getD_none, Option.bind_some]
  rw [typed, Option.bind_some, explicit]
  by_cases direct : lookup.channelType = .DM
  · simp [direct, Caches.resolveChannelType, Caches.outboundChannelId]
  · simp [direct, Caches.resolveChannelType, Caches.outboundChannelId]

private theorem resolveOutbound_named {robotId : PyStr} (several : adapter.soleIdentityMode = false)
    (started : adapter.runtimes ≠ []) (filled : robotId ≠ [])
    (trusted : adapter.trustedRobotId turn none = some robotId) (chatId : PyStr) :
    adapter.resolveOutbound turn chatId none none = adapter.resolveNamed robotId chatId none := by
  unfold OctoAdapter.resolveOutbound
  cases runtimes : adapter.runtimes with
  | nil => exact absurd runtimes started
  | cons first rest =>
    dsimp only
    rw [several, if_neg Bool.false_ne_true, trusted]
    cases robotId with
    | nil => exact absurd rfl filled
    | cons point rest => rfl

private theorem agrees_of_refused (digits : DigitChars) {error : PyStr}
    (address : conversationAddress digits adapter.routes runtime chatId = none)
    (outbound : adapter.resolveOutbound turn chatId none none = OctoAdapter.refuse none error) :
    Agrees digits adapter turn runtime chatId where
  refused := by simp [address, outbound, OctoAdapter.refuse]
  served := by simp [address]
  routed _ _ complete same := same ▸ trustedRoute_address complete

private theorem agrees_of_served (digits : DigitChars) {channelId wire : PyStr}
    {channelType : ChannelType} {outbound : Outbound (ToolRuntime Names)}
    (address : conversationAddress digits adapter.routes runtime chatId =
      some (channelId, channelType))
    (resolved : adapter.resolveOutbound turn chatId none none = outbound)
    (serves : outbound.runtime = some runtime)
    (reply : replyAddress digits runtime chatId outbound = (wire, channelType))
    (kept : wire = channelId ↔ KeepsWire adapter.routes chatId) :
    Agrees digits adapter turn runtime chatId where
  refused := by simp [address, resolved, serves]
  served other otherType same := by
    cases address.symm.trans same
    dsimp only
    rw [resolved, reply]
    exact ⟨serves, rfl, kept⟩
  routed _ _ complete same := same ▸ trustedRoute_address complete

private theorem agrees_of_resolved (digits : DigitChars)
    (several : adapter.soleIdentityMode = false)
    (filed : Filed adapter) (resolved : resolveTrustedRuntime adapter turn = some runtime)
    (chatId : PyStr) : Agrees digits adapter turn runtime chatId := by
  obtain ⟨robotId, filled, trusted, connected⟩ := resolveTrustedRuntime_named several resolved
  have known := (OctoAdapter.connectedRuntime_eq_some_iff.mp connected).1
  obtain rfl := filed.named robotId runtime known
  have started : adapter.runtimes ≠ [] := List.ne_nil_of_mem (filed.listed _ runtime known)
  have outbound := resolveOutbound_named several started filled trusted chatId
  unfold OctoAdapter.resolveNamed at outbound
  rw [connected] at outbound
  dsimp only at outbound
  cases found : adapter.routes.lookupChatId chatId with
  | some lookup =>
    rw [found] at outbound
    dsimp only at outbound
    have address : conversationAddress digits adapter.routes runtime chatId =
        if lookup.robotId.val ≠ runtime.robotId then none
        else some (lookup.wireChatId.val, lookup.channelType) := by
      unfold conversationAddress
      rw [found]
    by_cases foreign : lookup.robotId.val ≠ runtime.robotId
    · rw [if_pos foreign] at outbound address
      exact agrees_of_refused digits address outbound
    · rw [if_neg foreign] at outbound address
      apply agrees_of_served digits address outbound rfl (replyAddress_serveTarget ..)
      simp [KeepsWire, found, eq_comm]
  | none =>
    rw [found] at outbound
    dsimp only at outbound
    have address : conversationAddress digits adapter.routes runtime chatId =
        if adapter.routes.chatIdHasState chatId then none
        else
          let channelType := runtime.caches.resolveChannelType chatId none
          some (runtime.caches.outboundChannelId digits chatId channelType, channelType) := by
      unfold conversationAddress
      rw [found]
    by_cases contested : adapter.routes.chatIdHasState chatId = true
    · rw [if_pos contested] at outbound address
      exact agrees_of_refused digits address outbound
    · rw [if_neg contested] at outbound address
      have kept : KeepsWire adapter.routes chatId := by simp [KeepsWire, found]
      exact agrees_of_served digits address outbound rfl rfl (iff_of_true rfl kept)

/-- Where the robot that a turn names is not connected, its replies are refused. -/
private theorem refused_of_unresolved (several : adapter.soleIdentityMode = false)
    (unresolved : resolveTrustedRuntime adapter turn = none)
    (names : adapter.trustedRobotId turn none ≠ some []) (chatId : PyStr) :
    (adapter.resolveOutbound turn chatId none none).runtime = none := by
  have disconnected (robotId : PyStr) (filled : robotId ≠ [])
      (named : adapter.trustedRobotId turn none = some robotId) :
      adapter.connectedRuntime robotId = none := by
    unfold resolveTrustedRuntime at unresolved
    unfold OctoAdapter.trustedRobotId at named
    rw [several, if_neg Bool.false_ne_true] at unresolved
    by_cases current : turn.currentRobotId ≠ []
    · rw [if_pos current] at unresolved named
      cases named
      exact unresolved
    · rw [if_neg current] at unresolved named
      dsimp only [OctoAdapter.outboundKey] at named
      split_ifs at named
      cases routed : adapter.routes.robotIdForSession turn.trustedSessionKey with
      | none =>
        rw [routed] at named
        cases named
        exact absurd rfl filled
      | some owner =>
        rw [routed] at named
        cases named
        have keyed : turn.trustedSessionKey ≠ [] := by
          intro keyless
          rw [keyless] at routed
          cases routed
        rw [if_pos keyed] at unresolved
        unfold runtimeForSessionKey at unresolved
        rw [several, if_neg Bool.false_ne_true, routed] at unresolved
        exact unresolved
  unfold OctoAdapter.resolveOutbound
  split
  · rfl
  · rw [several, if_neg Bool.false_ne_true]
    split
    · rfl
    · rename_i nameless
      exact absurd nameless names
    · rename_i robotId filled named
      rw [OctoAdapter.resolveNamed, disconnected robotId filled named]
      rfl

/-- With several identities, the tools of a turn that has a runtime agree with its replies, and
one that names a robot without a connected runtime has neither. -/
theorem toolRoute_agrees (digits : DigitChars) (several : adapter.soleIdentityMode = false)
    (filed : Filed adapter) (turn : Turn) (chatId : PyStr) :
    (∀ runtime, resolveTrustedRuntime adapter turn = some runtime →
      Agrees digits adapter turn runtime chatId) ∧
    (resolveTrustedRuntime adapter turn = none → adapter.trustedRobotId turn none ≠ some [] →
      (adapter.resolveOutbound turn chatId none none).runtime = none) :=
  ⟨fun _ resolved => agrees_of_resolved digits several filed resolved chatId,
    fun unresolved names => refused_of_unresolved several unresolved names chatId⟩

/-- A direct message whose route was saved before wire ids were explicit. -/
def oldRoutes : Registry :=
  (Registry.fresh.bind ⟨py "bot", none, py "dm", py "s1_u", 1, none, true⟩).2

def sampleRuntime : ToolRuntime Unit := ⟨py "bot", none, .empty () .empty⟩

def oldAdapter : OctoAdapter (ToolRuntime Unit) where
  runtimes := [sampleRuntime]
  runtimesByRobotId := Dict.empty.set (py "bot") sampleRuntime
  isRuntimeConnected _ := true
  routes := oldRoutes
  soleIdentityMode := false
  legacyPrimaryRobotId := []
  homeChannelChatId := []

/-- The session of that direct message. -/
def oldSession : SessionEnv := ⟨py "octo", py "s1_u", py "u", py "dm"⟩

/-- A tool writes to the saved id there, and a reply to the uid in it. -/
theorem toolRoute_agrees_old :
    let turn := turnOf (py "bot") (some oldSession)
    Agrees asciiDigits oldAdapter turn sampleRuntime (py "s1_u") ∧
      (trustedRoute asciiDigits oldRoutes sampleRuntime (some oldSession) true).map
          (fun route => (route.channelId, route.channelType)) = some (py "s1_u", .DM) ∧
      (replyAddress asciiDigits sampleRuntime (py "s1_u")
        (oldAdapter.resolveOutbound turn (py "s1_u") none none)).1 = py "u" := by
  intro turn
  have filed : Filed oldAdapter := by
    constructor
    all_goals
      intro robotId runtime known
      simp only [oldAdapter, Dict.get?_set, Dict.get?_empty] at known
      split_ifs at known with same
      cases known
    · exact List.mem_singleton_self _
    · exact same
  refine ⟨(toolRoute_agrees asciiDigits rfl filed _ _).1 _ ?_, ?_, ?_⟩
  · rfl
  · rfl
  · rfl

end Agreement

end OctoChannel.Tools
