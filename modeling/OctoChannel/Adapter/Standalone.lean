import OctoChannel.Adapter.Outbound
import OctoChannel.Adapter.RoutesKept
import OctoChannel.Identity.Phases
import OctoChannel.Identity.Tokens

/-! Delivery from a process of its own: `_standalone_route` finds the identity of a chat in
the durable state, where the gateway finds it in memory. -/

namespace OctoChannel.Adapter

open Foundation Identity

/-- What `_standalone_route` returns; without a token, `error` says why. -/
structure StandaloneRoute where
  botToken : PyStr
  channelType : Option ChannelType
  wireChatId : Option PyStr
  error : PyStr

namespace StandaloneRoute

def refuse (error : PyStr) : StandaloneRoute := ⟨[], none, none, error⟩

end StandaloneRoute

/-- The configuration and the documents that a delivery process finds. -/
structure Standalone where
  rawBotToken : Json
  homeChatId : PyStr
  disk : Disk
  cards : Bool

/-- Several tokens, or a profile that has left the single phase, need a route. -/
def routingMode (tokens : List PyStr) (metadata : Option IdentityMetadata) : Bool :=
  1 < tokens.length || metadata.any fun metadata => metadata.phase ≠ .single

/-- The probes: the first token that registers as the expected identity. -/
def probe (register : PyStr → Option PyStr) (expectedRobotId : PyStr)
    (channelType : Option ChannelType)
    (wireChatId : Option PyStr) : List PyStr → StandaloneRoute
  | [] => .refuse (unavailableIdentityError expectedRobotId)
  | token :: rest =>
    match register token with
    | none => probe register expectedRobotId channelType wireChatId rest
    | some robotId =>
      if robotId = expectedRobotId then ⟨token, channelType, wireChatId, []⟩
      else probe register expectedRobotId channelType wireChatId rest

/-- The identity that a chat id belongs to, and the token that registers as it. -/
def standaloneTarget (register : PyStr → Option PyStr) (tokens : List PyStr) (routes : Registry)
    (metadata : Option IdentityMetadata) (homeChatId chatId : PyStr) : StandaloneRoute :=
  match routes.lookupChatId chatId with
  | some lookup =>
    probe register lookup.robotId.val (some lookup.channelType)
      (some (resolvedWireChatId chatId lookup.channelType lookup.wireChatId.val)) tokens
  | none =>
    if routes.chatIdHasState chatId then .refuse unknownRouteError
    else if homeChatId ≠ [] ∧ chatId = homeChatId then
      match metadata with
      | none => .refuse unknownRouteError
      | some metadata =>
        match metadata.legacyRobotId with
        | none => .refuse (py "Octo legacy primary identity is not available")
        | some legacyRobotId => probe register legacyRobotId.val none (some chatId) tokens
    else .refuse unknownRouteError

/-- `has_routing_evidence`, the existence of card bindings being given. -/
def Standalone.hasRoutingEvidence (process : Standalone) : Bool :=
  process.disk.routes.current.isSome || process.disk.routes.backup.isSome ||
    process.disk.plan.isSome || process.cards

variable (runtime : Json.Runtime) (sha256 : Bytes → Bytes)

/-- `_standalone_route`, where `register` asks the server which robot a token is; it fails
for a token that cannot be probed. -/
def standaloneRoute (register : PyStr → Option PyStr) (process : Standalone) (chatId : PyStr) :
    Except PyError StandaloneRoute :=
  match parseBotTokens process.rawBotToken with
  | .error error => .error error
  | .ok [] => .ok (.refuse (py "OCTO_BOT_TOKEN is not configured"))
  | .ok (first :: rest) =>
    match loadMetadata runtime sha256 process.disk.metadata with
    | .error (.runtimeError _) => .ok (.refuse (py "Octo identity routing state is unusable"))
    | .error error => .error error
    | .ok metadata =>
      match Registry.start runtime sha256 process.disk.routes with
      | (_, some (.runtimeError _)) => .ok (.refuse (py "Octo identity routing state is unusable"))
      | (_, some error) => .error error
      | (routes, none) =>
        if metadata.isNone && process.hasRoutingEvidence then
          .ok (.refuse (py "Octo identity routing state is ambiguous"))
        else if !routingMode (first :: rest) metadata then .ok ⟨first, none, some chatId, []⟩
        else
          .ok (standaloneTarget register (first :: rest) routes metadata process.homeChatId chatId)

/-- The gateway whose runtimes, named by their tokens, are all online, each as the robot
that its token registers as. -/
structure Serves (register : PyStr → Option PyStr) (process : Standalone)
    (metadata : IdentityMetadata) (adapter : OctoAdapter PyStr) : Prop where
  tokens : parseBotTokens process.rawBotToken = .ok adapter.runtimes
  configured : adapter.runtimes ≠ []
  profile : loadMetadata runtime sha256 process.disk.metadata = .ok (some metadata)
  mode : adapter.soleIdentityMode = !routingMode adapter.runtimes (some metadata)
  legacy : adapter.soleIdentityMode = false →
    adapter.legacyPrimaryRobotId = metadata.legacyRobotId.elim [] (·.val)
  home : adapter.homeChannelChatId = process.homeChatId
  online : ∀ robotId token, adapter.Registered robotId token ↔
    token ∈ adapter.runtimes ∧ register token = some robotId

/-- Every group is recorded under its own chat id on the wire. -/
def GroupsWired (routes : Registry) : Prop :=
  ∀ target channelType wire, routes.targetChannelTypes.get? target = some channelType →
    channelType ≠ .DM → routes.targetWireIds.get? target = some wire → wire.val = target.2.val

/-- Both processes deliver through the same token to the same address, or neither does. -/
structure Agrees (routes : Registry) (chatId : PyStr) (gateway : Outbound PyStr)
    (route : StandaloneRoute) : Prop where
  token : gateway.runtime = if route.botToken = [] then none else some route.botToken
  channelType : (gateway.metadata.bind fun metadata => metadata.get? (py "channel_type")) =
    route.channelType.map fun channelType => .int channelType.code
  direct : route.channelType = some .DM → route.wireChatId = gateway.spaceDmTarget
  shared : GroupsWired routes → route.botToken ≠ [] → route.channelType ≠ some .DM →
    route.wireChatId = some chatId
  error : route.error = gateway.error ∨
    route.error = py "Octo legacy primary identity is not available"

variable {runtime sha256} {register : PyStr → Option PyStr} {process : Standalone}
  {metadata : IdentityMetadata} {adapter : OctoAdapter PyStr} {routes : Registry} {chatId : PyStr}

theorem agrees_refuse (error : PyStr) :
    Agrees routes chatId (OctoAdapter.refuse none error) (.refuse error) where
  token := rfl
  channelType := rfl
  direct never := by cases never
  shared _ never := absurd rfl never
  error := .inl rfl

private theorem probe_found {tokens : List PyStr} {token robotId : PyStr} (member : token ∈ tokens)
    (registers : register token = some robotId)
    (only : ∀ other ∈ tokens, register other = some robotId → other = token)
    (channelType : Option ChannelType) (wireChatId : Option PyStr) :
    probe register robotId channelType wireChatId tokens =
      ⟨token, channelType, wireChatId, []⟩ := by
  induction tokens with
  | nil => cases member
  | cons first rest ih =>
    rw [List.forall_mem_cons] at only
    rw [probe]
    by_cases same : register first = some robotId
    · obtain rfl := only.1 same
      simp [same]
    · have later : token ∈ rest := by
        rcases List.mem_cons.mp member with rfl | later
        · exact absurd registers same
        · exact later
      cases answer : register first with
      | none => exact ih later only.2
      | some other =>
        rw [answer, Option.some.injEq] at same
        simpa [same] using ih later only.2

private theorem probe_missing {tokens : List PyStr} {robotId : PyStr}
    (absent : ∀ token ∈ tokens, register token ≠ some robotId) (channelType : Option ChannelType)
    (wireChatId : Option PyStr) : probe register robotId channelType wireChatId tokens =
      .refuse (unavailableIdentityError robotId) := by
  induction tokens with
  | nil => rfl
  | cons first rest ih =>
    rw [List.forall_mem_cons] at absent
    rw [probe]
    cases answer : register first with
    | none => exact ih absent.2
    | some other =>
      have different : other ≠ robotId := fun same => absent.1 (same ▸ answer)
      simpa [different] using ih absent.2

/-- The probes find the runtime that is connected for a robot, and no other. -/
theorem Serves.probe (serves : Serves runtime sha256 register process metadata adapter)
    (robotId : PyStr) (channelType : Option ChannelType) (wireChatId : Option PyStr) :
    probe register robotId channelType wireChatId adapter.runtimes =
      match adapter.connectedRuntime robotId with
      | some token => ⟨token, channelType, wireChatId, []⟩
      | none => .refuse (unavailableIdentityError robotId) := by
  cases connected : adapter.connectedRuntime robotId with
  | some token =>
    have registered := (serves.online robotId token).mp
      (OctoAdapter.connectedRuntime_eq_some_iff.mp connected)
    refine probe_found registered.1 registered.2 ?_ channelType wireChatId
    intro other member registers
    have found := OctoAdapter.connectedRuntime_eq_some_iff.mpr
      ((serves.online robotId other).mpr ⟨member, registers⟩)
    rw [connected] at found
    exact (Option.some.inj found).symm
  | none =>
    refine probe_missing ?_ channelType wireChatId
    intro token member registers
    have found := OctoAdapter.connectedRuntime_eq_some_iff.mpr
      ((serves.online robotId token).mpr ⟨member, registers⟩)
    rw [connected] at found
    cases found

theorem Serves.filled (serves : Serves runtime sha256 register process metadata adapter) :
    ∀ token ∈ adapter.runtimes, token ≠ [] := by
  have accepted := serves.tokens
  cases given : process.rawBotToken with
  | null =>
    rw [given] at accepted
    exact absurd (Except.ok.inj accepted).symm serves.configured
  | str raw =>
    rw [given] at accepted
    rcases parseBotTokens_eq_ok_iff.mp accepted with ⟨-, none⟩ | ⟨-, same, distinct⟩
    · exact absurd none serves.configured
    · rintro token member rfl
      exact distinct.filled (same ▸ member)
  | bool | int | float | arr | obj =>
    rw [given] at accepted
    cases accepted

/-- What a lookup says of the address of its target. -/
private theorem lookupChatId_address {lookup : TargetLookup}
    (found : routes.lookupChatId chatId = some lookup) :
    ∃ target : TargetKey, target.2.val = chatId ∧
      routes.targetChannelTypes.get? target = some lookup.channelType ∧
      routes.targetWireIds.get? target = some lookup.wireChatId := by
  unfold Registry.lookupChatId at found
  split at found
  · cases found
  · rename_i chat present
    split at found
    · cases found
    · rename_i chatType robotId sole
      split at found
      · cases found
      · split at found
        · rename_i channelType wire typed wired
          cases found
          exact ⟨(chatType, chat), nonempty?_eq_some present, typed, wired⟩
        · cases found

private theorem resolvedWireChatId_shared {channelType : ChannelType} (shared : channelType ≠ .DM)
    (wire : PyStr) : resolvedWireChatId chatId channelType wire = wire := by
  rw [resolvedWireChatId, if_neg]
  exact fun direct => shared direct.1

/-- Over one registry, the two processes decide alike about a chat. -/
private theorem Serves.target_agrees
    (serves : Serves runtime sha256 register process metadata adapter)
    (multi : adapter.soleIdentityMode = false) :
    Agrees adapter.routes chatId (adapter.resolveByChatId chatId none)
      (standaloneTarget register adapter.runtimes adapter.routes (some metadata)
        process.homeChatId chatId) := by
  have filled {robotId token : PyStr} (connected : adapter.connectedRuntime robotId = some token) :
      token ≠ [] := by
    have registered := (serves.online robotId token).mp
      (OctoAdapter.connectedRuntime_eq_some_iff.mp connected)
    exact serves.filled token registered.1
  unfold OctoAdapter.resolveByChatId standaloneTarget
  cases found : adapter.routes.lookupChatId chatId with
  | some lookup =>
    dsimp only
    rw [serves.probe]
    cases connected : adapter.connectedRuntime lookup.robotId.val with
    | none => exact agrees_refuse _
    | some token =>
      refine { token := by simp [OctoAdapter.serveTarget, filled connected], channelType := ?_,
               direct := ?_, shared := ?_, error := .inl rfl }
      · simp only [OctoAdapter.serveTarget, Option.getD_none, Option.bind_some, Option.map_some]
        exact Dict.get?_setDefault_of_absent rfl _
      · intro direct
        simp only [Option.some.injEq] at direct
        simp [OctoAdapter.serveTarget, direct]
      · intro wired _ shared
        simp only [ne_eq, Option.some.injEq] at shared
        obtain ⟨target, same, typed, wire⟩ := lookupChatId_address found
        rw [resolvedWireChatId_shared shared, wired target _ _ typed shared wire, same]
  | none =>
    dsimp only
    rw [serves.home]
    split
    · exact agrees_refuse _
    · split
      · have primary := serves.legacy multi
        cases known : metadata.legacyRobotId with
        | none =>
          rw [known, Option.elim_none] at primary
          rw [if_pos primary]
          exact
            { token := rfl
              channelType := rfl
              direct := fun never => by cases never
              shared := fun _ never => absurd rfl never
              error := .inr rfl }
        | some legacyRobotId =>
          rw [known, Option.elim_some] at primary
          rw [primary, if_neg (OctoAdapter.robotId_ne_nil legacyRobotId)]
          dsimp only
          rw [serves.probe]
          cases connected : adapter.connectedRuntime legacyRobotId.val with
          | none => exact agrees_refuse _
          | some token =>
            exact
              { token := by simp [OctoAdapter.serve, filled connected]
                channelType := rfl
                direct := fun never => by cases never
                shared := fun _ _ _ => rfl
                error := .inl rfl }
      · exact agrees_refuse _

private theorem lookupChatId_of_agree (chatId : PyStr) {first second : Registry}
    (agree : first.Agree second) :
    first.lookupChatId chatId = second.lookupChatId chatId ∧
      first.chatIdHasState chatId = second.chatIdHasState chatId := by
  have holders (chat : ChatId) : first.holders chat = second.holders chat := by
    rw [Registry.holders, Registry.holders, Links.members, Links.members, agree.index]
  simp only [Registry.lookupChatId, Registry.chatIdHasState, holders, agree.targetConflicts,
    agree.types, agree.wires, and_self]

/-- A process that reads the documents of a registry knows the same routes. -/
private theorem start_of_carried {files : Registry.Files} (invariant : routes.Invariant)
    (carried : RouteFlush.Carried runtime sha256 files routes.bodyLocked) :
    ∃ loaded, Registry.start runtime sha256 files = (loaded, none) ∧ loaded.Agree routes := by
  unfold RouteFlush.Carried at carried
  split at carried
  · rename_i absent
    refine ⟨_, Registry.start_of_absent absent, ?_⟩
    have replayed := Registry.applyBody_bodyLocked_ok invariant Registry.fresh
    rw [carried, Registry.applyBody_bodyLocked_ok Registry.invariant_fresh,
      Prod.mk.injEq] at replayed
    have agree := Registry.agree_restored Registry.invariant_fresh Registry.fresh
    rw [replayed.1] at agree
    exact agree.symm.trans (Registry.agree_restored invariant Registry.fresh)
  · rename_i file found
    obtain ⟨fallback, loaded, started, replayed, -⟩ := Registry.start_of_holds found carried
    rw [Registry.applyBody_bodyLocked_ok invariant, Prod.mk.injEq] at replayed
    exact ⟨loaded, started, replayed.1 ▸ Registry.agree_restored invariant _⟩

/-- Once its changes are saved, a gateway and a delivery process of the same profile send
a message of no turn from the same robot, or both refuse it. -/
theorem standaloneRoute_agrees {soleIdentityMode : Bool} {events : List RouteFlush.Event}
    (lossless : (RouteFlush.machine runtime sha256 soleIdentityMode).Along
      (RouteFlush.Meets runtime sha256) events)
    (idle : ((RouteFlush.machine runtime sha256 soleIdentityMode).run events).flight = none)
    (clean :
      ((RouteFlush.machine runtime sha256 soleIdentityMode).run events).registry.dirty = false)
    (serves : Serves runtime sha256 register process metadata adapter)
    (live : adapter.routes =
      ((RouteFlush.machine runtime sha256 soleIdentityMode).run events).registry)
    (durable : process.disk.routes =
      ((RouteFlush.machine runtime sha256 soleIdentityMode).run events).files) :
    ∃ route, standaloneRoute runtime sha256 register process chatId = .ok route ∧
      Agrees adapter.routes chatId (adapter.resolveOutbound ⟨[], []⟩ chatId none none) route := by
  have sound := RouteFlush.run_sound lossless
  obtain ⟨loaded, started, agree⟩ := start_of_carried sound.invariant (sound.saved idle clean)
  rw [← live] at agree
  rw [← durable] at started
  obtain ⟨looked, stated⟩ := lookupChatId_of_agree chatId agree
  have listed := serves.tokens
  have mode := serves.mode
  cases tokens : adapter.runtimes with
  | nil => exact absurd tokens serves.configured
  | cons first rest =>
    rw [tokens] at listed mode
    simp only [standaloneRoute, OctoAdapter.resolveOutbound, listed, serves.profile, started,
      tokens,
      Option.isNone_some, Bool.false_and, Bool.false_eq_true, if_false]
    cases sole : adapter.soleIdentityMode with
    | true =>
      rw [sole] at mode
      refine ⟨_, if_pos mode.symm, ?_⟩
      have filled : first ≠ [] := serves.filled first (tokens ▸ List.mem_cons_self)
      exact
        { token := by simp [OctoAdapter.serve, filled]
          channelType := rfl
          direct := fun never => by cases never
          shared := fun _ _ _ => rfl
          error := .inl rfl }
    | false =>
      rw [sole] at mode
      refine ⟨_, if_neg (by simp [← mode]), ?_⟩
      have same : standaloneTarget register (first :: rest) loaded (some metadata)
          process.homeChatId chatId = standaloneTarget register adapter.runtimes adapter.routes
            (some metadata) process.homeChatId chatId := by
        rw [standaloneTarget, standaloneTarget, looked, stated, tokens]
      rw [same]
      have unnamed : adapter.trustedRobotId ⟨[], []⟩ none = some [] := by
        have keyless : OctoAdapter.outboundKey ⟨[], []⟩ none = [] := rfl
        simp [OctoAdapter.trustedRobotId, keyless, Registry.sessionConflict,
          Registry.robotIdForSession, nonempty?]
      rw [unnamed]
      exact serves.target_agrees sole

/-- A group message binds its chat, and the flush task starts to write. -/
def writingRun : List RouteFlush.Event :=
  [.connect, .bindInboundRoute ⟨py "robot", some (py "s"), .Group, py "g", none, false⟩, .runTask]

private theorem printable_writingRun {runtime : Json.Runtime} :
    ((RouteFlush.machine runtime sha256 false).run writingRun).registry.Printable := by
  refine ⟨?_, ?_, fun key contested => absurd contested (Finset.notMem_empty key)⟩
  · intro key routed
    have listed := (Dict.mem_keys_iff _ key).mpr routed
    have keys :
        ((RouteFlush.machine runtime sha256 false).run writingRun).registry.sessionRoutes.keys =
        [⟨py "s", by decide⟩] := by rfl
    rw [keys, List.mem_singleton] at listed
    rw [listed]
    exact encodable_py "s"
  · intro other routed
    have listed := (Dict.mem_keys_iff _ other).mpr routed
    have keys :
        ((RouteFlush.machine runtime sha256 false).run writingRun).registry.targetRoutes.keys =
        [(.group, ⟨py "g", by decide⟩)] := by rfl
    rw [keys, List.mem_singleton] at listed
    rw [listed]
    exact encodable_py "g"

/-- The second token registers as the robot of the group. -/
def secondRegisters (token : PyStr) : Option PyStr :=
  if token = py "second" then some (py "robot") else none

def twoRuntimes (routes : Registry) : OctoAdapter PyStr where
  runtimes := [py "first", py "second"]
  runtimesByRobotId := Dict.empty.set (py "robot") (py "second")
  isRuntimeConnected _ := true
  routes := routes
  soleIdentityMode := false
  legacyPrimaryRobotId := py "robot"
  homeChannelChatId := []

private theorem online_twoRuntimes (robotId token : PyStr) :
    (twoRuntimes routes).Registered robotId token ↔
      token ∈ (twoRuntimes routes).runtimes ∧ secondRegisters token = some robotId := by
  have distinct : py "first" ≠ py "second" := by decide
  simp only [OctoAdapter.Registered, twoRuntimes, Dict.get?_set, Dict.get?_empty, secondRegisters,
    List.mem_cons, List.not_mem_nil, or_false, and_true, Option.ite_none_right_eq_some,
    Option.some.injEq]
  constructor
  · rintro ⟨rfl, rfl⟩
    exact ⟨.inr rfl, rfl, rfl⟩
  · rintro ⟨-, rfl, rfl⟩
    exact ⟨rfl, rfl⟩

private theorem serves_twoRuntimes {file : Option FileContent} (files : Registry.Files)
    (read : loadMetadata runtime sha256 file =
      .ok (some ⟨.migrated, some ⟨py "robot", by decide⟩, 0⟩)) (routes : Registry) :
    Serves runtime sha256 secondRegisters
      ⟨.str (py "first;second"), [], ⟨file, none, files⟩, false⟩
      ⟨.migrated, some ⟨py "robot", by decide⟩, 0⟩ (twoRuntimes routes) where
  tokens := by
    have parsed : parseBotTokens (.str (py "first;second")) = .ok [py "first", py "second"] := by
      decide +kernel
    exact parsed
  configured := List.cons_ne_nil _ _
  profile := read
  mode := rfl
  legacy _ := rfl
  home := rfl
  online := online_twoRuntimes

theorem standaloneRoute_agrees_saved :
    let runtime : Json.Runtime := ⟨1000, 1000, by decide, by decide, fun _ => "0.0"⟩
    let state := (RouteFlush.machine runtime id false).run (writingRun ++ [.endWrite .durable])
    ∃ file, ∃ route, standaloneRoute runtime id secondRegisters
        ⟨.str (py "first;second"), [], ⟨file, none, state.files⟩, false⟩ (py "g") = .ok route ∧
      Agrees state.registry (py "g")
        ((twoRuntimes state.registry).resolveOutbound ⟨[], []⟩ (py "g") none none) route := by
  intro runtime
  obtain ⟨file, read, -⟩ := @Store.saveMetadata_done runtime id
    ⟨⟨none, none, .absent⟩, .fresh, none, ⟨0, none, []⟩⟩
    ⟨.migrated, some ⟨py "robot", by decide⟩, 0⟩
    (Nat.zero_le _)
  have begun : (RouteFlush.machine runtime id false).Follows (RouteFlush.Meets runtime id)
      (.start false) writingRun := by
    refine ⟨trivial, ?_, trivial, trivial⟩
    exact fun quiet => absurd rfl (quiet _ rfl).1
  have sound := RouteFlush.run_sound (Machine.along_of_follows begun)
  obtain ⟨content, written⟩ := Registry.documentBytes_bodyLocked runtime id sound.invariant
    printable_writingRun
  have under : ((RouteFlush.machine runtime id false).run writingRun).flight =
      some ⟨((RouteFlush.machine runtime id false).run writingRun).registry.bodyLocked, true, true,
        false⟩ := rfl
  have unsaved :
      ((RouteFlush.machine runtime id false).run writingRun).registry.dirty = false := rfl
  have lands : RouteFlush.Meets runtime id ((RouteFlush.machine runtime id false).run writingRun)
      (.endWrite .durable) := by
    intro flight error writing pending raised
    rw [under, Option.some.injEq] at writing
    subst writing
    simp [RouteFlush.land, written] at raised
  have along : (RouteFlush.machine runtime id false).Along (RouteFlush.Meets runtime id)
      (writingRun ++ [.endWrite .durable]) :=
    Machine.along_of_follows ⟨begun.1, begun.2.1, begun.2.2.1, lands, trivial⟩
  have idle : ((RouteFlush.machine runtime id false).run
      (writingRun ++ [.endWrite .durable])).flight = none := by
    rw [Machine.run_append]
    generalize (RouteFlush.machine runtime id false).run writingRun = writing at *
    simp [RouteFlush.machine, RouteFlush.step, under, RouteFlush.State.endWrite, RouteFlush.land,
      written]
  have clean : ((RouteFlush.machine runtime id false).run
      (writingRun ++ [.endWrite .durable])).registry.dirty = false := by
    rw [Machine.run_append]
    generalize (RouteFlush.machine runtime id false).run writingRun = writing at *
    simp [RouteFlush.machine, RouteFlush.step, under, RouteFlush.State.endWrite, RouteFlush.land,
      written, unsaved]
  generalize reached : (RouteFlush.machine runtime id false).run
    (writingRun ++ [.endWrite .durable]) = state at idle clean ⊢
  refine ⟨file, standaloneRoute_agrees along ?_ ?_ (serves_twoRuntimes _ read _) ?_ ?_⟩
  · rw [reached, idle]
  · rw [reached, clean]
  · rw [reached]
    rfl
  · rw [reached]

end OctoChannel.Adapter
